/-
**Headings.**

A heading is a line of prose that starts with one to six `#`, followed by a space or by nothing.
`markLines` marks each line of a document with the heading it is, if it is one; `headings` lists the
headings with their line numbers. `groups` cuts a list at its marked elements.
-/

import ReferencePages.Markdown.Fence

namespace ReferencePages.Markdown

open Text

/-- A heading: its level and its text as written. -/
structure Heading where
  level : Nat
  text : Text
  deriving DecidableEq

/-- The deepest level of a heading. -/
def maxLevel : Nat := 6

/-- The heading that a line of prose is. -/
def heading? (line : Line) : Option Heading :=
  let level := (line.takeWhile (· == '#')).length
  let rest := line.drop level
  if level == 0 || maxLevel < level then none
  else if rest.isEmpty || rest.head? = some ' ' then some ⟨level, trim rest⟩
  else none

/-- A line with the heading it is. -/
structure MarkedLine where
  text : Line
  heading : Option Heading
  deriving DecidableEq

/-- The lines of a document whose first line stands where `fence` is open. -/
def markLines (fence : Option Fence) : List Line → List MarkedLine
  | [] => []
  | line :: rest =>
    ⟨line, if isProse fence line then heading? line else none⟩ ::
      markLines (fenceAfter fence line) rest

/-- The marked lines of a document. -/
def marked (t : Text) : List MarkedLine := markLines none (lines t)

/-- The headings among marked lines, with their line numbers, the first line being number `pos`. -/
def headingsFrom (pos : Nat) : List MarkedLine → List (Heading × Nat)
  | [] => []
  | line :: rest =>
    (line.heading.toList.map fun heading => (heading, pos)) ++ headingsFrom (pos + 1) rest

/-- The headings of a document, with their line numbers. -/
def headings (t : Text) : List (Heading × Nat) := headingsFrom 0 (marked t)

/-- The heading of a line when it has the given level. -/
def MarkedLine.headingAt? (level : Nat) (line : MarkedLine) : Option Heading :=
  line.heading.filter (·.level == level)

/-! ### Groups -/

/-- A marked element and the elements after it up to the next marked one. -/
structure Group (α β : Type) where
  key : β
  head : α
  body : List α

/-- The group with its marked element. -/
def Group.all {α β : Type} (group : Group α β) : List α := group.head :: group.body

/-- The elements before the first marked one, and a group for each marked one. -/
def groups {α β : Type} (mark? : α → Option β) : List α → List α × List (Group α β)
  | [] => ([], [])
  | a :: rest =>
    let (before, found) := groups mark? rest
    match mark? a with
    | some key => ([], ⟨key, a, before⟩ :: found)
    | none => (a :: before, found)

end ReferencePages.Markdown
