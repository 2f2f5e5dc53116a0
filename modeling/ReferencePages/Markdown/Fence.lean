/-
**Code fences.**

A line that starts, after blanks, with three backticks or three tildes opens a fence; the next line
that starts with the same mark closes it. What stands inside a fence, and the lines that open and
close it, are code; every other line is prose.
-/

import ReferencePages.Text.Blank

namespace ReferencePages.Markdown

open Text

/-- The two kinds of fences. -/
inductive Fence where
  | backticks
  | tildes
  deriving DecidableEq

/-- The mark of a fence. -/
def Fence.mark : Fence → Text
  | .backticks => "```".toList
  | .tildes => "~~~".toList

/-- The line starts with the mark of the fence. -/
def Fence.marks (fence : Fence) (line : Line) : Bool := opensWith fence.mark (trimStart line)

/-- The fence that a line opens where none is open. -/
def fenceOpened? (line : Line) : Option Fence :=
  if Fence.backticks.marks line then some .backticks
  else if Fence.tildes.marks line then some .tildes
  else none

/-- The fence that is open after a line. -/
def fenceAfter (fence : Option Fence) (line : Line) : Option Fence :=
  match fence with
  | some opened => if opened.marks line then none else some opened
  | none => fenceOpened? line

/-- The line is prose. -/
def isProse (fence : Option Fence) (line : Line) : Bool :=
  fence.isNone && (fenceOpened? line).isNone

/-- The fence that is open after several lines. -/
def fenceAfterAll (fence : Option Fence) (lines : List Line) : Option Fence :=
  lines.foldl fenceAfter fence

end ReferencePages.Markdown
