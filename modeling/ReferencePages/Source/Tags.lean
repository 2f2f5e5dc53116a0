/-
**Tags in the documentation of a function.**

The lines of a function's block are parameter entries (`:param name: text`), return entries
(`:return: text` or `:returns: text`), continuations of the entry above, or body text. A line
continues an entry when it is indented, not blank, and no body line stands between the two
(`DocLine.read`). `Tags.ofLines` puts the lines together.
-/

import ReferencePages.Text.Blank

namespace ReferencePages

open Text

/-- What the lines above the current one have begun. -/
inductive TagTarget where
  | body
  | param
  | returns
  deriving DecidableEq

/-- What a line of a function's block is. -/
inductive DocLine where
  /-- A new parameter entry. -/
  | param (name description : Text)
  /-- A new return entry. -/
  | returns (description : Text)
  /-- A continuation of the entry above. -/
  | continues (text : Text)
  /-- A line of the body. -/
  | body (line : Line)
  deriving DecidableEq

/-- The entry that a trimmed line starts. -/
def tagEntry? (trimmed : Text) : Option DocLine :=
  match after? ":param ".toList trimmed with
  | some rest =>
    let (name, description) := (cutAt? ':' rest).getD (rest, [])
    some (.param (trim name) (trim description))
  | none =>
    ((after? ":returns:".toList trimmed).or (after? ":return:".toList trimmed)).map fun rest =>
      .returns (trim rest)

/-- The line is indented and not blank. -/
def isIndented (line : Line) : Bool := (line.head?.map isBlank).getD false && ! allBlank line

/-- What a line is, below lines that have begun `target`. -/
def DocLine.read (target : TagTarget) (line : Line) : DocLine :=
  match tagEntry? (trim line) with
  | some entry => entry
  | none =>
    if target ≠ .body && isIndented line then .continues (trim line) else .body line

/-- What a line leaves begun. -/
def DocLine.target (above : TagTarget) : DocLine → TagTarget
  | .param _ _ => .param
  | .returns _ => .returns
  | .continues _ => above
  | .body _ => .body

/-- The parameter entries, the return entry and the body of a function's documentation. -/
structure Tags where
  params : List (Text × Text)
  returns : Option Text
  body : Text
  deriving DecidableEq

namespace Tags

/-- Entries under way: parameters and body lines last first. -/
structure Progress where
  target : TagTarget
  params : List (Text × Text)
  returns : Option Text
  body : List Line

/-- More words for a description, one space after what is there. -/
def appendWords (description more : Text) : Text :=
  if description.isEmpty then more else description ++ [' '] ++ more

/-- The entries with a continuation of the one that `target` names. -/
def Progress.continueWith (progress : Progress) (text : Text) : Progress :=
  match progress.target, progress.params with
  | .param, (name, description) :: rest =>
    { progress with params := (name, appendWords description text) :: rest }
  | .returns, _ => { progress with returns := progress.returns.map (appendWords · text) }
  | _, _ => progress

/-- The entries after one more line. -/
def Progress.add (progress : Progress) (line : Line) : Progress :=
  let read := DocLine.read progress.target line
  let added := match read with
    | .param name description =>
      { progress with params := (name, description) :: progress.params }
    | .returns description => { progress with returns := some description }
    | .continues text => progress.continueWith text
    | .body line => { progress with body := line :: progress.body }
  { added with target := read.target progress.target }

/-- The entries and the body in the lines of a block. The last return entry counts. -/
def ofLines (lines : List Line) : Tags :=
  let progress := lines.foldl Progress.add ⟨.body, [], none, []⟩
  ⟨progress.params.reverse, progress.returns, trim (joinLines progress.body.reverse)⟩

end Tags

end ReferencePages
