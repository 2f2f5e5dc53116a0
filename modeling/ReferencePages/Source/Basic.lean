/-
**Sources.**

A source is a named list of lines. Readers look at the lines from some position on: they are given
the number of the first line they may see and the lines from there to the end, so what they find
cannot depend on the lines before it.

* `firstWritten`: the first line that is not blank;
* `collect`: every fragment that a finder meets, each search resuming where the last one ended.
-/

import ReferencePages.Source.Error
import ReferencePages.Text.Blank

namespace ReferencePages

/-- A source: the name it is shown by, and its lines, numbered from zero. -/
structure Source where
  name : Text
  lines : List Line

namespace Source

/-- The source that a text spells. -/
def ofText (name text : Text) : Source := ⟨name, Text.lines text⟩

/-- The lines from position `start` on. -/
def linesFrom (source : Source) (start : Nat) : List Line := source.lines.drop start

/-- The lines as one text. -/
def text (source : Source) : Text := Text.joinLines source.lines

end Source

/-- A line that is not blank: its number, its text and the lines after it. -/
structure WrittenLine where
  line : Nat
  text : Line
  after : List Line

/-- The first line that is not blank. -/
def firstWritten (pos : Nat) : List Line → Option WrittenLine
  | [] => none
  | line :: rest =>
    if Text.allBlank line then firstWritten (pos + 1) rest else some ⟨pos, line, rest⟩

/-- Searches the lines from a position on for a fragment; the number that comes with it is the
position to resume from. -/
abbrev Finder (α : Type) := Nat → List Line → Except ScanError (Option (α × Nat))

/-- Every fragment that a finder meets from position `pos` on, with the positions it resumes from.
Lines before `resume` belong to the fragment found last. -/
def collect {α : Type} (find : Finder α) :
    (resume pos : Nat) → List Line → Except ScanError (List (α × Nat))
  | _, _, [] => .ok []
  | resume, pos, line :: rest =>
    if pos < resume then collect find resume (pos + 1) rest
    else
      match find pos (line :: rest) with
      | .error error => .error error
      | .ok none => .ok []
      | .ok (some (found, next)) =>
        match collect find next (pos + 1) rest with
        | .error error => .error error
        | .ok more => .ok ((found, next) :: more)

end ReferencePages
