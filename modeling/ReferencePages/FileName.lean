/-
**File names and the classes they promise.**

* `fileStem`: the name of a file without its directories and its extension;
* `expectedClass`: the class that a file's name promises: `my_widget.py` promises `MyWidget`. An
  empty piece, before a leading or between doubled underscores, stays an underscore.
-/

import ReferencePages.Text.CaseMap

namespace ReferencePages

open Text

/-- A character that separates directories. -/
def isSeparator (c : Char) : Bool := c == '/' || c == '\\'

/-- What follows the last separator of directories. -/
def fileName (path : Text) : Text := (path.reverse.takeWhile (! isSeparator ·)).reverse

/-- The file's name up to its last dot; a dot at the start of the name is part of it. -/
def fileStem (path : Text) : Text :=
  let name := fileName path
  match cutLastWhere? (· == '.') name with
  | some (stem, _) => if stem.isEmpty then name else stem
  | none => name

/-- A piece of a file name with its first letter in upper case and the others in lower case. -/
def capitalized : Text → Text
  | [] => ['_']
  | first :: rest => upperChar first ++ rest.flatMap lowerChar

/-- The class that the name of a file promises. -/
def expectedClass (path : Text) : Text := ((fileStem path).splitOn '_').flatMap capitalized

end ReferencePages
