/-
**Paths.**

A path is a text of names between slashes. Two paths are the same when their components are: empty
names and inner dots play no part, a leading dot does. Paths are ordered component by component,
directories before the files whose names go on.

* `components`, `same`, `precedes`: equality and order;
* `parent`, `upwards`, `child`, `extension?`: a path taken apart and put together, as texts.
-/

import ReferencePages.Text.Basic

namespace ReferencePages.Path

open Text

/-- A step of a path. -/
inductive Component where
  | root
  | current
  | parent
  | name (text : Text)
  deriving DecidableEq

/-- The names between the slashes. -/
def pieces (path : Text) : List Text := path.splitOn '/'

/-- The path starts at the root. -/
def isAbsolute (path : Text) : Bool := path.head? = some '/'

/-- The step that a name inside a path makes, if any. -/
def innerComponent? (piece : Text) : Option Component :=
  if piece.isEmpty || piece = ['.'] then none
  else if piece = ['.', '.'] then some .parent
  else some (.name piece)

/-- The steps of a path. -/
def components (path : Text) : List Component :=
  let inner := (pieces path).filterMap innerComponent?
  if isAbsolute path then .root :: inner
  else if (pieces path).head? = some ['.'] then .current :: inner
  else inner

/-- The paths have the same components. -/
def same (first second : Text) : Bool := components first = components second

/-- The place of a kind of component in the order. -/
def Component.rank : Component → Nat
  | .root => 0
  | .current => 1
  | .parent => 2
  | .name _ => 3

/-- The first component comes before the second: names by code points, after all other
components. -/
def Component.comesBefore : Component → Component → Bool
  | .name first, .name second => Text.comesBefore first second
  | first, second => first.rank.blt second.rank

/-- The first path does not come after the second. -/
def precedes (first second : Text) : Bool :=
  ! List.lex (components second) (components first) Component.comesBefore

/-- Each path that is the same as the one before it dropped. -/
def dropRepeats : List Text → List Text
  | [] => []
  | first :: rest =>
    match dropRepeats rest with
    | [] => [first]
    | second :: others => if same first second then first :: others else first :: second :: others

/-- The paths in order, each once; of several spellings the first one stays. -/
def sortedOnce (paths : List Text) : List Text := dropRepeats (paths.mergeSort precedes)

/-! ### Parts -/

/-- A name that makes no step inside a path. -/
def isIdle (piece : Text) : Bool := (innerComponent? piece).isNone

/-- The names without the idle ones at the end; the first one stays. -/
def dropIdleEnd : List Text → List Text
  | [] => []
  | first :: rest => first :: (rest.reverse.dropWhile isIdle).reverse

/-- The path without its last component; a path without components, and the root, have none. -/
def parent? (path : Text) : Option Text :=
  match components path with
  | [] => none
  | [.root] => none
  | [.root, _] => some ['/']
  | _ => some (join ['/'] (dropIdleEnd (dropIdleEnd (pieces path)).dropLast))

/-- The path, the directory that it lies in, and so on up, with a bound on their number. -/
def upwardsWithin : Nat → Text → List Text
  | 0, _ => []
  | bound + 1, path =>
    if path.isEmpty then []
    else
      path :: match parent? path with
        | some above => upwardsWithin bound above
        | none => []

/-- The path, the directory that it lies in, and so on up. A path has fewer components than
characters. -/
def upwards (path : Text) : List Text := upwardsWithin (path.length + 1) path

/-- The directory that a path lies in, as it is written. -/
def parent (path : Text) : Text := (parent? path).getD []

/-- The path of a name in a directory. -/
def child (directory name : Text) : Text :=
  if directory.isEmpty || directory.getLast? = some '/' then directory ++ name
  else directory ++ ['/'] ++ name

/-- What follows the last dot of a file name; a dot at the start of the name does not count. -/
def extension? (name : Text) : Option Text :=
  match cutLastWhere? (· == '.') name with
  | some (stem, extension) => if stem.isEmpty then none else some extension
  | none => none

end ReferencePages.Path
