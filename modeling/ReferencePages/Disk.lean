/-
**Files in memory.**

A disk holds directories and files by the names that lead to them from the root, and knows the
directory that relative paths start from. A path is followed name by name, and every name that is
followed has to stand in a directory. Names and paths that are too long lead nowhere.

* `kind?`, `read`, `names?`: what stands at a path;
* `write`, `makeDirectory`: the disk with a file or a directory more.
-/

import ReferencePages.Path

namespace ReferencePages

/-- What can stand at a path. -/
inductive FileKind where
  | file
  | directory
  | other
  deriving DecidableEq

/-- Why a file cannot be read. -/
inductive ReadError where
  | missing
  | notText
  | isDirectory
  | other (reason : Text)
  deriving DecidableEq

/-- Why nothing can be put at a path: a directory on the way is missing, or something else stops
it. -/
inductive PathError where
  | missing
  | blocked
  deriving DecidableEq

/-- The names that lead from the root to a place. -/
abbrev Location := List Text

/-- What stands at a place: a directory, or a file with its text, if it is one. -/
inductive DiskEntry where
  | directory
  | file (content : Option Text)
  deriving DecidableEq

/-- Directories and files, and the directory that relative paths start from. -/
structure Disk where
  here : Location
  entries : List (Location × DiskEntry)
  deriving DecidableEq

namespace Disk

/-- What stands at a place. The root is always a directory. -/
def entry? (disk : Disk) (place : Location) : Option DiskEntry :=
  if place.isEmpty then some .directory else disk.entries.lookup place

/-- A directory stands at the place. -/
def isDirectory (disk : Disk) (place : Location) : Bool := disk.entry? place = some .directory

/-- The disk with an entry at a place. -/
def put (disk : Disk) (place : Location) (entry : DiskEntry) : Disk :=
  { disk with entries := (place, entry) :: disk.entries.filter (·.1 ≠ place) }

/-- The place that a name leads to from a directory. -/
def step (place : Location) (name : Text) : Location :=
  if name.isEmpty || name = ['.'] then place
  else if name = ['.', '.'] then place.dropLast
  else place ++ [name]

/-- The bytes in the longest name. -/
def nameLimit : Nat := 255

/-- The bytes in the longest path. -/
def pathLimit : Nat := 4095

/-- The place that names lead to; all but the last one pass through directories. -/
def follow (disk : Disk) : Location → List Text → Except PathError Location
  | place, [] => .ok place
  | place, name :: rest =>
    match disk.entry? place with
    | none => .error .missing
    | some (.file _) => .error .blocked
    | some .directory =>
      if nameLimit < Text.byteCount name then .error .blocked
      else disk.follow (step place name) rest

/-- The place that the names of a path lead to, where something may stand or not. -/
def locateBy (disk : Disk) (path : Text) (names : List Text) : Except PathError Location :=
  if path.isEmpty then .error .missing
  else if pathLimit < Text.byteCount path then .error .blocked
  else disk.follow (if Path.isAbsolute path then [] else disk.here) names

/-- The place that a path leads to. With a slash at its end it leads through a directory. -/
def locate (disk : Disk) (path : Text) : Except PathError Location :=
  disk.locateBy path (Path.pieces path)

/-- The place that a path leads to, if it leads anywhere. -/
def place? (disk : Disk) (path : Text) : Option Location := (disk.locate path).toOption

/-- What stands at a path. -/
def find? (disk : Disk) (path : Text) : Option DiskEntry := (disk.place? path).bind disk.entry?

/-- The kind of what stands at a path. -/
def kind? (disk : Disk) (path : Text) : Option FileKind :=
  (disk.find? path).map fun
    | .directory => .directory
    | .file _ => .file

/-- The text of the file at a path. -/
def read (disk : Disk) (path : Text) : Except ReadError Text :=
  match disk.find? path with
  | none => .error .missing
  | some .directory => .error .isDirectory
  | some (.file none) => .error .notText
  | some (.file (some content)) => .ok content

/-- The name of a place in a directory. -/
def nameIn? (directory place : Location) : Option Text :=
  match directory.isPrefixOf? place with
  | some [name] => some name
  | _ => none

/-- The names in the directory at a path. -/
def names? (disk : Disk) (path : Text) : Option (List Text) := do
  let place ← disk.place? path
  if disk.isDirectory place then some (disk.entries.filterMap (nameIn? place ·.1)) else none

/-- The name of the directory at a path. -/
def directoryName? (disk : Disk) (path : Text) : Option Text := do
  let place ← disk.place? path
  if disk.isDirectory place then place.getLast? else none

/-- The disk with a file at a path. Its directory has to be there, and no directory may stand at the
path. -/
def write (disk : Disk) (path content : Text) : Except PathError Disk := do
  let place ← disk.locate path
  if disk.isDirectory place then throw .blocked
  return disk.put place (.file (some content))

/-- The disk with a directory at a path where nothing stands. The directory above has to be there.
Slashes at the end play no part. -/
def makeDirectory (disk : Disk) (path : Text) : Except PathError Disk := do
  let names := ((Path.pieces path).reverse.dropWhile List.isEmpty).reverse
  let place ← disk.locateBy path names
  if (disk.entry? place).isSome then throw .blocked
  return disk.put place .directory

end Disk

end ReferencePages
