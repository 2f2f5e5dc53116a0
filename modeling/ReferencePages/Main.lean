/-
**The program.**

The command line on the files of the machine it runs on. Reports go to the error stream.
-/

import ReferencePages.Command.Run

namespace ReferencePages

/-- A run on the machine, with the switch that shows its progress. -/
abbrev Shell := ReaderT Bool IO

namespace Shell

/-- The text as a string. -/
def string (t : Text) : String := String.ofList t

/-- The entry that a path leads to from the working directory. -/
def located (path : Text) : IO.FS.DirEntry := ⟨".", string path⟩

/-- What an action gives, or nothing when it fails. -/
def attempt? {α : Type} (action : IO α) : IO (Option α) := do
  try return some (← action) catch _ => return none

/-- An action that puts something at a path, or why it fails. -/
def putting (action : IO Unit) : IO (Except PathError Unit) := do
  try
    action
    return .ok ()
  catch
    | .noFileOrDirectory .. => return .error .missing
    | _ => return .error .blocked

/-- The kind of what stands at a path. -/
def kind? (path : Text) : IO (Option FileKind) := do
  if path.isEmpty then return none
  return (← attempt? (located path).path.metadata).map fun data =>
    match data.type with
    | .dir => .directory
    | .file => .file
    | _ => .other

/-- The text of the file at a path. -/
def read (path : Text) : IO (Except ReadError Text) := do
  match ← kind? path with
  | none => return .error .missing
  | some .directory => return .error .isDirectory
  | _ =>
    try
      match String.fromUTF8? (← IO.FS.readBinFile (string path)) with
      | some text => return .ok text.toList
      | none => return .error .notText
    catch error => return .error (.other (toString error).toList)

/-- The names in the directory at a path. -/
def names? (path : Text) : IO (Option (List Text)) := do
  let found ← attempt? (located path).path.readDir
  return found.map fun entries => (entries.map (·.fileName.toList)).toList

/-- The name of the directory at a path. -/
def directoryName? (path : Text) : IO (Option Text) := do
  if (← kind? path) = some .directory then
    let real ← attempt? (IO.FS.realPath (string path))
    return (real.bind (·.fileName)).map (·.toList)
  else return none

/-- The word that a report starts with. -/
def levelWord : Level → String
  | .error => "ERROR"
  | .warn => " WARN"
  | .info => " INFO"
  | .debug => "DEBUG"

end Shell

instance : Host Shell where
  kind? path := Shell.kind? path
  read path := Shell.read path
  names? path := Shell.names? path
  directoryName? path := Shell.directoryName? path
  write path content :=
    Shell.putting (IO.FS.writeFile (Shell.string path) (Shell.string content))
  makeDirectory path := Shell.putting (IO.FS.createDir (Shell.string path))
  print text := IO.print (Shell.string text)
  log level text := do
    if level.isShown (← read) then
      IO.eprintln (Shell.levelWord level ++ " " ++ Shell.string text)

end ReferencePages

open ReferencePages in
/-- Runs the command that the arguments ask for. -/
def main (arguments : List String) : IO UInt32 := do
  match Invocation.read (arguments.map (·.toList)) with
  | .error .help =>
    IO.print (String.ofList helpText)
    return 0
  | .error .usage =>
    IO.eprint (String.ofList helpText)
    return usageStatus.toUInt32
  | .ok invocation =>
    let outcome ← (invocation.run : Shell Outcome).run invocation.verbose
    if let some message := outcome.message then
      IO.eprintln ("Error: " ++ String.ofList message)
    return outcome.status.toUInt32
