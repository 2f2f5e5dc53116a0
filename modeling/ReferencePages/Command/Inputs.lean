/-
**The inputs of a run.**

An input is a file, a directory or a pattern. A directory stands for the sources in it, a pattern
for the files that fit it. `expandInputs` gives the files in order, each once, and the inputs that
stand for nothing.
-/

import ReferencePages.Command.Halt
import ReferencePages.Command.Host
import ReferencePages.Command.Pattern

namespace ReferencePages

variable {m : Type → Type} [Monad m] [Host m]

/-- A directory stands at the path. -/
def isDirectory (path : Text) : m Bool := do return (← Host.kind? path) = some .directory

/-- A file stands at the path. -/
def isFile (path : Text) : m Bool := do return (← Host.kind? path) = some .file

/-- What `f` finds for each of several things, in order. -/
def gather {α β : Type} (f : α → m (List β)) : List α → m (List β)
  | [] => pure []
  | a :: rest => do return (← f a) ++ (← gather f rest)

/-! ### Patterns -/

/-- The path of a name in a directory; the working directory is left out. -/
def nameBelow (directory name : Text) : Text :=
  if Path.same directory ['.'] then name else Path.child directory name

/-- The names in the directory at a path, none when it cannot be read. -/
def namesIn (directory : Text) : m (List Text) := do
  if ← isDirectory directory then return (← Host.names? directory).getD [] else return []

/-- How far down directories are followed. A path of a host is shorter than this. -/
def maxDescent : Nat := 4096

/-- What `visit` finds for everything below a directory, at any depth up to `bound`. -/
def descend (visit : (path name : Text) → m (List Text)) :
    (bound : Nat) → (directory : Text) → m (List Text)
  | 0, _ => pure []
  | bound + 1, directory => do
    gather (fun name => do
      let path := nameBelow directory name
      return (← visit path name) ++ (← descend visit bound path)) (← namesIn directory)

/-- The names `.` and `..` are tried only by a pattern that starts with a dot. -/
def dotNames (tokens : List PatternToken) : List Text :=
  if tokens.head? = some (.char '.') then
    [['.'], ['.', '.']].filter (NamePattern.accepts tokens)
  else []

/-- The paths below `directory` that fit the names of a pattern. A name without wildcards is looked
up, also when it is a dot or two. -/
def matching : List NamePattern → (directory : Text) → m (List Text)
  | [], directory => pure [directory]
  | .anyDirectories :: .anyDirectories :: names, directory =>
    matching (.anyDirectories :: names) directory
  | [.anyDirectories], directory =>
    descend (fun path _ => do if ← isDirectory path then return [path] else return [])
      maxDescent directory
  | .anyDirectories :: .name tokens :: names, directory =>
    descend (fun path name =>
      if NamePattern.accepts tokens name then matching names path else pure [])
      maxDescent directory
  | .name tokens :: names, directory =>
    match NamePattern.literal? tokens with
    | some name => do
      let path := nameBelow directory name
      let special := name = ['.'] || name = ['.', '.']
      let there ← if special then isDirectory directory else Option.isSome <$> Host.kind? path
      if there then matching names path else return []
    | none => do
      if ← isDirectory directory then
        let fitting := (← namesIn directory).filter (NamePattern.accepts tokens)
        let found ← gather (fun name => matching names (nameBelow directory name)) fitting
        let dotted ← gather (fun name => matching names (Path.child directory name))
          (dotNames tokens)
        return found ++ dotted
      else return []

/-- The files among several paths. -/
def filesAmong : List Text → m (List Text)
  | [] => pure []
  | path :: rest => do
    let files ← filesAmong rest
    if ← isFile path then return path :: files else return files

/-- The files that fit a pattern. A pattern that ends with a slash fits directories only. -/
def patternFiles (pattern : Text) : ExceptT Halt m (List Text) :=
  match readPattern? pattern with
  | none => throw (.fail ("invalid glob pattern: ".toList ++ pattern))
  | some (start, names) =>
    if pattern.getLast? = some '/' then pure [] else do filesAmong (← matching names start)

/-! ### Inputs -/

/-- The extensions of sources. -/
def sourceExtensions : List Text := ["py".toList, "pyi".toList]

/-- The name of a source. -/
def isSourceName (name : Text) : Bool :=
  match Path.extension? name with
  | some extension => sourceExtensions.contains extension
  | none => false

/-- The sources in a directory. -/
def directorySources (directory : Text) : ExceptT Halt m (List Text) := do
  match ← Host.names? directory with
  | none => throw (.fail ("failed to read directory: ".toList ++ directory))
  | some names => filesAmong ((names.filter isSourceName).map (Path.child directory))

/-- The files that an input stands for, or the input when it stands for none. -/
def inputFiles (input : Text) : ExceptT Halt m (List Text × List Text) := do
  match ← Host.kind? input with
  | some .file => return ([input], [])
  | some .directory => return (← directorySources input, [])
  | _ =>
    let files ← patternFiles input
    return (files, if files.isEmpty then [input] else [])

/-- The files that inputs stand for, input by input, and the inputs that stand for none. -/
def listInputs : List Text → ExceptT Halt m (List Text × List Text)
  | [] => pure ([], [])
  | input :: rest => do
    let (files, missing) ← inputFiles input
    let (more, moreMissing) ← listInputs rest
    return (files ++ more, missing ++ moreMissing)

/-- The files that inputs stand for, in order and each once, and the inputs that stand for none. -/
def expandInputs (inputs : List Text) : ExceptT Halt m (List Text × List Text) := do
  let (files, missing) ← listInputs inputs
  return (Path.sortedOnce files, missing)

end ReferencePages
