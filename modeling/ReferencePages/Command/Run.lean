/-
**Running commands.**

`Command.run` carries out a command on a host and answers with the number of inputs that failed. An
input that cannot be read or documented is reported and the run goes on; a plan that cannot be read,
an unknown format, and a file or directory that cannot be written stop the run. `Invocation.run`
turns the answer into the status of the run.
-/

import ReferencePages.Command.Arguments
import ReferencePages.Command.Inputs
import ReferencePages.Inheritance
import ReferencePages.OutputFormat
import ReferencePages.Source.ModuleVariable
import ReferencePages.Source.Reexport
import ReferencePages.Text.Quoted

namespace ReferencePages

open Text Markdown

variable {m : Type → Type} [Monad m] [Host m]

/-! ### Reading -/

/-- The reason why a file cannot be read, in words. -/
def ReadError.reason : ReadError → Text
  | .missing => "No such file or directory (os error 2)".toList
  | .notText => "stream did not contain valid UTF-8".toList
  | .isDirectory => "Is a directory (os error 21)".toList
  | .other reason => reason

/-- Why an input is not documented. -/
inductive InputError where
  | notFound (path : Text)
  | unreadable (path : Text) (error : ReadError)
  | refused (file : Text) (error : ScanError)
  deriving DecidableEq

/-- The text of an error. -/
def InputError.message : InputError → Text
  | .notFound path => "not found: ".toList ++ path
  | .unreadable path error => "failed to read ".toList ++ path ++ [':', ' '] ++ error.reason
  | .refused file error => error.message file

/-- The run fails with a message about a path. -/
def failAt {α : Type} (what : String) (path : Text) : ExceptT Halt m α :=
  throw (.fail (what.toList ++ path))

/-- The source at a path. -/
def readSource (path : Text) : m (Except InputError Source) := do
  match ← Host.kind? path with
  | none => return .error (.notFound path)
  | some _ =>
    match ← Host.read path with
    | .ok text => return .ok (Source.ofText path text)
    | .error error => return .error (.unreadable path error)

/-- The source at a path that the run cannot do without. -/
def needSource (path : Text) : ExceptT Halt m Source := do
  match ← readSource path with
  | .ok source => return source
  | .error error => throw (.fail error.message)

/-- The plan at a path, if one is given. -/
def loadPlan : Option Text → ExceptT Halt m (Option Plan)
  | none => pure none
  | some path => do
    match ← Host.read path with
    | .error _ => failAt "failed to read metadata: " path
    | .ok text =>
      match Plan.read text with
      | .error _ => failAt "invalid metadata: " path
      | .ok plan => return some plan

/-! ### Writing and reporting -/

/-- Warnings are reported. -/
def report : List Warning → m Unit
  | [] => pure ()
  | warning :: rest => do
    Host.tell .warn warning.message
    report rest

/-- Inputs that stand for nothing are reported. -/
def reportMissing : List Text → m Unit
  | [] => pure ()
  | path :: rest => do
    Host.tell .error (InputError.notFound path).message
    reportMissing rest

/-- An input that fails is reported. -/
def reportSkipped (path : Text) (error : InputError) : m Unit :=
  Host.tell .error ("skipping ".toList ++ path ++ [':', ' '] ++ error.message)

/-- A file is written. -/
def writeFile (path content : Text) : ExceptT Halt m Unit := do
  match ← Host.write path content with
  | .ok () => return ()
  | .error _ => failAt "failed to write " path

/-- A directory is made at a path unless one stands there. -/
def ensureDirectory (path : Text) : m (Except PathError Unit) := do
  match ← Host.makeDirectory path with
  | .error .blocked => if ← isDirectory path then return .ok () else return .error .blocked
  | answer => return answer

/-- The first of some directories is made, each of which lies in the next one, and those of the
others that are missing; the answer says whether it could be. What has been made on the way
stays. -/
def makeDirectories : List Text → m Bool
  | [] => pure true
  | path :: above => do
    match ← ensureDirectory path with
    | .ok () => return true
    | .error .blocked => return false
    | .error .missing =>
      if ← makeDirectories above then return (← ensureDirectory path).isOk else return false

/-- The output directory is made. -/
def makeOutput (directory : Text) : ExceptT Halt m Unit := do
  if ← makeDirectories (Path.upwards directory) then return ()
  else failAt "failed to create output directory: " directory

/-- A text is written to a file, or printed when none is given. -/
def emit (text : Text) : Option Text → ExceptT Halt m Unit
  | some path => writeFile path text
  | none => Host.print text

/-- The path of the page for a file. -/
def pagePath (directory file extension : Text) : Text :=
  Path.child directory (fileStem file ++ ['.'] ++ extension)

/-- The sources that can be read, and the number of files that cannot. -/
def readSources : List Text → m (List Source × Nat)
  | [] => pure ([], 0)
  | path :: rest => do
    match ← readSource path with
    | .ok source =>
      let (sources, failures) ← readSources rest
      return (source :: sources, failures)
    | .error error =>
      reportSkipped path error
      let (sources, failures) ← readSources rest
      return (sources, failures + 1)

/-! ### References -/

/-- The file that makes a directory a package. -/
def packageFile : Text := "__init__.py".toList

/-- The options for the sources in a directory. A package adds the names it passes on, and its
directory's name when no package is given. -/
def packageOptions (options : DocOptions) (directory : Text) : m DocOptions := do
  let file := Path.child directory packageFile
  if ← isFile file then
    let named ← match options.package with
      | some package => pure (some package)
      | none => Host.directoryName? directory
    match ← readSource file with
    | .ok source =>
      let names := (options.reexports ++ source.reexports).eraseDups
      Host.tell .debug (file ++ " re-exports ".toList ++ shownSet names)
      return { options with package := named, reexports := names }
    | .error error =>
      Host.tell .warn ("ignoring ".toList ++ file ++ [':', ' '] ++ error.message)
      return { options with package := named }
  else return options

/-- The options found so far, by directory. -/
abbrev Packages := List (Text × DocOptions)

/-- The options for a directory, which are looked for once. -/
def optionsFor (options : DocOptions) (packages : Packages) (directory : Text) :
    m (DocOptions × Packages) := do
  match packages.find? (Path.same directory ·.1) with
  | some (_, found) => return (found, packages)
  | none =>
    let found ← packageOptions options directory
    return (found, (directory, found) :: packages)

/-- What every input of a run is written with. -/
structure ReferenceRun where
  plan : Option Plan
  format : OutputFormat
  output : Text

/-- What is written for an input, nothing when it has no classes. -/
def referenceText (run : ReferenceRun) (options : DocOptions) (path : Text) :
    ExceptT Halt m (Except InputError (Option (Text × List Warning))) := do
  match ← readSource path with
  | .error error => return .error error
  | .ok source =>
    match source.assemble options.strict with
    | .error .reversedRange => throw .breakOff
    | .error (.refused error) => return .error (.refused source.name error)
    | .ok [] => return .ok none
    | .ok classes =>
      return .ok (some (run.format.render classes run.plan (options.importPath source classes)))

/-- An input is documented; the answer is the number of failures, at most one. -/
def referenceInput (run : ReferenceRun) (options : DocOptions) (path : Text) :
    ExceptT Halt m Nat := do
  match ← referenceText run options path with
  | .error error =>
    reportSkipped path error
    return 1
  | .ok none =>
    Host.tell .debug ("no classes in ".toList ++ path)
    return 0
  | .ok (some (text, warnings)) =>
    report warnings
    let page := pagePath run.output path run.format.extension
    writeFile page text
    Host.tell .info ("wrote ".toList ++ page)
    return 0

/-- Inputs are documented one after the other; the answer is the number of failures. -/
def referenceInputs (run : ReferenceRun) (options : DocOptions) :
    Packages → List Text → ExceptT Halt m Nat
  | _, [] => pure 0
  | packages, path :: rest => do
    let (own, packages) ← optionsFor options packages (Path.parent path)
    let failed ← referenceInput run own path
    let failures ← referenceInputs run options packages rest
    return failed + failures

/-- The format of the given name. -/
def needFormat (name : Text) : ExceptT Halt m OutputFormat :=
  match OutputFormat.ofName? name with
  | some format => pure format
  | none => throw (.fail (unknownFormatMessage name))

/-- The references of inputs are written into a directory. -/
def writeReferences (inputs : List Text) (output : Text) (plan : Option Text) (format : Text)
    (options : DocOptions) : ExceptT Halt m Nat := do
  let plan ← loadPlan plan
  let format ← needFormat format
  makeOutput output
  let (files, missing) ← expandInputs inputs
  reportMissing missing
  let failures ← referenceInputs ⟨plan, format, output⟩ options [] files
  return missing.length + failures

/-! ### Contents -/

/-- The headings of a document are listed. -/
def listHeadings (document : Text) (output : Option Text) : ExceptT Halt m Nat := do
  match ← Host.read document with
  | .error _ => failAt "failed to read " document
  | .ok text =>
    emit (renderContents (contents text)) output
    return 0

/-- The classes of inputs are listed. -/
def listClasses (inputs : List Text) (linkDirectory : Text) (package : Option Text)
    (overrides : Overrides) (output : Option Text) : ExceptT Halt m Nat := do
  let (files, missing) ← expandInputs inputs
  reportMissing missing
  let (sources, failures) ← readSources files
  let (text, warnings) := directoryContents sources package linkDirectory overrides
  report warnings
  emit text output
  return missing.length + failures

/-! ### Inheritance -/

/-- The pages of children are written; the answer is the number of failures. -/
def writeInherited (output : Text) : List Inherited → ExceptT Halt m Nat
  | [] => pure 0
  | child :: rest => do
    report child.warnings
    match child.page with
    | .ok page =>
      let path := pagePath output child.file OutputFormat.markdown.extension
      writeFile path page.text
      Host.tell .info ("wrote ".toList ++ path ++ [' ', '('] ++ child.className ++ [')'])
      writeInherited output rest
    | .error error =>
      reportSkipped child.file (.refused child.file error)
      let failures ← writeInherited output rest
      return failures + 1

/-- The references of children, with what they inherit, are written into a directory. -/
def writeChildren (base : Text) (children : List Text) (output : Text) (plan : Option Text)
    (overrides : Overrides) (options : DocOptions) : ExceptT Halt m Nat := do
  let plan ← loadPlan plan
  let source ← needSource base
  let (sources, failures) ← readSources children
  match inheritAll source sources overrides plan options with
  | .error .reversedRange => throw .breakOff
  | .error (.refused _) => failAt "failed to document base class in " base
  | .ok (warnings, results) =>
    report warnings
    makeOutput output
    return failures + (← writeInherited output results)

/-! ### Variables -/

/-- The variables of a module are listed. -/
def listVariables (file : Text) (output : Option Text) : ExceptT Halt m Nat := do
  let source ← needSource file
  let documented := source.moduleVariables
  if documented.isEmpty then
    Host.tell .warn ("no documented module variables in ".toList ++ file)
  emit (moduleVariableTable documented) output
  return 0

/-! ### Runs -/

/-- A command is carried out; the answer is the number of failures. -/
def Command.run : Command → ExceptT Halt m Nat
  | .reference inputs output plan package format strict =>
    writeReferences inputs output plan format ⟨package, [], strict⟩
  | .documentContents document output => listHeadings document output
  | .directoryContents inputs linkDirectory package overrides output =>
    listClasses inputs linkDirectory package overrides output
  | .inherit base children output plan overrides package =>
    writeChildren base children output plan overrides ⟨package, [], false⟩
  | .moduleVariables file output => listVariables file output

/-- How a run ends: its status, and the message of a failure. -/
structure Outcome where
  status : Nat
  message : Option Text
  deriving DecidableEq

/-- The end of a run, from the number of failures or the reason why it stopped. -/
def Outcome.ofResult : Except Halt Nat → Outcome
  | .ok 0 => ⟨0, none⟩
  | .ok failures => ⟨1, some (Text.ofNat failures ++ " input(s) failed".toList)⟩
  | .error (.fail message) => ⟨1, some message⟩
  | .error .breakOff => ⟨101, none⟩

/-- A run is carried out. -/
def Invocation.run (invocation : Invocation) : m Outcome := do
  return Outcome.ofResult (← (invocation.command.run : ExceptT Halt m Nat).run)

/-- The status of a run whose arguments do not make sense. -/
def usageStatus : Nat := 2

end ReferencePages
