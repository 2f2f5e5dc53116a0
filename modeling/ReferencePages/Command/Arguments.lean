/-
**The command line.**

`Invocation.read` reads the arguments of a run. Options may stand among the inputs; an option takes
its value from the next argument, after an equals sign, or, when it is a single letter, from the
rest of its argument; single letters may share an argument. After `--` every argument is an input.
An argument with a dash in front is no value, a dash alone is one.

A run is refused when its arguments do not make sense, or when they ask for help.
-/

import ReferencePages.ClassLookup

namespace ReferencePages

open Text

/-! ### Commands -/

/-- What a run does. -/
inductive Command where
  /-- Writes the reference of each input into a directory. -/
  | reference (inputs : List Text) (output : Text) (plan : Option Text) (package : Option Text)
      (format : Text) (strict : Bool)
  /-- Lists the headings of a document. -/
  | documentContents (document : Text) (output : Option Text)
  /-- Lists the classes of the inputs. -/
  | directoryContents (inputs : List Text) (linkDirectory : Text) (package : Option Text)
      (overrides : Overrides) (output : Option Text)
  /-- Writes the references of children with what they inherit. -/
  | inherit (base : Text) (children : List Text) (output : Text) (plan : Option Text)
      (overrides : Overrides) (package : Option Text)
  /-- Lists the variables of a module. -/
  | moduleVariables (file : Text) (output : Option Text)
  deriving DecidableEq

/-- A command, and whether the run reports its progress. -/
structure Invocation where
  verbose : Bool
  command : Command
  deriving DecidableEq

/-- Why the arguments do not make a run. -/
inductive Refusal where
  /-- They do not make sense. -/
  | usage
  /-- They ask for help. -/
  | help
  deriving DecidableEq

/-! ### Options -/

/-- How many values follow an option. -/
inductive Arity where
  | none
  | one
  /-- One, and all arguments after it that are values. -/
  | many
  deriving DecidableEq

/-- An option. -/
structure OptionSpec where
  name : Text
  letter : Option Char
  arity : Arity
  /-- The option may be given more than once. -/
  repeats : Bool
  /-- The values it takes. -/
  accepts : Text → Bool

/-- The arguments that are not options. -/
structure InputSpec where
  /-- How many there may be. -/
  most : Option Nat
  /-- The values they take. -/
  accepts : Text → Bool

/-- The options and inputs of a command. -/
structure CommandSpec where
  options : List OptionSpec
  inputs : InputSpec

/-- Any text is a value. -/
def anyText (_ : Text) : Bool := true

/-- A path is not empty. -/
def isPath (t : Text) : Bool := ! t.isEmpty

/-- The two names of an override, with an equals sign between them. -/
def override? (t : Text) : Option (Text × Text) :=
  (cutAt? '=' t).filter fun (expected, actual) => ! expected.isEmpty && ! actual.isEmpty

/-- A switch without a value. -/
def switch (name : String) (letter : Option Char) : OptionSpec :=
  ⟨name.toList, letter, .none, false, anyText⟩

/-- An option with one value. -/
def single (name : String) (letter : Option Char) (accepts : Text → Bool) : OptionSpec :=
  ⟨name.toList, letter, .one, false, accepts⟩

/-- The switches that every command has. -/
def commonOptions : List OptionSpec := [switch "verbose" (some 'v'), switch "help" (some 'h')]

/-- The option that names the output. -/
def outputOption : OptionSpec := single "output" (some 'o') isPath

/-- The option that names the plan. -/
def planOption : OptionSpec := single "metadata" (some 'm') isPath

/-- The option that names the package. -/
def packageOption : OptionSpec := single "import-prefix" none anyText

/-- The option that overrides a class name. -/
def overrideOption : OptionSpec :=
  ⟨"override".toList, none, .one, true, fun t => (override? t).isSome⟩

/-- Any number of inputs. -/
def manyInputs : InputSpec := ⟨none, anyText⟩

/-- The arguments of a command that writes references. -/
def referenceSpec : CommandSpec :=
  ⟨[outputOption, planOption, packageOption, single "format" (some 'f') anyText,
    switch "strict" none] ++ commonOptions, manyInputs⟩

/-- The arguments of a command that lists contents. -/
def contentsSpec : CommandSpec :=
  ⟨[single "doc" none isPath, single "link-prefix" none anyText, packageOption, overrideOption,
    outputOption] ++ commonOptions, manyInputs⟩

/-- The arguments of a command that merges. -/
def inheritSpec : CommandSpec :=
  ⟨[single "base" none isPath, ⟨"child".toList, none, .many, true, isPath⟩, outputOption,
    planOption, overrideOption, packageOption] ++ commonOptions, ⟨some 0, anyText⟩⟩

/-- The arguments of a command that lists variables. -/
def variablesSpec : CommandSpec := ⟨outputOption :: commonOptions, ⟨some 1, isPath⟩⟩

/-! ### Reading arguments -/

/-- The options given, each with a value, and the inputs, in order. -/
structure Given where
  options : List (Text × Text)
  inputs : List Text

/-- The values given for the option of the given name. -/
def Given.valuesOf (given : Given) (name : Text) : List Text :=
  (given.options.filter (·.1 = name)).map (·.2)

/-- The values given for an option. -/
def Given.values (given : Given) (name : String) : List Text := given.valuesOf name.toList

/-- The value given for an option. -/
def Given.value? (given : Given) (name : String) : Option Text := (given.values name).head?

/-- The option is given. -/
def Given.isSet (given : Given) (name : String) : Bool := ! (given.values name).isEmpty

/-- What the next argument may be. -/
inductive Expecting where
  /-- An option or an input. -/
  | anything
  /-- The first value of an option. -/
  | value (option : OptionSpec)
  /-- A further value of an option, or anything else. -/
  | further (option : OptionSpec)
  /-- An input. -/
  | input

/-- The arguments read so far and what the next one may be. -/
structure ArgumentReading where
  given : Given
  expecting : Expecting

/-- The argument has a dash in front of something. -/
def isDashed (argument : Text) : Bool := argument.head? = some '-' && argument.length != 1

namespace ArgumentReading

/-- The reading with one more value of an option. -/
def record (reading : ArgumentReading) (option : OptionSpec) (value : Text) (next : Expecting) :
    Except Refusal ArgumentReading :=
  if option.name = "help".toList then .error .help
  else if ! option.accepts value then .error .usage
  else if ! option.repeats && ! (reading.given.valuesOf option.name).isEmpty then .error .usage
  else
    .ok ⟨{ reading.given with options := reading.given.options ++ [(option.name, value)] }, next⟩

/-- The reading after a long option, without its dashes. -/
def long (options : List OptionSpec) (reading : ArgumentReading) (argument : Text) :
    Except Refusal ArgumentReading :=
  let (name, value) := match cutAt? '=' argument with
    | some (name, value) => (name, some value)
    | none => (argument, none)
  match options.find? (·.name = name) with
  | none => .error .usage
  | some option =>
    match option.arity, value with
    | .none, none => reading.record option [] .anything
    | .none, some _ => .error .usage
    | _, some value => reading.record option value .anything
    | _, none => .ok { reading with expecting := .value option }

/-- The reading after single letters that share an argument. -/
def letters (options : List OptionSpec) (reading : ArgumentReading) :
    Text → Except Refusal ArgumentReading
  | [] => .ok reading
  | letter :: rest =>
    match options.find? (·.letter = some letter) with
    | none => .error .usage
    | some option =>
      if option.arity = .none then
        match reading.record option [] .anything with
        | .error refusal => .error refusal
        | .ok next => next.letters options rest
      else
        match rest with
        | [] => .ok { reading with expecting := .value option }
        | '=' :: value => reading.record option value .anything
        | value => reading.record option value .anything

/-- The reading with one more input. -/
def addInput (spec : InputSpec) (reading : ArgumentReading) (input : Text) (next : Expecting) :
    Except Refusal ArgumentReading :=
  let full := match spec.most with
    | some most => most ≤ reading.given.inputs.length
    | none => false
  if full || ! spec.accepts input then .error .usage
  else .ok ⟨{ reading.given with inputs := reading.given.inputs ++ [input] }, next⟩

/-- The reading after an argument with a dash in front. -/
def dashed (options : List OptionSpec) (reading : ArgumentReading) (argument : Text) :
    Except Refusal ArgumentReading :=
  let free := { reading with expecting := .anything }
  match argument with
  | ['-', '-'] => .ok { reading with expecting := .input }
  | '-' :: '-' :: name => free.long options name
  | _ => free.letters options (argument.drop 1)

/-- The reading after one more argument. -/
def step (spec : CommandSpec) (reading : ArgumentReading) (argument : Text) :
    Except Refusal ArgumentReading :=
  match reading.expecting with
  | .input => reading.addInput spec.inputs argument .input
  | .value option =>
    if isDashed argument then .error .usage
    else
      reading.record option argument
        (if option.arity = .many then .further option else .anything)
  | .further option =>
    if isDashed argument then reading.dashed spec.options argument
    else reading.record option argument (.further option)
  | .anything =>
    if isDashed argument then reading.dashed spec.options argument
    else reading.addInput spec.inputs argument .anything

/-- What is given at the end of the arguments; an option must not wait for its value. -/
def finish (reading : ArgumentReading) : Except Refusal Given :=
  match reading.expecting with
  | .value _ => .error .usage
  | _ => .ok reading.given

/-- Nothing has been read. -/
def start : ArgumentReading := ⟨⟨[], []⟩, .anything⟩

end ArgumentReading

/-- What the arguments of a command give. -/
def CommandSpec.read (spec : CommandSpec) (arguments : List Text) : Except Refusal Given := do
  (← arguments.foldlM (ArgumentReading.step spec) .start).finish

/-! ### Reading commands -/

/-- A value that has to be there. -/
def required {α : Type} (value : Option α) : Except Refusal α :=
  match value with
  | some value => .ok value
  | none => .error .usage

/-- Inputs of which there has to be one. -/
def atLeastOne (inputs : List Text) : Except Refusal (List Text) :=
  if inputs.isEmpty then .error .usage else .ok inputs

/-- The overrides given. -/
def Given.overrides (given : Given) : Overrides := (given.values "override").filterMap override?

/-- The format of references when none is given. -/
def defaultFormat : Text := "markdown".toList

/-- The command that writes references. -/
def Given.reference (given : Given) : Except Refusal Command := do
  let inputs ← atLeastOne given.inputs
  let output ← required (given.value? "output")
  return .reference inputs output (given.value? "metadata") (given.value? "import-prefix")
    ((given.value? "format").getD defaultFormat) (given.isSet "strict")

/-- The command that lists contents: of one document, or of inputs. -/
def Given.contents (given : Given) : Except Refusal Command := do
  match given.value? "doc" with
  | some document =>
    if given.inputs.isEmpty then return .documentContents document (given.value? "output")
    else .error .usage
  | none =>
    let inputs ← atLeastOne given.inputs
    return .directoryContents inputs ((given.value? "link-prefix").getD [])
      (given.value? "import-prefix") given.overrides (given.value? "output")

/-- The command that merges. -/
def Given.inherit (given : Given) : Except Refusal Command := do
  let base ← required (given.value? "base")
  let children ← atLeastOne (given.values "child")
  let output ← required (given.value? "output")
  return .inherit base children output (given.value? "metadata") given.overrides
    (given.value? "import-prefix")

/-- The command that lists variables. -/
def Given.moduleVariables (given : Given) : Except Refusal Command := do
  let file ← required given.inputs.head?
  return .moduleVariables file (given.value? "output")

/-- The commands by their names. -/
def commands : List (Text × CommandSpec × (Given → Except Refusal Command)) :=
  [("docs".toList, referenceSpec, Given.reference),
    ("toc".toList, contentsSpec, Given.contents),
    ("inherit".toList, inheritSpec, Given.inherit),
    ("vars".toList, variablesSpec, Given.moduleVariables)]

/-- The word that asks for help. -/
def helpWord : Text := "help".toList

/-- The word `help` asks for help. It may be followed by one word to ask about: a command, or `help`
itself. -/
def asksForHelp (name : Text) (arguments : List Text) : Bool :=
  name = helpWord && match arguments with
    | [] => true
    | [word] => word = helpWord || (commands.lookup word).isSome
    | _ => false

/-- The run of a named command. -/
def namedCommand (verbose : Bool) (name : Text) (arguments : List Text) :
    Except Refusal Invocation :=
  match commands.lookup name with
  | some (spec, command) => do
    let given ← spec.read arguments
    return ⟨verbose || given.isSet "verbose", ← command given⟩
  | none => if asksForHelp name arguments then .error .help else .error .usage

/-- The run that arguments ask for, below the switches in `reading`. -/
def readInvocation (reading : ArgumentReading) : List Text → Except Refusal Invocation
  | [] => .error .usage
  | argument :: rest =>
    if argument = ['-', '-'] then .error .usage
    else if isDashed argument then
      match reading.dashed commonOptions argument with
      | .error refusal => .error refusal
      | .ok next => readInvocation next rest
    else namedCommand (reading.given.isSet "verbose") argument rest

/-- The run that arguments ask for. -/
def Invocation.read (arguments : List Text) : Except Refusal Invocation :=
  readInvocation .start arguments

/-- What is printed for help. -/
def helpText : Text :=
  ("Writes reference pages for documented classes.\n\n" ++
  "  docs FILES -o DIRECTORY [-m PLAN] [--import-prefix PACKAGE] [-f FORMAT] [--strict]\n" ++
  "  toc FILES [--link-prefix DIRECTORY] [--import-prefix PACKAGE] [--override A=B] [-o FILE]\n" ++
  "  toc --doc DOCUMENT [-o FILE]\n" ++
  "  inherit --base FILE --child FILES -o DIRECTORY [-m PLAN] [--override A=B]\n" ++
  "  vars FILE [-o FILE]\n\n" ++
  "  -v, --verbose  report progress\n").toList

end ReferencePages
