/-
**What a command needs from its surroundings.**

Commands read and write files, print, and report what they do. They ask a host for these, so that a
command can run on a disk in memory (`World`) as well as on a real one.
-/

import ReferencePages.Disk
import ReferencePages.Text.Quoted

namespace ReferencePages

/-- How important a report is. -/
inductive Level where
  | error
  | warn
  | info
  | debug
  deriving DecidableEq

/-- The reports that are shown: all of them in a verbose run, errors and warnings in any. -/
def Level.isShown (verbose : Bool) : Level → Bool
  | .error => true
  | .warn => true
  | .info => verbose
  | .debug => verbose

/-- What a command asks its surroundings for. -/
class Host (m : Type → Type) where
  /-- The kind of what stands at a path. -/
  kind? : Text → m (Option FileKind)
  /-- The text of the file at a path. -/
  read : Text → m (Except ReadError Text)
  /-- The names in the directory at a path. -/
  names? : Text → m (Option (List Text))
  /-- The name of the directory at a path. -/
  directoryName? : Text → m (Option Text)
  /-- A file with the given text is written at a path. -/
  write : (path content : Text) → m (Except PathError Unit)
  /-- A directory is made at a path where nothing stands. -/
  makeDirectory : Text → m (Except PathError Unit)
  /-- A text is printed. -/
  print : Text → m Unit
  /-- Something is reported. -/
  log : Level → Text → m Unit

/-- A run that may stop early asks the same host. -/
instance {ε : Type} {m : Type → Type} [Monad m] [Host m] : Host (ExceptT ε m) where
  kind? path := ExceptT.lift (Host.kind? path)
  read path := ExceptT.lift (Host.read path)
  names? path := ExceptT.lift (Host.names? path)
  directoryName? path := ExceptT.lift (Host.directoryName? path)
  write path content := ExceptT.lift (Host.write path content)
  makeDirectory path := ExceptT.lift (Host.makeDirectory path)
  print text := ExceptT.lift (Host.print text)
  log level text := ExceptT.lift (Host.log level text)

/-- Surroundings in memory: a disk, what has been printed and what has been reported. -/
structure World where
  disk : Disk
  printed : Text
  log : List (Level × Text)
  deriving DecidableEq

/-- A disk on which nothing has been printed or reported. -/
def World.start (disk : Disk) : World := ⟨disk, [], []⟩

/-- The disk changes as `change` says, if it can. -/
def World.tryChange (change : Disk → Except PathError Disk) :
    StateM World (Except PathError Unit) :=
  fun world =>
    match change world.disk with
    | .ok disk => (.ok (), { world with disk := disk })
    | .error error => (.error error, world)

instance : Host (StateM World) where
  kind? path := fun world => (world.disk.kind? path, world)
  read path := fun world => (world.disk.read path, world)
  names? path := fun world => (world.disk.names? path, world)
  directoryName? path := fun world => (world.disk.directoryName? path, world)
  write path content := World.tryChange (·.write path content)
  makeDirectory path := World.tryChange (·.makeDirectory path)
  print text := fun world => ((), { world with printed := world.printed ++ text })
  log level text := fun world => ((), { world with log := world.log ++ [(level, text)] })

/-- Something is reported in a message that leaves a terminal alone. -/
def Host.tell {m : Type → Type} [Host m] (level : Level) (message : Text) : m Unit :=
  Host.log level (Text.tame message)

end ReferencePages
