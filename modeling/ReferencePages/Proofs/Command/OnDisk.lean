/-
**What a run does on a disk in memory.**

`onDisk` is what an action answers and the disk it leaves; what it prints and reports is left out.
Every action of a run has an equation of its own, so that the run is never opened again:

* `onDisk_bind_of_ok`, `onDisk_bind_error`, `exists_of_onDisk_bind`: one action after the other;
* `onDisk_packageOptions`, `onDisk_referenceText`: what is read depends on the disk, which stays;
* `onDisk_referenceInput`: an input is documented as `Disk.document` says, which writes one page at
  most;
* `onDisk_expandInputs`: inputs that are files stand for themselves;
* `keeps_makeOutput`: making the output directory takes nothing away.
-/

import ReferencePages.Command.Run
import ReferencePages.Proofs.Disk.Changes

namespace ReferencePages

open Text

/-- Actions in memory. -/
abbrev InMemory := ExceptT Halt (StateM World)

/-- What an action answers, and the disk that it leaves. -/
def onDisk {α : Type} (action : InMemory α) (world : World) : Except Halt α × Disk :=
  ((action.run.run world).1, (action.run.run world).2.disk)

/-! ### One action after the other -/

section Actions

variable {α β : Type} {action : InMemory α} {next : α → InMemory β} {world : World}

theorem onDisk_pure (a : α) (world : World) : onDisk (pure a) world = (.ok a, world.disk) := rfl

theorem onDisk_throw (halt : Halt) (world : World) :
    onDisk (throw halt : InMemory α) world = (.error halt, world.disk) := rfl

theorem run_bind (action : InMemory α) (next : α → InMemory β) (world : World) :
    (action >>= next).run.run world =
      match action.run.run world with
      | (.ok a, after) => (next a).run.run after
      | (.error halt, after) => (.error halt, after) := by
  rw [ExceptT.run_bind, StateT.run_bind]
  cases ran : action.run.run world with
  | mk answer after => cases answer <;> rfl

/-- After an action that answers, the next one starts from the disk that it leaves. -/
theorem onDisk_bind_of_ok {P : Except Halt β × Disk → Prop} {a : α} {disk : Disk}
    (answers : onDisk action world = (.ok a, disk))
    (goesOn : ∀ after : World, after.disk = disk → P (onDisk (next a) after)) :
    P (onDisk (action >>= next) world) := by
  unfold onDisk at answers goesOn ⊢
  rw [run_bind]
  rcases ran : action.run.run world with ⟨answer, after⟩
  rw [ran] at answers
  obtain ⟨rfl, rfl⟩ := Prod.mk.inj answers
  exact goesOn after rfl

theorem onDisk_bind_ok {a : α} {disk : Disk} {result : Except Halt β × Disk}
    (answers : onDisk action world = (.ok a, disk))
    (goesOn : ∀ after : World, after.disk = disk → onDisk (next a) after = result) :
    onDisk (action >>= next) world = result :=
  onDisk_bind_of_ok (P := (· = result)) answers goesOn

/-- After an action that halts nothing else is done. -/
theorem onDisk_bind_error {halt : Halt} {disk : Disk}
    (halts : onDisk action world = (.error halt, disk)) :
    onDisk (action >>= next) world = (.error halt, disk) := by
  unfold onDisk at halts ⊢
  rw [run_bind]
  rcases ran : action.run.run world with ⟨answer, after⟩
  rw [ran] at halts
  obtain ⟨rfl, rfl⟩ := Prod.mk.inj halts
  rfl

theorem onDisk_bind_run {a : α} {after : World} (ran : action.run.run world = (.ok a, after)) :
    onDisk (action >>= next) world = onDisk (next a) after := by
  unfold onDisk
  rw [run_bind, ran]

theorem onDisk_of_run {a : α} {after : World} (ran : action.run.run world = (.ok a, after)) :
    onDisk action world = (.ok a, after.disk) := by
  unfold onDisk
  rw [ran]

/-- When two actions answer, the first one has answered. -/
theorem exists_of_onDisk_bind {b : β} {disk : Disk}
    (ran : onDisk (action >>= next) world = (.ok b, disk)) :
    ∃ a after, action.run.run world = (.ok a, after) ∧ onDisk (next a) after = (.ok b, disk) := by
  unfold onDisk at ran ⊢
  rw [run_bind] at ran
  rcases first : action.run.run world with ⟨halt | a, after⟩
  · rw [first] at ran
    cases ran
  · rw [first] at ran
    exact ⟨a, after, rfl, ran⟩

theorem onDisk_map (action : InMemory α) (f : α → β) (world : World) :
    onDisk (do return f (← action)) world =
      ((onDisk action world).1.map f, (onDisk action world).2) := by
  rcases ran : onDisk action world with ⟨halt | a, disk⟩
  · exact onDisk_bind_error ran
  · refine onDisk_bind_ok ran fun after same => ?_
    rw [onDisk_pure, same]
    rfl

/-! ### The host -/

theorem onDisk_kind? (path : Text) (world : World) :
    onDisk (Host.kind? path) world = (.ok (world.disk.kind? path), world.disk) := rfl

theorem onDisk_read (path : Text) (world : World) :
    onDisk (Host.read path) world = (.ok (world.disk.read path), world.disk) := rfl

theorem onDisk_directoryName? (path : Text) (world : World) :
    onDisk (Host.directoryName? path) world = (.ok (world.disk.directoryName? path), world.disk) :=
  rfl

theorem onDisk_tell (level : Level) (message : Text) (world : World) :
    onDisk (Host.tell level message) world = (.ok (), world.disk) := rfl

theorem onDisk_tell_pure (level : Level) (message : Text) (a : α) (world : World) :
    onDisk (do Host.tell level message; pure a) world = (.ok a, world.disk) := by
  refine onDisk_bind_ok (onDisk_tell level message world) fun after same => ?_
  rw [onDisk_pure, same]

theorem onDisk_tryChange (change : Disk → Except PathError Disk) (world : World) :
    onDisk (ExceptT.lift (World.tryChange change)) world =
      match change world.disk with
      | .ok disk => (.ok (.ok ()), disk)
      | .error error => (.ok (.error error), world.disk) := by
  change ((Except.ok (World.tryChange change world).1 : Except Halt _),
    (World.tryChange change world).2.disk) = _
  unfold World.tryChange
  cases change world.disk <;> rfl

end Actions

/-! ### Reading -/

/-- The plan is read, and nothing is reported. -/
theorem run_loadPlan (plan : Option Text) (world : World) :
    ((loadPlan plan : InMemory (Option Plan)).run.run world).2 = world := by
  cases plan with
  | none => rfl
  | some path =>
    have reads : (Host.read path : InMemory (Except ReadError Text)).run.run world =
        (.ok (world.disk.read path), world) := rfl
    unfold loadPlan
    rw [run_bind, reads]
    cases world.disk.read path with
    | error error => rfl
    | ok text =>
      simp only
      cases Plan.read text <;> rfl

/-- The source at a path. -/
def Disk.source (disk : Disk) (path : Text) : Except InputError Source :=
  match disk.kind? path with
  | none => .error (.notFound path)
  | some _ =>
    match disk.read path with
    | .ok text => .ok (Source.ofText path text)
    | .error error => .error (.unreadable path error)

theorem onDisk_readSource (path : Text) (world : World) :
    onDisk (readSource path) world = (.ok (world.disk.source path), world.disk) := by
  unfold readSource Disk.source
  refine onDisk_bind_ok (onDisk_kind? path world) fun after same => ?_
  cases world.disk.kind? path with
  | none => rw [onDisk_pure, same]
  | some kind =>
    refine onDisk_bind_ok (onDisk_read path after) fun later same' => ?_
    rw [same]
    cases world.disk.read path <;> rw [onDisk_pure, same', same]

theorem onDisk_isFile (path : Text) (world : World) :
    onDisk (isFile path) world = (.ok (world.disk.kind? path = some .file), world.disk) := rfl

/-- The options for the sources in a directory. -/
def Disk.packageOptions (disk : Disk) (options : DocOptions) (directory : Text) : DocOptions :=
  let file := Path.child directory packageFile
  if disk.kind? file = some .file then
    let named := match options.package with
      | some package => some package
      | none => disk.directoryName? directory
    match disk.source file with
    | .ok source =>
      { options with
        package := named
        reexports := (options.reexports ++ source.reexports).eraseDups }
    | .error _ => { options with package := named }
  else options

theorem onDisk_packageOptions (options : DocOptions) (directory : Text) (world : World) :
    onDisk (packageOptions options directory) world =
      (.ok (world.disk.packageOptions options directory), world.disk) := by
  unfold packageOptions Disk.packageOptions
  simp only
  refine onDisk_bind_ok (onDisk_isFile _ world) fun after same => ?_
  by_cases file : world.disk.kind? (Path.child directory packageFile) = some .file
  · rw [if_pos file, if_pos (decide_eq_true file)]
    cases options.package with
    | some name =>
      refine onDisk_bind_ok (onDisk_pure _ after) fun later same' => ?_
      refine onDisk_bind_ok (onDisk_readSource _ later) fun last same'' => ?_
      rw [same', same] at same'' ⊢
      rw [← same'']
      cases last.disk.source (Path.child directory packageFile) <;>
        exact onDisk_tell_pure _ _ _ last
    | none =>
      refine onDisk_bind_ok (onDisk_directoryName? directory after) fun later same' => ?_
      refine onDisk_bind_ok (onDisk_readSource _ later) fun last same'' => ?_
      rw [same', same] at same'' ⊢
      rw [← same'']
      cases last.disk.source (Path.child directory packageFile) <;>
        exact onDisk_tell_pure _ _ _ last
  · rw [if_neg file, if_neg (by simpa using file), onDisk_pure, same]

/-- What is written for an input, as far as it is read from the disk. -/
def Disk.referenceText (disk : Disk) (run : ReferenceRun) (options : DocOptions) (path : Text) :
    Except Halt (Except InputError (Option (Text × List Warning))) :=
  match disk.source path with
  | .error error => .ok (.error error)
  | .ok source =>
    match source.assemble options.strict with
    | .error .reversedRange => .error .breakOff
    | .error (.refused error) => .ok (.error (.refused source.name error))
    | .ok [] => .ok (.ok none)
    | .ok classes =>
      .ok (.ok (some (run.format.render classes run.plan (options.importPath source classes))))

theorem onDisk_referenceText (run : ReferenceRun) (options : DocOptions) (path : Text)
    (world : World) :
    onDisk (referenceText run options path) world =
      (world.disk.referenceText run options path, world.disk) := by
  unfold referenceText Disk.referenceText
  refine onDisk_bind_ok (onDisk_readSource path world) fun after same => ?_
  cases world.disk.source path with
  | error error => rw [onDisk_pure, same]
  | ok source =>
    simp only
    rcases source.assemble options.strict with (error | -) | (- | ⟨first, rest⟩)
    · rw [onDisk_pure, same]
    · rw [onDisk_throw, same]
    · rw [onDisk_pure, same]
    · rw [onDisk_pure, same]

/-! ### Writing -/

theorem onDisk_report (warnings : List Warning) (world : World) :
    onDisk (report warnings) world = (.ok (), world.disk) := by
  induction warnings generalizing world with
  | nil => rfl
  | cons warning rest ih =>
    refine onDisk_bind_ok (onDisk_tell _ _ world) fun after same => ?_
    rw [ih after, same]

theorem onDisk_writeFile (path content : Text) (world : World) :
    onDisk (writeFile path content) world =
      match world.disk.write path content with
      | .ok written => (.ok (), written)
      | .error _ => (.error (.fail ("failed to write ".toList ++ path)), world.disk) := by
  have host := onDisk_tryChange (·.write path content) world
  unfold writeFile
  cases result : world.disk.write path content with
  | ok written =>
    rw [result] at host
    refine onDisk_bind_ok host fun after same => ?_
    rw [onDisk_pure, same]
  | error error =>
    rw [result] at host
    refine onDisk_bind_ok host fun after same => ?_
    simp only
    unfold failAt
    rw [onDisk_throw, same]

/-- The path of the page for an input. -/
def ReferenceRun.page (run : ReferenceRun) (path : Text) : Text :=
  pagePath run.output path run.format.extension

/-- An input is documented: what the run answers for it, and the disk that it leaves. -/
def Disk.document (disk : Disk) (run : ReferenceRun) (options : DocOptions) (path : Text) :
    Except Halt Nat × Disk :=
  match disk.referenceText run options path with
  | .error halt => (.error halt, disk)
  | .ok (.error _) => (.ok 1, disk)
  | .ok (.ok none) => (.ok 0, disk)
  | .ok (.ok (some (text, _))) =>
    match disk.write (run.page path) text with
    | .ok written => (.ok 0, written)
    | .error _ => (.error (.fail ("failed to write ".toList ++ run.page path)), disk)

theorem onDisk_referenceInput (run : ReferenceRun) (options : DocOptions) (path : Text)
    (world : World) :
    onDisk (referenceInput run options path) world = world.disk.document run options path := by
  have read := onDisk_referenceText run options path world
  unfold referenceInput Disk.document reportSkipped
  generalize world.disk.referenceText run options path = found at read
  rcases found with halt | (error | (- | ⟨text, warnings⟩))
  · exact onDisk_bind_error read
  · refine onDisk_bind_ok read fun after same => ?_
    rw [← same]
    exact onDisk_tell_pure _ _ _ after
  · refine onDisk_bind_ok read fun after same => ?_
    rw [← same]
    exact onDisk_tell_pure _ _ _ after
  · refine onDisk_bind_ok read fun after same => ?_
    refine onDisk_bind_ok (onDisk_report warnings after) fun reported same' => ?_
    have writes := onDisk_writeFile (run.page path) text reported
    rw [same', same] at writes
    simp only
    cases result : world.disk.write (run.page path) text with
    | ok written =>
      rw [result] at writes
      refine onDisk_bind_ok writes fun done same'' => ?_
      simp only
      rw [← same'']
      exact onDisk_tell_pure _ _ _ done
    | error error =>
      rw [result] at writes
      exact onDisk_bind_error writes

/-! ### Inputs -/

theorem onDisk_listInputs {inputs : List Text} {world : World}
    (files : ∀ path ∈ inputs, world.disk.kind? path = some .file) :
    onDisk (listInputs inputs) world = (.ok (inputs, []), world.disk) := by
  induction inputs generalizing world with
  | nil => rfl
  | cons path rest ih =>
    have single : onDisk (inputFiles path) world = (.ok ([path], []), world.disk) := by
      refine onDisk_bind_ok (onDisk_kind? path world) fun after same => ?_
      rw [files path List.mem_cons_self]
      simp only
      rw [onDisk_pure, same]
    refine onDisk_bind_ok single fun after same => ?_
    have others : ∀ other ∈ rest, after.disk.kind? other = some .file := by
      intro other member
      rw [same]
      exact files other (List.mem_cons_of_mem path member)
    refine onDisk_bind_ok (ih others) fun later same' => ?_
    rw [onDisk_pure, same', same]
    rfl

/-- Inputs that are files stand for themselves. -/
theorem onDisk_expandInputs {inputs : List Text} {world : World}
    (files : ∀ path ∈ inputs, world.disk.kind? path = some .file) :
    onDisk (expandInputs inputs) world = (.ok (Path.sortedOnce inputs, []), world.disk) := by
  refine onDisk_bind_ok (onDisk_listInputs files) fun after same => ?_
  rw [onDisk_pure, same]

/-! ### The output directory -/

/-- The action takes nothing away from the disk. -/
def Keeps {α : Type} (action : InMemory α) : Prop :=
  ∀ world : World, Disk.Grows world.disk (onDisk action world).2

theorem keeps_bind {α β : Type} {action : InMemory α} {next : α → InMemory β} (first : Keeps action)
    (later : ∀ a, Keeps (next a)) : Keeps (action >>= next) := by
  intro world
  have grows := first world
  rcases ran : onDisk action world with ⟨halt | a, disk⟩
  · rw [onDisk_bind_error ran]
    rwa [ran] at grows
  · rw [ran] at grows
    refine onDisk_bind_of_ok (P := fun result => world.disk.Grows result.2) ran fun after same => ?_
    rw [← same] at grows
    exact grows.trans (later a after)

theorem keeps_of_onDisk {α : Type} {action : InMemory α}
    (stays : ∀ world, (onDisk action world).2 = world.disk) : Keeps action := by
  intro world
  rw [stays world]
  exact Disk.Grows.refl world.disk

theorem keeps_pure {α : Type} (a : α) : Keeps (pure a) := keeps_of_onDisk fun _ => rfl

theorem keeps_ensureDirectory (path : Text) : Keeps (ensureDirectory path) := by
  refine keeps_bind (fun world => ?_) fun answer => ?_
  · have host := onDisk_tryChange (·.makeDirectory path) world
    change world.disk.Grows
      (onDisk (ExceptT.lift (World.tryChange (·.makeDirectory path))) world).2
    rw [host]
    cases made : world.disk.makeDirectory path with
    | ok disk => exact Disk.grows_of_makeDirectory made
    | error error => exact Disk.Grows.refl world.disk
  · rcases answer with (- | -) | -
    · exact keeps_pure _
    · refine keeps_bind (keeps_of_onDisk fun _ => rfl) fun there => ?_
      cases there <;> exact keeps_pure _
    · exact keeps_pure _

theorem keeps_makeDirectories (paths : List Text) : Keeps (makeDirectories paths) := by
  induction paths with
  | nil => exact keeps_pure true
  | cons path above ih =>
    refine keeps_bind (keeps_ensureDirectory path) fun answer => ?_
    rcases answer with (- | -) | -
    · refine keeps_bind ih fun made => ?_
      cases made with
      | false => exact keeps_pure false
      | true => exact keeps_bind (keeps_ensureDirectory path) fun answer => keeps_pure _
    · exact keeps_pure false
    · exact keeps_pure true

/-- Making the output directory takes nothing away. -/
theorem keeps_makeOutput (directory : Text) : Keeps (makeOutput directory) := by
  refine keeps_bind (keeps_makeDirectories _) fun made => ?_
  cases made with
  | false => exact keeps_of_onDisk fun _ => rfl
  | true => exact keeps_pure ()

end ReferencePages
