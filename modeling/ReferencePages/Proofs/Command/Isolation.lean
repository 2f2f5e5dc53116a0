/-
**Inputs of a run, each on its own.**

A run documents its inputs one after the other, in the order of their paths, and what it does for
one of them is what it does for that input alone, until an input stops the run:

* `tally`: the answer of a run from the answers for its inputs;
* `Apart`: inputs that have stems of their own, so that no page is an input or the page of another;
* `onDisk_optionsFor`: the options of a directory are found once and stay right, since no page is a
  package file;
* `documents_referenceInputs`: one input after the other, by induction on the inputs that are left;
* `references_isolated`: **a run on many inputs leaves for each input what a run on that input alone
  leaves, and counts the inputs that fail, as long as no input before it stops the run**;
* `blocked_page_stops_run`: a page that cannot be written keeps later inputs from being documented.
-/

import ReferencePages.Proofs.Command.Documents

namespace ReferencePages

open Text ReferencePages.Path

/-! ### Answers -/

/-- The answer of a run from the answers for its inputs: their sum, unless one of them halts. -/
def tally : List (Except Halt Nat) → Except Halt Nat
  | [] => .ok 0
  | .error halt :: _ => .error halt
  | .ok failures :: rest => (tally rest).map (failures + ·)

theorem tally_singleton (answer : Except Halt Nat) : tally [answer] = answer := by
  cases answer <;> rfl

theorem tally_append_error {before : List (Except Halt Nat)} (halt : Halt)
    (rest : List (Except Halt Nat))
    (answers : ∀ answer ∈ before, ∃ failures, answer = .ok failures) :
    tally (before ++ .error halt :: rest) = .error halt := by
  induction before with
  | nil => rfl
  | cons first others ih =>
    obtain ⟨failures, rfl⟩ := answers first List.mem_cons_self
    have later := ih fun answer member => answers answer (List.mem_cons_of_mem _ member)
    rw [List.cons_append, tally, later]
    rfl

/-- The answers of inputs that do not halt add up to the number of those that fail. -/
theorem tally_map {files : List Text} {answer : Text → Except Halt Nat} {fails : Text → Bool}
    (answers : ∀ path ∈ files, answer path = .ok (fails path).toNat) :
    tally (files.map answer) = .ok (files.countP fails) := by
  induction files with
  | nil => rfl
  | cons first rest ih =>
    rw [List.map_cons, answers first List.mem_cons_self, tally,
      ih fun path member => answers path (List.mem_cons_of_mem first member), List.countP_cons]
    cases fails first <;> simp [Except.map, Nat.add_comm]

/-! ### Inputs apart from each other -/

/-- Files in one directory, however it is spelled, agree on whether the path of its package file is
too long. -/
def LimitsAgree (files : List Text) : Prop :=
  ∀ first ∈ files, ∀ second ∈ files, same (parent first) (parent second) = true →
    (Disk.pathLimit < byteCount (child (parent first) packageFile) ↔
      Disk.pathLimit < byteCount (child (parent second) packageFile))

instance (files : List Text) : Decidable (LimitsAgree files) :=
  inferInstanceAs (Decidable (∀ first ∈ files, ∀ second ∈ files, _ → (_ ↔ _)))

/-- The page of a file without a stem has none of the files' names. The name of such a file ends with
a backslash, and its page is named by the extension alone. -/
def PagesClear (run : ReferenceRun) (files : List Text) : Prop :=
  ∀ path ∈ files, fileStem path = [] → run.pageName path ∉ files.map lastName

instance (run : ReferenceRun) (files : List Text) : Decidable (PagesClear run files) :=
  inferInstanceAs (Decidable (∀ path ∈ files, _ → _))

/-- Files with names and stems of their own, none of which is the page of another. -/
structure Apart (run : ReferenceRun) (files : List Text) : Prop where
  proper : ∀ path ∈ files, IsProper (lastName path)
  stems : (files.map fileStem).Nodup
  clear : PagesClear run files
  alike : LimitsAgree files

section Run

variable {run : ReferenceRun} {options : DocOptions} {ready : Disk} {earlier rest : List Text}
  {path : Text} {packages : Packages} {world : World}

/-- The files of a tree are apart when their stems are. -/
theorem apart_of_files {disk : Disk} {files : List Text} (tree : disk.IsTree)
    (there : ∀ path ∈ files, disk.kind? path = some .file) (stems : (files.map fileStem).Nodup)
    (clear : PagesClear run files) (alike : LimitsAgree files) : Apart run files := by
  refine ⟨fun path member => ?_, stems, clear, alike⟩
  obtain ⟨content, found⟩ := Disk.kind?_eq_file_iff.mp (there path member)
  exact Disk.isProper_lastName tree found

/-- The files of a tree are put in order, and none is dropped. -/
theorem Apart.sortedOnce_perm {files : List Text} (apart : Apart run files) :
    (sortedOnce files).Perm files :=
  Path.sortedOnce_perm (fun path member => (apart.proper path member).moves) apart.stems

theorem Apart.perm {files sorted : List Text} (apart : Apart run files) (order : sorted.Perm files) :
    Apart run sorted where
  proper path member := apart.proper path (order.subset member)
  stems := (order.map fileStem).nodup_iff.mpr apart.stems
  clear path member stemless :=
    fun named => apart.clear path (order.subset member) stemless ((order.map lastName).subset named)
  alike first inFirst second inSecond :=
    apart.alike first (order.subset inFirst) second (order.subset inSecond)

theorem Apart.singleton {files : List Text} (apart : Apart run files) (member : path ∈ files) :
    Apart run [path] where
  proper other single := apart.proper other (List.mem_singleton.mp single ▸ member)
  stems := List.pairwise_singleton _ _
  clear other single stemless := by
    rw [List.mem_singleton.mp single] at stemless ⊢
    refine fun named => apart.clear path member stemless ?_
    rw [List.mem_singleton.mp named]
    exact List.mem_map_of_mem member
  alike first inFirst second inSecond _ := by
    rw [List.mem_singleton.mp inFirst, List.mem_singleton.mp inSecond]

theorem Apart.fileStem_ne (apart : Apart run (earlier ++ path :: rest)) {other : Text}
    (member : other ∈ earlier ∨ other ∈ rest) : fileStem other ≠ fileStem path := by
  have stems := apart.stems
  rw [List.map_append, List.map_cons] at stems
  obtain ⟨-, others, disjoint⟩ := List.nodup_append.mp stems
  rcases member with inEarlier | inRest
  · exact disjoint _ (List.mem_map_of_mem inEarlier) _ List.mem_cons_self
  · exact ne_of_mem_of_not_mem (List.mem_map_of_mem inRest) (List.nodup_cons.mp others).1

theorem Apart.pageName_not_mem (apart : Apart run (earlier ++ path :: rest)) :
    run.pageName path ∉ earlier.map run.pageName := by
  intro member
  obtain ⟨other, inEarlier, same⟩ := List.mem_map.mp member
  exact apart.fileStem_ne (Or.inl inEarlier) (run.pageName_inj same)

theorem Apart.pageName_not_mem_rest (apart : Apart run (earlier ++ path :: rest)) :
    run.pageName path ∉ rest.map run.pageName := by
  intro member
  obtain ⟨other, inRest, same⟩ := List.mem_map.mp member
  exact apart.fileStem_ne (Or.inr inRest) (run.pageName_inj same)

theorem Apart.lastName_not_mem (apart : Apart run (earlier ++ path :: rest)) :
    lastName path ∉ earlier.map run.pageName := by
  intro member
  obtain ⟨other, inEarlier, same⟩ := List.mem_map.mp member
  have inFiles : other ∈ earlier ++ path :: rest := List.mem_append_left _ inEarlier
  by_cases stemless : fileStem other = []
  · refine apart.clear other inFiles stemless ?_
    rw [same]
    exact List.mem_map_of_mem (List.mem_append_right _ List.mem_cons_self)
  · exact apart.fileStem_ne (Or.inl inEarlier) (run.fileStem_of_pageName stemless same)

/-! ### The whole run -/

/-- The options of an input, read from the disk at the start of the run. -/
def ownOptions (options : DocOptions) (ready : Disk) (path : Text) : DocOptions :=
  ready.packageOptions options (parent path)

/-- The options found so far are those of inputs documented so far. -/
def Found (options : DocOptions) (ready : Disk) (earlier : List Text) (packages : Packages) : Prop :=
  ∀ known ∈ packages, ∃ path ∈ earlier, known = (parent path, ownOptions options ready path)

theorem found_nil (options : DocOptions) (ready : Disk) : Found options ready [] [] :=
  fun _ member => absurd member List.not_mem_nil

theorem packageFile_not_mem (run : ReferenceRun) (files : List Text) :
    packageFile ∉ files.map run.pageName := by
  intro member
  obtain ⟨other, -, same⟩ := List.mem_map.mp member
  exact run.pageName_ne_packageFile other same

/-- The options of an input are found as they were at the start, whether they are looked for or have
been found before. -/
theorem onDisk_optionsFor (apart : Apart run (earlier ++ path :: rest))
    (found : Found options ready earlier packages)
    (agrees : Disk.AgreesOff (earlier.map run.pageName) ready world.disk) :
    ∃ packages', Found options ready (earlier ++ [path]) packages' ∧
      onDisk (optionsFor options packages (parent path)) world =
        (.ok (ownOptions options ready path, packages'), world.disk) := by
  have here : path ∈ earlier ++ path :: rest :=
    List.mem_append_right _ List.mem_cons_self
  have wider : Found options ready (earlier ++ [path]) packages := by
    intro known member
    obtain ⟨other, inEarlier, known_eq⟩ := found known member
    exact ⟨other, List.mem_append_left _ inEarlier, known_eq⟩
  unfold optionsFor
  cases hit : packages.find? (same (parent path) ·.1) with
  | some known =>
    -- found for an earlier input, whose directory may be spelled in another way
    have alike : same (parent path) known.1 = true := by simpa using List.find?_some hit
    obtain ⟨other, inEarlier, rfl⟩ := found known (List.mem_of_find?_eq_some hit)
    refine ⟨packages, wider, ?_⟩
    have options_eq : ownOptions options ready path = ownOptions options ready other :=
      Disk.packageOptions_of_same options alike
        (apart.alike path here other (List.mem_append_left _ inEarlier) alike)
    rw [options_eq]
    exact onDisk_pure _ world
  | none =>
    -- looked for now, on a disk with pages more, none of which is a package file
    refine ⟨(parent path, ownOptions options ready path) :: packages, ?_, ?_⟩
    · intro known member
      rcases List.mem_cons.mp member with rfl | inPackages
      · exact ⟨path, List.mem_append_right _ List.mem_cons_self, rfl⟩
      · exact wider known inPackages
    · have options_eq : world.disk.packageOptions options (parent path) =
          ownOptions options ready path :=
        (agrees.packageOptions (packageFile_not_mem run earlier) options (parent path)).symm
      have looks := onDisk_packageOptions options (parent path) world
      rw [options_eq] at looks
      refine onDisk_bind_ok looks fun after same => ?_
      rw [onDisk_pure, same]

/-- What the run answers for an input, and the page that it leaves, when the input is the first. -/
def aloneOn (run : ReferenceRun) (options : DocOptions) (ready : Disk) (path : Text) :
    Except Halt Nat × Option DiskEntry :=
  let alone := ready.document run (ownOptions options ready path) path
  (alone.1, alone.2.find? (run.page path))

/-- A disk holds the page of every input up to the first that halts, as that input leaves it alone, and
the other pages as they were at the start. -/
def Leaves (run : ReferenceRun) (options : DocOptions) (ready : Disk) (files : List Text)
    (final : Disk) : Prop :=
  ∀ before path after, files = before ++ path :: after →
    ((∀ other ∈ before, ∃ failures, (aloneOn run options ready other).1 = .ok failures) →
      final.find? (run.page path) = (aloneOn run options ready path).2) ∧
    ((∃ other ∈ before, ∃ halt, (aloneOn run options ready other).1 = .error halt) →
      final.find? (run.page path) = ready.find? (run.page path))

/-- After an input that halts, nothing else is written. -/
theorem leaves_of_error {disk final : Disk} {halt : Halt} (apart : Apart run (earlier ++ path :: rest))
    (agrees : Disk.AgreesOff (earlier.map run.pageName) ready disk)
    (changed : Disk.AgreesOff [run.pageName path] disk final)
    (page : final.find? (run.page path) = (aloneOn run options ready path).2)
    (halts : (aloneOn run options ready path).1 = .error halt) :
    Leaves run options ready (path :: rest) final := by
  intro before other after split
  rcases List.cons_eq_append_iff.mp split with ⟨rfl, tail⟩ | ⟨others, rfl, tail⟩
  · obtain ⟨rfl, -⟩ := List.cons.inj tail
    exact ⟨fun _ => page, fun ⟨_, member, _⟩ => absurd member List.not_mem_nil⟩
  · refine ⟨fun answers => ?_, fun _ => ?_⟩
    · obtain ⟨failures, answer⟩ := answers path List.mem_cons_self
      rw [halts] at answer
      cases answer
    · rw [tail, ← List.cons_append, ← List.append_assoc] at apart
      have names : run.pageName other ∉ (earlier ++ path :: others).map run.pageName :=
        apart.pageName_not_mem
      refine ((agrees.trans changed).find?_page fun member => names ?_).symm
      rw [List.map_append, List.map_cons]
      rcases List.mem_append.mp member with inEarlier | isPath
      · exact List.mem_append_left _ inEarlier
      · exact List.mem_append_right _ (List.mem_cons.mpr (Or.inl (List.mem_singleton.mp isPath)))

theorem leaves_of_ok {final : Disk} {failures : Nat}
    (page : final.find? (run.page path) = (aloneOn run options ready path).2)
    (answers : (aloneOn run options ready path).1 = .ok failures)
    (leaves : Leaves run options ready rest final) :
    Leaves run options ready (path :: rest) final := by
  intro before other after split
  rcases List.cons_eq_append_iff.mp split with ⟨rfl, tail⟩ | ⟨others, rfl, tail⟩
  · obtain ⟨rfl, -⟩ := List.cons.inj tail
    exact ⟨fun _ => page, fun ⟨_, member, _⟩ => absurd member List.not_mem_nil⟩
  · obtain ⟨reached, halted⟩ := leaves others other after tail
    refine ⟨fun answer => reached fun g member => answer g (List.mem_cons_of_mem path member), ?_⟩
    rintro ⟨g, member, halt, halts⟩
    rcases List.mem_cons.mp member with rfl | inOthers
    · rw [answers] at halts
      cases halts
    · exact halted ⟨g, inOthers, halt, halts⟩

/-- What a run over some inputs comes to, from a disk on which others have been documented. -/
structure Documents (run : ReferenceRun) (options : DocOptions) (ready : Disk) (files : List Text)
    (disk : Disk) (outcome : Except Halt Nat × Disk) : Prop where
  answer : outcome.1 = tally (files.map fun path => (aloneOn run options ready path).1)
  changed : Disk.AgreesOff (files.map run.pageName) disk outcome.2
  leaves : Leaves run options ready files outcome.2

/-- Inputs are documented one after the other, each as it is alone, up to the first that halts. -/
theorem documents_referenceInputs (apart : Apart run (earlier ++ rest))
    (found : Found options ready earlier packages)
    (agrees : Disk.AgreesOff (earlier.map run.pageName) ready world.disk) :
    Documents run options ready rest world.disk
      (onDisk (referenceInputs run options packages rest) world) := by
  -- the pages of `earlier` are all that the disk has gained, and all options come from them
  induction rest generalizing earlier packages world with
  | nil =>
    refine ⟨rfl, Disk.AgreesOff.refl _ _, fun before path after split => ?_⟩
    exact absurd split.symm (List.append_ne_nil_of_right_ne_nil _ (List.cons_ne_nil _ _))
  | cons path rest ih =>
    obtain ⟨packages', found', optionsRan⟩ := onDisk_optionsFor apart found agrees
    have proper : IsProper (lastName path) :=
      apart.proper path (List.mem_append_right _ List.mem_cons_self)
    obtain ⟨answer_eq, page_eq⟩ := Disk.document_congr (ownOptions options ready path) agrees proper
      apart.lastName_not_mem apart.pageName_not_mem
    have changed := world.disk.agreesOff_document run (ownOptions options ready path) path
    rw [referenceInputs]
    refine onDisk_bind_of_ok (P := Documents run options ready (path :: rest) world.disk) optionsRan
      fun looked same => ?_
    have input := onDisk_referenceInput run (ownOptions options ready path) path looked
    rw [same] at input
    rcases documented : world.disk.document run (ownOptions options ready path) path with
      ⟨halt | failures, left⟩ <;> rw [documented] at input answer_eq page_eq changed
    · have halts : (aloneOn run options ready path).1 = .error halt := answer_eq
      simp only
      rw [onDisk_bind_error input]
      refine ⟨?_, changed.trans (Disk.AgreesOff.refl _ left),
        leaves_of_error apart agrees changed page_eq.symm halts⟩
      rw [List.map_cons, halts, tally]
    · have answers : (aloneOn run options ready path).1 = .ok failures := answer_eq
      refine onDisk_bind_of_ok (P := Documents run options ready (path :: rest) world.disk) input
        fun later same' => ?_
      have apart' : Apart run ((earlier ++ [path]) ++ rest) := by
        rwa [List.append_assoc, List.singleton_append]
      have agrees' : Disk.AgreesOff ((earlier ++ [path]).map run.pageName) ready later.disk := by
        rw [List.map_append, same']
        exact agrees.trans changed
      have others := ih apart' found' agrees'
      have restChanged := others.changed
      rw [same'] at restChanged
      have kept := restChanged.find?_page apart.pageName_not_mem_rest
      rw [onDisk_map]
      refine ⟨?_, changed.trans restChanged,
        leaves_of_ok (kept.symm.trans page_eq.symm) answers others.leaves⟩
      rw [others.answer, List.map_cons, answers, tally]

end Run

/-! ### Requests -/

/-- What references are asked for with: all of the command but its inputs. -/
structure Request where
  output : Text
  plan : Option Text
  package : Option Text
  format : Text
  strict : Bool

/-- The references of inputs are written: what the run answers, and the disk that it leaves. -/
def Request.references (request : Request) (inputs : List Text) (disk : Disk) :
    Except Halt Nat × Disk :=
  onDisk (Command.run (.reference inputs request.output request.plan request.package request.format
    request.strict)) (World.start disk)

/-- All but the inputs is in order: the plan is read, the format is known, and the output directory is
made. `ready` is the disk with it. -/
structure Request.Ready (request : Request) (disk : Disk) (run : ReferenceRun) (ready : Disk) :
    Prop where
  plan : (onDisk (loadPlan request.plan) (World.start disk)).1 = .ok run.plan
  format : OutputFormat.ofName? request.format = some run.format
  path : run.output = request.output
  output : onDisk (makeOutput request.output) (World.start disk) = (.ok (), ready)

section Requests

variable {request : Request} {disk ready : Disk} {run : ReferenceRun} {inputs : List Text}

/-- The options that a request gives to every input. -/
def Request.options (request : Request) : DocOptions := ⟨request.package, [], request.strict⟩

/-- A file is there when the output directory has been made. -/
theorem Request.Ready.kind?_eq_file (isReady : request.Ready disk run ready) {path : Text}
    (file : disk.kind? path = some .file) : ready.kind? path = some .file := by
  have grows := keeps_makeOutput request.output (World.start disk)
  rw [isReady.output] at grows
  exact grows.kind?_eq_file file

/-- A run on some inputs documents them in order, from the disk with the output directory. -/
theorem documents_references (isReady : request.Ready disk run ready)
    (files : ∀ path ∈ inputs, disk.kind? path = some .file) (apart : Apart run (sortedOnce inputs)) :
    Documents run request.options ready (sortedOnce inputs) ready
      (request.references inputs disk) := by
  have plan_ran : (loadPlan request.plan : InMemory (Option Plan)).run.run (World.start disk) =
      (.ok run.plan, World.start disk) :=
    Prod.ext isReady.plan (run_loadPlan request.plan (World.start disk))
  have format_ran : (needFormat request.format : InMemory OutputFormat).run.run (World.start disk) =
      (.ok run.format, World.start disk) := by
    unfold needFormat
    rw [isReady.format]
    rfl
  unfold Request.references Command.run writeReferences
  simp only
  rw [onDisk_bind_run plan_ran, onDisk_bind_run format_ran]
  refine onDisk_bind_of_ok (P := Documents run request.options ready (sortedOnce inputs) ready)
    isReady.output fun made same => ?_
  have files' : ∀ path ∈ inputs, made.disk.kind? path = some .file := by
    intro path member
    rw [same]
    exact isReady.kind?_eq_file (files path member)
  refine onDisk_bind_of_ok (P := Documents run request.options ready (sortedOnce inputs) ready)
    (onDisk_expandInputs files') fun expanded same' => ?_
  refine onDisk_bind_of_ok (P := Documents run request.options ready (sortedOnce inputs) ready)
    (onDisk_pure () expanded) fun told same'' => ?_
  have unchanged : told.disk = ready := same''.trans (same'.trans same)
  have documents : Documents run request.options ready (sortedOnce inputs) ready
      (onDisk (referenceInputs run request.options [] (sortedOnce inputs)) told) := by
    have agrees : Disk.AgreesOff (([] : List Text).map run.pageName) ready told.disk := by
      rw [unchanged]
      exact Disk.AgreesOff.refl _ ready
    have documents := documents_referenceInputs apart (found_nil request.options ready) agrees
    rwa [unchanged] at documents
  have run_eq : (⟨run.plan, run.format, request.output⟩ : ReferenceRun) = run := by
    rw [← isReady.path]
  rw [onDisk_map, run_eq]
  refine ⟨?_, documents.changed, documents.leaves⟩
  have answer := documents.answer
  unfold Request.options at answer ⊢
  rw [answer]
  cases tally _ <;> simp [Except.map]

/-- A run on one input is what comes of the input alone. -/
theorem references_singleton {path : Text} (isReady : request.Ready disk run ready)
    (file : disk.kind? path = some .file) (apart : Apart run [path]) :
    (request.references [path] disk).1 = (aloneOn run request.options ready path).1 ∧
      (request.references [path] disk).2.find? (run.page path) =
        (aloneOn run request.options ready path).2 := by
  have sorted : sortedOnce [path] = [path] := by
    unfold sortedOnce
    rw [List.mergeSort_singleton]
    rfl
  have files : ∀ other ∈ [path], disk.kind? other = some .file := by simpa using file
  have documents := documents_references isReady files (by rwa [sorted])
  rw [sorted] at documents
  refine ⟨?_, ?_⟩
  · rw [documents.answer, List.map_singleton, tally_singleton]
  · exact (documents.leaves [] path [] rfl).1 fun _ member => absurd member List.not_mem_nil

/-- Each input on its own, in the order of their paths, up to the first that stops the run. -/
structure Isolated (request : Request) (run : ReferenceRun) (disk ready : Disk)
    (inputs : List Text) : Prop where
  /-- No input is dropped. -/
  order : (sortedOnce inputs).Perm inputs
  /-- What a run on one input answers. -/
  alone : ∀ path ∈ inputs, ready.Answered request.strict path (run.page path)
    (request.references [path] disk).1
  /-- An input before which none stops the run has the page that it has alone. -/
  reached : ∀ before path after, sortedOnce inputs = before ++ path :: after →
    (∀ other ∈ before, ready.stops request.strict other (run.page other) = false) →
    (request.references inputs disk).2.find? (run.page path) =
      (request.references [path] disk).2.find? (run.page path)
  /-- Behind an input that stops the run no page is written. -/
  unreached : ∀ before path after, sortedOnce inputs = before ++ path :: after →
    (∃ other ∈ before, ready.stops request.strict other (run.page other) = true) →
    (request.references inputs disk).2.find? (run.page path) = ready.find? (run.page path)
  /-- When no input stops the run, the answer is the number of those that fail. -/
  counted : (∀ path ∈ inputs, ready.stops request.strict path (run.page path) = false) →
    (request.references inputs disk).1 = .ok (inputs.countP (ready.fails request.strict))
  /-- The first input that stops the run gives the answer. -/
  halted : ∀ before path after, sortedOnce inputs = before ++ path :: after →
    (∀ other ∈ before, ready.stops request.strict other (run.page other) = false) →
    ready.stops request.strict path (run.page path) = true →
    (request.references inputs disk).1 = (request.references [path] disk).1

/-- **A run leaves for each input what a run on that input alone leaves, and counts the inputs that
fail, up to the first input that stops it.** -/
theorem references_isolated (tree : disk.IsTree) (isReady : request.Ready disk run ready)
    (files : ∀ path ∈ inputs, disk.kind? path = some .file)
    (stems : (inputs.map fileStem).Nodup) (clear : PagesClear run inputs)
    (alike : LimitsAgree inputs) : Isolated request run disk ready inputs := by
  have apart := apart_of_files tree files stems clear alike
  have order := apart.sortedOnce_perm
  have documents := documents_references isReady files (apart.perm order)
  have alone (path) (member : path ∈ inputs) :=
    references_singleton isReady (files path member) (apart.singleton member)
  have answered : ∀ path ∈ inputs, ready.Answered request.strict path (run.page path)
      (aloneOn run request.options ready path).1 := by
    intro path member
    have answered := Disk.answered_document run (ownOptions request.options ready path)
      (isReady.kind?_eq_file (files path member))
    unfold ownOptions at answered
    rwa [Disk.strict_packageOptions] at answered
  have inside {before after : List Text} {path : Text}
      (split : sortedOnce inputs = before ++ path :: after) :
      path ∈ inputs ∧ ∀ other ∈ before, other ∈ inputs := by
    refine ⟨order.subset ?_, fun other member => order.subset ?_⟩ <;> rw [split]
    · exact List.mem_append_right _ List.mem_cons_self
    · exact List.mem_append_left _ member
  refine ⟨order, ?_, ?_, ?_, ?_, ?_⟩
  · intro path member
    rw [(alone path member).1]
    exact answered path member
  · intro before path after split goesOn
    obtain ⟨inInputs, earlier⟩ := inside split
    rw [(alone path inInputs).2]
    refine (documents.leaves before path after split).1 fun other member => ?_
    exact ⟨_, (answered other (earlier other member)).eq_ok (goesOn other member)⟩
  · rintro before path after split ⟨other, member, stops⟩
    have halts := (answered other ((inside split).2 other member)).exists_error stops
    exact (documents.leaves before path after split).2 ⟨other, member, halts⟩
  · intro goesOn
    rw [documents.answer, ← order.countP_eq]
    refine tally_map fun path member => ?_
    have inInputs := order.subset member
    exact (answered path inInputs).eq_ok (goesOn path inInputs)
  · intro before path after split goesOn stops
    obtain ⟨inInputs, earlier⟩ := inside split
    obtain ⟨halt, halts⟩ := (answered path inInputs).exists_error stops
    rw [(alone path inInputs).1, documents.answer, split, List.map_append, List.map_cons, halts]
    refine tally_append_error halt _ fun answer member => ?_
    obtain ⟨other, inBefore, rfl⟩ := List.mem_map.mp member
    exact ⟨_, (answered other (earlier other inBefore)).eq_ok (goesOn other inBefore)⟩

end Requests

/-! ### A run that is stopped -/

def exampleRequest : Request := ⟨"out".toList, none, none, "md".toList, false⟩

def exampleRun : ReferenceRun := ⟨none, .markdown, "out".toList⟩

/-- A source that is refused, one whose page is blocked by a directory, and one that is fine. -/
def exampleDisk : Disk where
  here := ["work".toList]
  entries := [
    (["work".toList], .directory),
    (["work".toList, "a.py".toList], .file (some "class A:\n    \"\"\"open\n".toList)),
    (["work".toList, "b.py".toList], .file (some "class B:\n    pass\n".toList)),
    (["work".toList, "c.py".toList], .file (some "class C:\n    pass\n".toList)),
    (["work".toList, "out".toList], .directory),
    (["work".toList, "out".toList, "b.md".toList], .directory)]

def exampleInputs : List Text := ["a.py".toList, "b.py".toList, "c.py".toList]

theorem ready_example : exampleRequest.Ready exampleDisk exampleRun exampleDisk where
  plan := rfl
  format := by decide
  path := rfl
  output := by decide +kernel

theorem sortedOnce_exampleInputs : sortedOnce exampleInputs = exampleInputs := by
  have ordered : exampleInputs.Pairwise fun first second => precedes first second = true := by
    decide +kernel
  unfold sortedOnce
  rw [List.mergeSort_of_pairwise ordered]
  decide +kernel

theorem apart_exampleInputs : Apart exampleRun exampleInputs :=
  apart_of_files (by decide +kernel : exampleDisk.IsTree) (by decide +kernel) (by decide +kernel)
    (by decide +kernel) (by decide +kernel)

theorem references_isolated_sample :
    exampleDisk.IsTree ∧ exampleRequest.Ready exampleDisk exampleRun exampleDisk ∧
      (∀ path ∈ exampleInputs, exampleDisk.kind? path = some .file) ∧
      (exampleInputs.map fileStem).Nodup ∧ PagesClear exampleRun exampleInputs ∧
      LimitsAgree exampleInputs ∧
      Isolated exampleRequest exampleRun exampleDisk exampleDisk exampleInputs :=
  ⟨by decide +kernel, ready_example, by decide +kernel, by decide +kernel, by decide +kernel,
    by decide +kernel, references_isolated (by decide +kernel) ready_example (by decide +kernel)
      (by decide +kernel) (by decide +kernel) (by decide +kernel)⟩

/-- A page that cannot be written stops the run: a later input has a page when it is alone, and none
here. -/
theorem blocked_page_stops_run :
    (exampleRequest.references exampleInputs exampleDisk).1 =
        .error (.fail "failed to write out/b.md".toList) ∧
      (exampleRequest.references exampleInputs exampleDisk).2.find? "out/c.md".toList = none ∧
      (exampleRequest.references ["c.py".toList] exampleDisk).2.find? "out/c.md".toList =
        some (.file (some "# C\n".toList)) := by
  have documents := documents_references ready_example (by decide +kernel)
    (apart_exampleInputs.perm apart_exampleInputs.sortedOnce_perm)
  have single : Apart exampleRun ["c.py".toList] := apart_exampleInputs.singleton (by decide)
  have alone := references_singleton ready_example (by decide +kernel) single
  rw [sortedOnce_exampleInputs] at documents
  refine ⟨?_, ?_, ?_⟩
  · rw [documents.answer]
    decide +kernel
  · refine ((documents.leaves ["a.py".toList, "b.py".toList] "c.py".toList [] rfl).2
      ⟨"b.py".toList, by decide, .fail "failed to write out/b.md".toList, ?_⟩).trans ?_
    · decide +kernel
    · decide +kernel
  · refine alone.2.trans ?_
    decide +kernel

end ReferencePages
