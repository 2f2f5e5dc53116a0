/-
**One page for each stem.**

The pages of a run lie in one directory and are named by the stems of their inputs. So inputs of one
stem, which lie in different directories or differ in their extensions, share a page, and the text
that was written last is left of it. Which inputs a run has, and what it writes, is told by the run
itself, whatever the inputs are and whichever of them fail:

* `Disk.Renders`: the text that an input with public classes is given;
* `Documented`: the inputs documented one after the other, with the texts that are written;
* `Cached`, `sharedOptions`: a directory has the options that its first input found;
* `documented_referenceInputs`: a run that is not stopped documents its inputs;
* `references_pages`: **a run leaves one page for each stem among the inputs that it renders, with
  the text of the last of them**, so no text is lost exactly when their stems differ;
* `shared_stem_loses_page`: two inputs of one stem leave one page.
-/

import Mathlib.Data.Finset.Card
import ReferencePages.Proofs.Command.Expansion
import ReferencePages.Proofs.Command.Isolation
import ReferencePages.Proofs.Source.ClassLines

namespace ReferencePages

open Text ReferencePages.Path

/-! ### Inputs documented one after the other -/

/-- The source at the path has public classes, and the text is what their page says. -/
def Disk.Renders (disk : Disk) (run : ReferenceRun) (options : DocOptions) (path text : Text) :
    Prop :=
  ∃ source classes, disk.source path = .ok source ∧ source.classLines ≠ [] ∧
    source.assemble options.strict = .ok classes ∧
    text = (run.format.render classes run.plan (options.importPath source classes)).1

/-- Inputs are documented from a disk on: how many of them fail, which are rendered with what text,
and the disk that is left. Each input is read from the disk with the pages of those before it. -/
inductive Documented (run : ReferenceRun) (own : Text → DocOptions) :
    Disk → List Text → Nat → List (Text × Text) → Disk → Prop
  | nil (disk : Disk) : Documented run own disk [] 0 [] disk
  | failed {disk final : Disk} {path : Text} {rest : List Text} {failures : Nat}
      {renderings : List (Text × Text)} {error : InputError}
      (fails : disk.referenceText run (own path) path = .ok (.error error))
      (later : Documented run own disk rest failures renderings final) :
      Documented run own disk (path :: rest) (1 + failures) renderings final
  | plain {disk final : Disk} {path : Text} {rest : List Text} {failures : Nat}
      {renderings : List (Text × Text)} {source : Source} (reads : disk.source path = .ok source)
      (classless : source.classLines = [])
      (later : Documented run own disk rest failures renderings final) :
      Documented run own disk (path :: rest) failures renderings final
  | rendered {disk written final : Disk} {path text : Text} {rest : List Text} {failures : Nat}
      {renderings : List (Text × Text)} (renders : disk.Renders run (own path) path text)
      (writes : disk.write (run.page path) text = .ok written)
      (later : Documented run own written rest failures renderings final) :
      Documented run own disk (path :: rest) failures ((path, text) :: renderings) final

section Input

variable {disk : Disk} {run : ReferenceRun} {options : DocOptions} {path : Text}

/-- An input that is read and put together is shown when it has public classes. -/
theorem Disk.referenceText_eq_ok {shown : Option (Text × List Warning)}
    (read : disk.referenceText run options path = .ok (.ok shown)) :
    (shown = none ∧ ∃ source, disk.source path = .ok source ∧ source.classLines = []) ∨
      ∃ text warnings, shown = some (text, warnings) ∧ disk.Renders run options path text := by
  unfold referenceText at read
  split at read
  · cases read
  · rename_i source reads
    split at read
    · cases read
    · cases read
    · rename_i assembled
      cases read
      exact .inl ⟨rfl, source, reads, (Source.positions_assemble assembled).symm⟩
    · rename_i classes shows assembled
      cases read
      refine .inr ⟨_, _, rfl, source, classes, reads, ?_, assembled, rfl⟩
      rw [← Source.positions_assemble assembled, ne_eq, List.map_eq_nil_iff]
      rintro rfl
      exact shows rfl

/-- What can come of an input when the run is not stopped. -/
theorem Disk.document_cases {left : Disk} {failures : Nat}
    (documented : disk.document run options path = (.ok failures, left)) :
    (failures = 1 ∧ left = disk ∧
        ∃ error, disk.referenceText run options path = .ok (.error error)) ∨
      (failures = 0 ∧ left = disk ∧
        ∃ source, disk.source path = .ok source ∧ source.classLines = []) ∨
      failures = 0 ∧ ∃ text, disk.Renders run options path text ∧
        disk.write (run.page path) text = .ok left := by
  unfold document at documented
  rcases read : disk.referenceText run options path with halt | (error | shown)
  · rw [read] at documented
    cases documented
  · rw [read] at documented
    cases documented
    exact .inl ⟨rfl, rfl, error, rfl⟩
  · rw [read] at documented
    rcases Disk.referenceText_eq_ok read with ⟨rfl, classless⟩ | ⟨text, warnings, rfl, renders⟩
    · cases documented
      exact .inr (.inl ⟨rfl, rfl, classless⟩)
    · simp only at documented
      cases writes : disk.write (run.page path) text with
      | error error =>
        rw [writes] at documented
        cases documented
      | ok written =>
        rw [writes] at documented
        cases documented
        exact .inr (.inr ⟨rfl, text, renders, writes⟩)

end Input

/-! ### What is left of the texts -/

/-- The names of the pages for some texts. -/
def ReferenceRun.pageNames (run : ReferenceRun) (renderings : List (Text × Text)) : List Text :=
  (renderings.map (·.1)).map run.pageName

/-- The places that some texts are written to. -/
def Disk.pagePlaces (disk : Disk) (run : ReferenceRun) (renderings : List (Text × Text)) :
    Finset Location :=
  (renderings.filterMap fun rendering => disk.place? (run.page rendering.1)).toFinset

/-- The stems of the inputs that are rendered. -/
def stems (renderings : List (Text × Text)) : List Text := renderings.map (fileStem ·.1)

section Trace

variable {disk final : Disk} {run : ReferenceRun} {own : Text → DocOptions} {files : List Text}
  {failures : Nat} {renderings : List (Text × Text)}

theorem Disk.mem_pagePlaces {place : Location} :
    place ∈ disk.pagePlaces run renderings ↔
      ∃ rendering ∈ renderings, disk.place? (run.page rendering.1) = some place := by
  rw [pagePlaces, List.mem_toFinset, List.mem_filterMap]

/-- The inputs that are rendered are inputs, in the same order. -/
theorem Documented.sublist (documented : Documented run own disk files failures renderings final) :
    (renderings.map (·.1)).Sublist files := by
  induction documented with
  | nil => exact List.Sublist.refl []
  | failed _ _ ih => exact ih.cons _
  | plain _ _ _ ih => exact ih.cons _
  | rendered _ _ _ ih => exact ih.cons_cons _

theorem Documented.agreesOff
    (documented : Documented run own disk files failures renderings final) :
    Disk.AgreesOff (run.pageNames renderings) disk final := by
  induction documented with
  | nil disk => exact Disk.AgreesOff.refl _ disk
  | failed _ _ ih => exact ih
  | plain _ _ _ ih => exact ih
  | rendered _ writes _ ih => exact (Disk.agreesOff_of_page writes).trans ih

/-- Nothing else is changed. -/
theorem Documented.kept (documented : Documented run own disk files failures renderings final)
    {place : Location} (elsewhere : place ∉ disk.pagePlaces run renderings) :
    final.entry? place = disk.entry? place := by
  induction documented with
  | nil => rfl
  | failed _ _ ih => exact ih elsewhere
  | plain _ _ _ ih => exact ih elsewhere
  | @rendered disk written final path text rest failures renderings _ writes _ ih =>
    rw [Disk.mem_pagePlaces] at elsewhere
    have agrees := Disk.agreesOff_of_page writes
    obtain ⟨here, located, named, -, isWritten⟩ := Disk.exists_place_of_write writes
    have notHere : place ≠ here := by
      rintro rfl
      exact elsewhere ⟨(path, text), List.mem_cons_self, located⟩
    have notLater : place ∉ written.pagePlaces run renderings := by
      rw [Disk.mem_pagePlaces]
      rintro ⟨rendering, member, leads⟩
      rw [← agrees.place?] at leads
      exact elsewhere ⟨rendering, List.mem_cons_of_mem _ member, leads⟩
    rw [ih notLater, isWritten, Disk.stands_put named, if_neg notHere]

/-- **The last text of a stem is left.** -/
theorem Documented.last (documented : Documented run own disk files failures renderings final)
    {before after : List (Text × Text)} {path text : Text}
    (split : renderings = before ++ (path, text) :: after) (isLast : fileStem path ∉ stems after) :
    final.find? (run.page path) = some (.file (some text)) := by
  induction documented generalizing before with
  | nil => exact absurd split.symm (List.append_ne_nil_of_right_ne_nil _ (List.cons_ne_nil _ _))
  | failed _ _ ih => exact ih split
  | plain _ _ _ ih => exact ih split
  | @rendered disk written final first shown rest failures renderings _ writes later ih =>
    rcases List.cons_eq_append_iff.mp split with ⟨rfl, tail⟩ | ⟨others, rfl, tail⟩
    · cases tail
      have written_eq := Disk.find?_of_write (run.isProper_lastName_page path) writes
      rw [← written_eq]
      refine (later.agreesOff.find?_page fun member => isLast ?_).symm
      obtain ⟨other, inAfter, alike⟩ := List.mem_map.mp member
      obtain ⟨rendering, isOther, rfl⟩ := List.mem_map.mp inAfter
      rw [← run.pageName_inj alike]
      exact List.mem_map_of_mem isOther
    · exact ih tail

/-- Every text has a place. -/
theorem Documented.located (documented : Documented run own disk files failures renderings final) :
    ∀ rendering ∈ renderings, ∃ place, disk.place? (run.page rendering.1) = some place := by
  induction documented with
  | nil => exact fun _ member => absurd member List.not_mem_nil
  | failed _ _ ih => exact ih
  | plain _ _ _ ih => exact ih
  | rendered _ writes _ ih =>
    intro rendering member
    rcases List.mem_cons.mp member with rfl | later
    · obtain ⟨place, located, -⟩ := Disk.exists_place_of_write writes
      exact ⟨place, located⟩
    · rw [(Disk.agreesOff_of_page writes).place?]
      exact ih rendering later

/-- An input that no page of the run is written over is rendered as it was at the start. -/
theorem Documented.renders (documented : Documented run own disk files failures renderings final)
    {path text : Text} (member : (path, text) ∈ renderings) (proper : IsProper (lastName path))
    (clear : lastName path ∉ run.pageNames renderings) : disk.Renders run (own path) path text := by
  induction documented with
  | nil => cases member
  | failed _ _ ih => exact ih member clear
  | plain _ _ _ ih => exact ih member clear
  | @rendered disk written final first shown rest failures renderings renders writes _ ih =>
    rcases List.mem_cons.mp member with same | later
    · cases same
      exact renders
    · have apart : lastName path ≠ run.pageName first := fun alike =>
        clear (alike ▸ List.mem_cons_self)
      have clearLater : lastName path ∉ run.pageNames renderings := fun inLater =>
        clear (List.mem_cons_of_mem _ inLater)
      obtain ⟨source, classes, reads, others⟩ := ih later clearLater
      refine ⟨source, classes, ?_, others⟩
      rw [← reads]
      refine Disk.source_congr ((Disk.agreesOff_of_page writes).find? proper ?_)
      rwa [List.mem_singleton]

/-! ### How many pages there are -/

/-- Inputs share a page exactly when they share a stem. -/
theorem ReferenceRun.page_eq_iff (run : ReferenceRun) (first second : Text) :
    run.page first = run.page second ↔ fileStem first = fileStem second := by
  constructor
  · intro alike
    refine run.pageName_inj ?_
    rw [← run.lastName_page, ← run.lastName_page, alike]
  · intro alike
    rw [run.page_eq, run.page_eq, pageName, pageName, alike]

/-- Pages of different stems have different places. -/
theorem Disk.fileStem_of_place {first second : Text} {place : Location}
    (here : disk.place? (run.page first) = some place)
    (there : disk.place? (run.page second) = some place) : fileStem first = fileStem second := by
  have ends := getLast?_place (run.isProper_lastName_page first) here
  rw [getLast?_place (run.isProper_lastName_page second) there] at ends
  rw [run.lastName_page, run.lastName_page] at ends
  exact run.pageName_inj (Option.some.inj ends).symm

/-- **There are as many pages as there are stems.** -/
theorem card_pagePlaces
    (located : ∀ rendering ∈ renderings, ∃ place, disk.place? (run.page rendering.1) = some place) :
    (disk.pagePlaces run renderings).card = (stems renderings).toFinset.card := by
  induction renderings with
  | nil => rfl
  | cons rendering rest ih =>
    obtain ⟨place, leads⟩ := located rendering List.mem_cons_self
    have others := ih fun other member => located other (List.mem_cons_of_mem _ member)
    have places_eq : disk.pagePlaces run (rendering :: rest) =
        insert place (disk.pagePlaces run rest) := by
      rw [Disk.pagePlaces, List.filterMap_cons, leads, List.toFinset_cons]
      rfl
    have known : place ∈ disk.pagePlaces run rest ↔
        fileStem rendering.1 ∈ (stems rest).toFinset := by
      rw [Disk.mem_pagePlaces, List.mem_toFinset, stems, List.mem_map]
      constructor
      · rintro ⟨other, member, there⟩
        exact ⟨other, member, Disk.fileStem_of_place there leads⟩
      · rintro ⟨other, member, alike⟩
        rw [← run.page_eq_iff] at alike
        exact ⟨other, member, alike ▸ leads⟩
    rw [places_eq, stems, List.map_cons, List.toFinset_cons, Finset.card_insert_eq_ite,
      Finset.card_insert_eq_ite, ← stems, others]
    simp only [known]

theorem card_stems_iff :
    (stems renderings).toFinset.card = renderings.length ↔ (stems renderings).Nodup := by
  rw [← Multiset.coe_nodup, ← Multiset.toFinset_card_eq_card_iff_nodup, Multiset.coe_card, stems,
    List.length_map]
  rfl

end Trace

/-! ### The options of a directory -/

/-- The options of an input: those that the first input of its directory finds. -/
def sharedOptions (options : DocOptions) (ready : Disk) (files : List Text) (path : Text) :
    DocOptions :=
  ownOptions options ready ((files.find? fun other => same (parent path) (parent other)).getD path)

/-- The options found so far are those that the first input of each directory finds. -/
def Cached (options : DocOptions) (ready : Disk) (earlier : List Text) (packages : Packages) :
    Prop :=
  ∀ directory, packages.find? (same directory ·.1) =
    (earlier.find? fun other => same directory (parent other)).map fun other =>
      (parent other, ownOptions options ready other)

section Run

variable {run : ReferenceRun} {options : DocOptions} {ready : Disk} {earlier rest : List Text}
  {path : Text} {packages : Packages} {world : World}

theorem same_refl (path : Text) : same path path = true := decide_eq_true rfl

theorem same_congr {first second : Text} (alike : same first second = true) (other : Text) :
    same first other = same second other := by
  unfold same at alike ⊢
  rw [of_decide_eq_true alike]

/-- The options of an input are found as the first input of its directory finds them. -/
theorem cached_optionsFor {names : List Text} (path : Text) (rest : List Text)
    (cached : Cached options ready earlier packages)
    (agrees : Disk.AgreesOff names ready world.disk) (other : packageFile ∉ names) :
    ∃ packages', Cached options ready (earlier ++ [path]) packages' ∧
      onDisk (optionsFor options packages (parent path)) world =
        (.ok (sharedOptions options ready (earlier ++ path :: rest) path, packages'),
          world.disk) := by
  unfold optionsFor sharedOptions
  rw [cached (parent path), List.find?_append]
  cases hit : earlier.find? fun other => same (parent path) (parent other) with
  | some first =>
    have alike : same (parent path) (parent first) = true := by simpa using List.find?_some hit
    refine ⟨packages, fun directory => ?_, onDisk_pure _ world⟩
    rw [cached directory, List.find?_append, List.find?_singleton]
    cases known : earlier.find? fun other => same directory (parent other) with
    | some other => rfl
    | none =>
      -- a directory that is the same as the input's would have been found with `first`
      have differs : same directory (parent path) = false := by
        refine Bool.eq_false_iff.mpr fun isSame => ?_
        refine List.find?_eq_none.mp known first (List.mem_of_find?_eq_some hit) ?_
        rw [same_congr isSame, alike]
      simp [differs]
  | none =>
    refine ⟨(parent path, ownOptions options ready path) :: packages, fun directory => ?_, ?_⟩
    · rw [List.find?_cons, List.find?_append, List.find?_singleton]
      cases isSame : same directory (parent path) with
      | true =>
        simp only [same_congr isSame]
        rw [hit]
        rfl
      | false =>
        rw [cached directory]
        simp
    · have options_eq : world.disk.packageOptions options (parent path) =
          ownOptions options ready path :=
        (agrees.packageOptions other options (parent path)).symm
      have looks := onDisk_packageOptions options (parent path) world
      rw [options_eq] at looks
      refine onDisk_bind_ok looks fun after isSame => ?_
      rw [onDisk_pure, isSame, List.find?_cons, same_refl]
      rfl

/-- A run that is not stopped documents its inputs. -/
theorem documented_referenceInputs {names : List Text} {failures : Nat} {final : Disk}
    (cached : Cached options ready earlier packages)
    (agrees : Disk.AgreesOff names ready world.disk) (other : packageFile ∉ names)
    (ran : onDisk (referenceInputs run options packages rest) world = (.ok failures, final)) :
    ∃ renderings, Documented run (sharedOptions options ready (earlier ++ rest)) world.disk rest
      failures renderings final := by
  induction rest generalizing earlier packages world names failures with
  | nil =>
    cases ran
    exact ⟨[], .nil world.disk⟩
  | cons path rest ih =>
    rw [referenceInputs] at ran
    obtain ⟨packages', cached', looked⟩ := cached_optionsFor path rest cached agrees other
    obtain ⟨found, after, optionsRan, ran⟩ := exists_of_onDisk_bind ran
    obtain ⟨isFound, unchanged⟩ := Prod.mk.inj (looked.symm.trans (onDisk_of_run optionsRan))
    cases isFound
    obtain ⟨failed, inputWorld, inputRan, ran⟩ := exists_of_onDisk_bind ran
    have input := onDisk_of_run inputRan
    rw [onDisk_referenceInput, ← unchanged] at input
    obtain ⟨others, last, othersRan, ran⟩ := exists_of_onDisk_bind ran
    rw [onDisk_pure] at ran
    cases ran
    have agrees' : Disk.AgreesOff (names ++ [run.pageName path]) ready inputWorld.disk := by
      have changed := world.disk.agreesOff_document run
        (sharedOptions options ready (earlier ++ path :: rest) path) path
      rw [input] at changed
      exact agrees.trans changed
    have other' : packageFile ∉ names ++ [run.pageName path] := by
      rw [List.mem_append, List.mem_singleton, not_or]
      exact ⟨other, (run.pageName_ne_packageFile path).symm⟩
    obtain ⟨renderings, later⟩ := ih cached' agrees' other' (onDisk_of_run othersRan)
    rw [List.append_assoc, List.singleton_append] at later
    rcases Disk.document_cases input with
      ⟨rfl, isLeft, error, fails⟩ | ⟨rfl, isLeft, source, reads, classless⟩ |
        ⟨rfl, text, renders, writes⟩
    · rw [isLeft] at later
      exact ⟨renderings, .failed fails later⟩
    · rw [isLeft] at later
      rw [Nat.zero_add]
      exact ⟨renderings, .plain reads classless later⟩
    · rw [Nat.zero_add]
      exact ⟨(path, text) :: renderings, .rendered renders writes later⟩

end Run

/-! ### The whole run -/

theorem reads_reportMissing (missing : List Text) : Reads (reportMissing missing) := by
  induction missing with
  | nil => exact reads_pure ()
  | cons path rest ih =>
    exact Reads.bind ⟨fun _ => .ok (), onDisk_tell _ _⟩ fun _ => ih

theorem run_needFormat {name : Text} {format : OutputFormat} {world after : World}
    (ran : (needFormat name : InMemory OutputFormat).run.run world = (.ok format, after)) :
    OutputFormat.ofName? name = some format ∧ after = world := by
  unfold needFormat at ran
  cases known : OutputFormat.ofName? name with
  | none =>
    rw [known] at ran
    cases ran
  | some found =>
    rw [known] at ran
    cases ran
    exact ⟨rfl, rfl⟩

/-- The files that inputs stand for are in the order of their paths, each once. -/
theorem pairwise_of_expandInputs {inputs files missing : List Text} {world : World} {disk : Disk}
    (ran : onDisk (expandInputs inputs) world = (.ok (files, missing), disk)) :
    files.Pairwise fun first second =>
      precedes first second = true ∧ same first second = false := by
  obtain ⟨listed, after, -, ran⟩ := exists_of_onDisk_bind ran
  rw [onDisk_pure] at ran
  cases ran
  exact pairwise_sortedOnce listed.1

/-- What is left of the texts of a run: one page for each stem. -/
structure OnePageEach (run : ReferenceRun) (own : Text → DocOptions) (ready final : Disk)
    (files : List Text) (renderings : List (Text × Text)) : Prop where
  inputs : (renderings.map (·.1)).Sublist files
  /-- An input that no page is written over is rendered as it was at the start. -/
  texts : ∀ path text, (path, text) ∈ renderings → IsProper (lastName path) →
    lastName path ∉ run.pageNames renderings → ready.Renders run (own path) path text
  /-- Inputs share a page exactly when they share a stem. -/
  shared : ∀ first second, run.page first = run.page second ↔ fileStem first = fileStem second
  /-- There are as many files as there are stems. -/
  count : (ready.pagePlaces run renderings).card = (stems renderings).toFinset.card
  /-- There are as many files as texts exactly when no two inputs share a stem. -/
  count_iff : (ready.pagePlaces run renderings).card = renderings.length ↔ (stems renderings).Nodup
  /-- Of the texts for one page, the last one is left. -/
  last : ∀ before path text after, renderings = before ++ (path, text) :: after →
    fileStem path ∉ stems after → final.find? (run.page path) = some (.file (some text))
  /-- When no two inputs share a stem, each has its own text. -/
  each : (stems renderings).Nodup → ∀ path text, (path, text) ∈ renderings →
    final.find? (run.page path) = some (.file (some text))
  kept : ∀ place, place ∉ ready.pagePlaces run renderings → final.entry? place = ready.entry? place

theorem Documented.onePageEach {disk final : Disk} {run : ReferenceRun} {own : Text → DocOptions}
    {files : List Text} {failures : Nat} {renderings : List (Text × Text)}
    (documented : Documented run own disk files failures renderings final) :
    OnePageEach run own disk final files renderings where
  inputs := documented.sublist
  texts := fun _ _ member proper clear => documented.renders member proper clear
  shared := run.page_eq_iff
  count := card_pagePlaces documented.located
  count_iff := by
    rw [card_pagePlaces documented.located]
    exact card_stems_iff
  last := fun _ _ _ _ split isLast => documented.last split isLast
  each := by
    intro distinct path text member
    obtain ⟨before, after, split⟩ := List.append_of_mem member
    refine documented.last split ?_
    rw [split, stems, List.map_append, List.map_cons] at distinct
    exact (List.nodup_cons.mp (List.nodup_append.mp distinct).2.1).1
  kept := fun _ elsewhere => documented.kept elsewhere

section Requests

variable {request : Request} {disk final : Disk} {inputs : List Text} {failures : Nat}

/-- A run that is not stopped gets ready, expands its inputs and comes to documenting them. -/
theorem referenceInputs_of_references
    (answers : request.references inputs disk = (.ok failures, final)) :
    ∃ run ready files missing failed told,
      request.Ready disk run ready ∧
      onDisk (expandInputs inputs) (World.start ready) = (.ok (files, missing), ready) ∧
      failures = missing.length + failed ∧ told.disk = ready ∧
      onDisk (referenceInputs run request.options [] files) told = (.ok failed, final) := by
  unfold Request.references Command.run writeReferences at answers
  simp only at answers
  obtain ⟨plan, planned, planRan, formatting⟩ := exists_of_onDisk_bind answers
  have unchanged : planned = World.start disk := by
    have unchanged := run_loadPlan request.plan (World.start disk)
    rwa [planRan] at unchanged
  subst unchanged
  obtain ⟨format, formatted, formatRan, making⟩ := exists_of_onDisk_bind formatting
  obtain ⟨isFormat, rfl⟩ := run_needFormat formatRan
  obtain ⟨_, made, madeRan, expanding⟩ := exists_of_onDisk_bind making
  obtain ⟨⟨files, missing⟩, expanded, expandRan, telling⟩ := exists_of_onDisk_bind expanding
  obtain ⟨_, told, toldRan, documenting⟩ := exists_of_onDisk_bind telling
  obtain ⟨failed, last, inputsRan, ending⟩ := exists_of_onDisk_bind documenting
  rw [onDisk_pure] at ending
  cases ending
  -- Looking the inputs up and reporting those that are missing leave the disk alone.
  have looked := (onDisk_of_run expandRan).symm.trans ((reads_expandInputs inputs).onDisk_eq rfl)
  have reported := (onDisk_of_run toldRan).symm.trans ((reads_reportMissing missing).onDisk_eq rfl)
  obtain ⟨isExpanded, sameDisk⟩ := Prod.mk.inj looked
  have expands : onDisk (expandInputs inputs) (World.start made.disk) =
      (.ok (files, missing), made.disk) := by
    rw [(reads_expandInputs inputs).onDisk_eq rfl, isExpanded]
    rfl
  have isReady : request.Ready disk ⟨plan, format, request.output⟩ made.disk := by
    refine ⟨?_, isFormat, rfl, onDisk_of_run madeRan⟩
    rw [onDisk_of_run planRan]
  exact ⟨⟨plan, format, request.output⟩, made.disk, files, missing, failed, told, isReady, expands,
    rfl, (Prod.mk.inj reported).2.trans sameDisk, onDisk_of_run inputsRan⟩

/-- **A run that is not stopped leaves one page for each stem among the inputs that it renders, with
the text of the last of them.** -/
theorem references_pages (answers : request.references inputs disk = (.ok failures, final)) :
    ∃ run ready files missing failed renderings,
      request.Ready disk run ready ∧
      onDisk (expandInputs inputs) (World.start ready) = (.ok (files, missing), ready) ∧
      (files.Pairwise fun first second =>
        precedes first second = true ∧ same first second = false) ∧
      failures = missing.length + failed ∧
      Documented run (sharedOptions request.options ready files) ready files failed renderings
        final ∧
      OnePageEach run (sharedOptions request.options ready files) ready final files renderings := by
  obtain ⟨run, ready, files, missing, failed, told, isReady, expands, counted, isTold, ran⟩ :=
    referenceInputs_of_references answers
  have cached : Cached request.options ready [] [] := fun _ => rfl
  have agrees : Disk.AgreesOff [] ready told.disk := by
    rw [isTold]
    exact Disk.AgreesOff.refl [] ready
  obtain ⟨renderings, documented⟩ :=
    documented_referenceInputs cached agrees List.not_mem_nil ran
  rw [isTold, List.nil_append] at documented
  exact ⟨run, ready, files, missing, failed, renderings, isReady, expands,
    pairwise_of_expandInputs expands, counted, documented, documented.onePageEach⟩

end Requests

/-! ### Two inputs of one stem -/

/-- Two directories with a source of the same name in each. -/
def sharedStemDisk : Disk where
  here := ["work".toList]
  entries := [
    (["work".toList], .directory),
    (["work".toList, "a".toList], .directory),
    (["work".toList, "a".toList, "x.py".toList], .file (some "class A:\n    pass\n".toList)),
    (["work".toList, "b".toList], .directory),
    (["work".toList, "b".toList, "x.py".toList], .file (some "class B:\n    pass\n".toList))]

def sharedStemReady : Disk := sharedStemDisk.put ["work".toList, "out".toList] .directory

def sharedStemFinal : Disk :=
  sharedStemReady.put ["work".toList, "out".toList, "x.md".toList] (.file (some "# B\n".toList))

def sharedStemInputs : List Text := ["a/x.py".toList, "b/x.py".toList]

theorem references_sharedStem :
    exampleRequest.references sharedStemInputs sharedStemDisk = (.ok 0, sharedStemFinal) := by
  have planRan : (loadPlan none : InMemory (Option Plan)).run.run (World.start sharedStemDisk) =
      (.ok none, World.start sharedStemDisk) := rfl
  have formatRan : (needFormat "md".toList : InMemory OutputFormat).run.run
      (World.start sharedStemDisk) = (.ok .markdown, World.start sharedStemDisk) := rfl
  have outputRan : (makeOutput "out".toList : InMemory Unit).run.run (World.start sharedStemDisk) =
      (.ok (), World.start sharedStemReady) := by
    change (_ : Except Halt Unit × World) = _
    decide +kernel
  have sorted : sortedOnce sharedStemInputs = sharedStemInputs := by
    have ordered : sharedStemInputs.Pairwise fun first second => precedes first second = true := by
      decide +kernel
    unfold sortedOnce
    rw [List.mergeSort_of_pairwise ordered]
    decide +kernel
  have listRan : (listInputs sharedStemInputs : InMemory (List Text × List Text)).run.run
      (World.start sharedStemReady) = (.ok (sharedStemInputs, []), World.start sharedStemReady) := by
    change (_ : Except Halt (List Text × List Text) × World) = _
    decide +kernel
  have expandRan : (expandInputs sharedStemInputs : InMemory (List Text × List Text)).run.run
      (World.start sharedStemReady) = (.ok (sharedStemInputs, []), World.start sharedStemReady) := by
    unfold expandInputs
    rw [run_bind, listRan]
    simp only
    rw [sorted]
    rfl
  unfold Request.references Command.run writeReferences exampleRequest
  simp only
  rw [onDisk_bind_run planRan, onDisk_bind_run formatRan, onDisk_bind_run outputRan,
    onDisk_bind_run expandRan]
  decide +kernel

theorem references_pages_sample :
    exampleRequest.references sharedStemInputs sharedStemDisk = (.ok 0, sharedStemFinal) ∧
      ∃ run ready files missing failed renderings,
        exampleRequest.Ready sharedStemDisk run ready ∧
        onDisk (expandInputs sharedStemInputs) (World.start ready) = (.ok (files, missing), ready) ∧
        (files.Pairwise fun first second =>
          precedes first second = true ∧ same first second = false) ∧
        0 = missing.length + failed ∧
        Documented run (sharedOptions exampleRequest.options ready files) ready files failed
          renderings sharedStemFinal ∧
        OnePageEach run (sharedOptions exampleRequest.options ready files) ready sharedStemFinal
          files renderings :=
  ⟨references_sharedStem, references_pages references_sharedStem⟩

/-- Two inputs with a public class each leave one page when they share a stem: the text of the first
one, which it has when it is alone, is nowhere. -/
theorem shared_stem_loses_page :
    (∀ path ∈ sharedStemInputs,
      (sharedStemDisk.source path).toOption.map (·.classLines) = some [0]) ∧
      (exampleRequest.references sharedStemInputs sharedStemDisk).1 = .ok 0 ∧
      (exampleRequest.references sharedStemInputs sharedStemDisk).2.names? "out".toList =
        some ["x.md".toList] ∧
      (exampleRequest.references sharedStemInputs sharedStemDisk).2.find? "out/x.md".toList =
        some (.file (some "# B\n".toList)) ∧
      (exampleRequest.references ["a/x.py".toList] sharedStemDisk).2.find? "out/x.md".toList =
        some (.file (some "# A\n".toList)) := by
  have isReady : exampleRequest.Ready sharedStemDisk exampleRun sharedStemReady :=
    ⟨rfl, by decide, rfl, by decide +kernel⟩
  have apart : Apart exampleRun ["a/x.py".toList] :=
    apart_of_files (by decide +kernel : sharedStemDisk.IsTree) (by decide +kernel)
      (by decide +kernel) (by decide +kernel) (by decide +kernel)
  have alone := references_singleton isReady (by decide +kernel) apart
  rw [references_sharedStem]
  refine ⟨by decide +kernel, rfl, by decide +kernel, by decide +kernel, alone.2.trans ?_⟩
  decide +kernel

end ReferencePages
