/-
**Runs on reordered inputs.**

The inputs of a run can be given in any order, a file any number of times, and a disk can list its
entries in any order. The files are put in order and documented once each, so the run comes to the
same:

* `KnownOf`, `KnownOf.leads`: options are looked for at the first file of a directory only;
* `runsAlike_optionsFor`: the options of a directory are known in both runs or looked for in both;
* `runsAlike_referenceInput`, `runsAlike_referenceInputs`: an input is documented in the same way in
  both runs, and so are all inputs, one after the other;
* `runsAlike_expandInputs`: reordered inputs are expanded to spellings of the same paths, in each run
  to those that come first in it (`Path.mem_sortedOnce_iff`);
* `references_reordered`: **the order of the inputs does not matter**, except that a warning about a
  package file is spelled by the file that leads its directory (`Leads`), as the inputs first spell it;
* `order_chooses_spelling`: the order shows in such a warning, and in the page of a file that is
  spelled in a way that is too long for the package file beside it.
-/

import ReferencePages.Proofs.Command.SpelledFiles

namespace ReferencePages

open Text ReferencePages.Path

/-! ### One input after the other -/

/-- The options found so far are the same, for the same directories. -/
def PackagesAlike : Packages → Packages → Prop :=
  List.Forall₂ fun known known' => same known.1 known'.1 = true ∧ known.2 = known'.2

theorem PackagesAlike.find? {packages packages' : Packages} (alike : PackagesAlike packages packages')
    {directory directory' : Text} (directories : same directory directory' = true) :
    (packages.find? (same directory ·.1)).map (·.2) =
      (packages'.find? (same directory' ·.1)).map (·.2) := by
  induction alike with
  | nil => rfl
  | @cons known known' _ _ both _ ih =>
    have hit : same directory known.1 = same directory' known'.1 := by
      unfold same
      rw [of_decide_eq_true directories, of_decide_eq_true both.1]
    rw [List.find?_cons, List.find?_cons, hit]
    cases same directory' known'.1 with
    | true => exact congrArg some both.2
    | false => exact ih

/-- Options have been found for the directories of the inputs so far. -/
def KnownOf (packages : Packages) (earlier : List Text) : Prop :=
  ∀ other ∈ earlier, ∃ known ∈ packages, same (parent other) known.1 = true

section Runs

variable {files files' earlier earlier' : List Text} {one two : World} {path path' : Text}
  {packages packages' : Packages}

/-- An input whose directory is not known yet leads it. -/
theorem KnownOf.leads (known : KnownOf packages earlier) {rest : List Text}
    (split_eq : sortedOnce files = earlier ++ path :: rest)
    (miss : packages.find? (same (parent path) ·.1) = none) : Leads files path := by
  refine leads_of_split split_eq fun other inEarlier => Bool.eq_false_iff.mpr fun isSame => ?_
  obtain ⟨entry, member, alike⟩ := known other inEarlier
  refine List.find?_eq_none.mp miss entry member ?_
  rw [same_congr isSame]
  exact alike

theorem KnownOf.concat (known : KnownOf packages earlier)
    (hit : ∃ entry ∈ packages, same (parent path) entry.1 = true) :
    KnownOf packages (earlier ++ [path]) := by
  intro other member
  rcases List.mem_append.mp member with inEarlier | single
  · exact known other inEarlier
  · rw [List.mem_singleton.mp single]
    exact hit

/-- Once its options are there, the directory of an input is known. -/
theorem knownOf_run_optionsFor {options own : DocOptions} {world after : World}
    (known : KnownOf packages earlier)
    (ran : (optionsFor options packages (parent path) : InMemory _).run.run world =
      (.ok (own, packages'), after)) : KnownOf packages' (earlier ++ [path]) := by
  unfold optionsFor at ran
  cases hit : packages.find? (same (parent path) ·.1) with
  | some entry =>
    rw [hit] at ran
    cases ran
    exact known.concat ⟨entry, List.mem_of_find?_eq_some hit, by simpa using List.find?_some hit⟩
  | none =>
    obtain ⟨looked, found, -⟩ := run_packageOptions options (parent path) world
    rw [hit] at ran
    simp only at ran
    rw [run_bind, found] at ran
    cases ran
    have grown : KnownOf ((parent path, world.disk.packageOptions options (parent path)) :: packages)
        earlier := fun other inEarlier => by
      obtain ⟨entry, member, alike⟩ := known other inEarlier
      exact ⟨entry, List.mem_cons_of_mem _ member, alike⟩
    exact grown.concat ⟨_, List.mem_cons_self, same_refl _⟩

theorem runsAlike_packageOptions (options : DocOptions) (agree : SpellingsAgree files)
    (spellings : Spellings files path path') (leads : Leads files path) (leads' : Leads files' path')
    (alike : Alike (SpelledAlike files files') one two) :
    RunsAlike (SpelledAlike files files') Eq one two (packageOptions options (parent path))
      (packageOptions options (parent path')) := by
  obtain ⟨after, ran, disk, warnings⟩ := run_packageOptions options (parent path) one
  obtain ⟨after', ran', disk', warnings'⟩ := run_packageOptions options (parent path') two
  refine ⟨?_, ?_⟩ <;> rw [ran, ran']
  · exact .ok (packageOptions_spelled options agree spellings alike.tree)
  · refine ⟨?_, ?_⟩
    · rw [disk, disk']
      exact alike.tree
    · rw [warnings, warnings']
      exact List.rel_append alike.warnings
        (packageWarnings_spelled agree spellings leads leads' alike.tree)

/-- The options of a directory are known in both runs or looked for in both. -/
theorem runsAlike_optionsFor (options : DocOptions) (agree : SpellingsAgree files)
    (spellings : Spellings files path path') (found : PackagesAlike packages packages')
    (leads : packages.find? (same (parent path) ·.1) = none → Leads files path)
    (leads' : packages'.find? (same (parent path') ·.1) = none → Leads files' path')
    (alike : Alike (SpelledAlike files files') one two) :
    RunsAlike (SpelledAlike files files')
      (fun answer answer' => answer.1 = answer'.1 ∧ PackagesAlike answer.2 answer'.2) one two
      (optionsFor options packages (parent path)) (optionsFor options packages' (parent path')) := by
  have known := found.find? spellings.parents
  unfold optionsFor
  cases hit : packages.find? (same (parent path) ·.1) with
  | some entry =>
    obtain ⟨entry', hit', options_eq⟩ := Option.map_eq_some_iff.mp (by rw [← known, hit]; rfl)
    rw [hit']
    exact runsAlike_pure alike ⟨options_eq.symm, found⟩
  | none =>
    have miss : packages'.find? (same (parent path') ·.1) = none := by
      rw [hit] at known
      exact Option.map_eq_none_iff.mp known.symm
    rw [miss]
    refine (runsAlike_packageOptions options agree spellings (leads hit) (leads' miss) alike).bind_eq
      fun own _ _ alike' => ?_
    exact runsAlike_pure alike' ⟨rfl, .cons ⟨spellings.parents, rfl⟩ found⟩

/-- An input is documented in both runs in the same way. -/
theorem runsAlike_referenceInput (run : ReferenceRun) (options : DocOptions)
    (spellings : Spellings files path path') (alike : Alike (SpelledAlike files files') one two) :
    RunsAlike (SpelledAlike files files') Eq one two (referenceInput run options path)
      (referenceInput run options path') := by
  have read : RunsAlike (SpelledAlike files files') (fun answer answer' => answer.toOption = answer'.toOption)
      one two (referenceText run options path) (referenceText run options path') := by
    refine ⟨?_, ?_⟩ <;> rw [run_referenceText, run_referenceText]
    · exact referenceText_spelled run options spellings alike.tree
    · exact alike
  have page_eq : pagePath run.output path run.format.extension =
      pagePath run.output path' run.format.extension := by
    unfold pagePath
    rw [spellings.stems]
  refine read.bind fun answer answer' one' two' _ _ same alike' => ?_
  rcases answer with error | shown <;> rcases answer' with error' | shown' <;> cases same
  · refine (runsAlike_tell alike' (by decide) _ _).bind_eq fun _ _ _ last => ?_
    exact runsAlike_pure last rfl
  · rcases shown with - | ⟨text, warnings⟩
    · refine (runsAlike_tell alike' (by decide) _ _).bind_eq fun _ _ _ last => ?_
      exact runsAlike_pure last rfl
    · simp only
      rw [page_eq]
      refine (runsAlike_report (spelledAlike_message files files') warnings alike').bind_eq
        fun _ one'' two'' told => ?_
      refine (runsAlike_writeFile told _ text).bind_eq fun _ _ _ written => ?_
      refine (runsAlike_tell written (by decide) _ _).bind_eq fun _ _ _ last => ?_
      exact runsAlike_pure last rfl

/-- **Inputs are documented in both runs in the same way, one after the other.** -/
theorem runsAlike_referenceInputs (run : ReferenceRun) (options : DocOptions)
    (agree : SpellingsAgree files) {inputs inputs' : List Text}
    (spellings : List.Forall₂ (Spellings files) inputs inputs')
    (split_eq : sortedOnce files = earlier ++ inputs)
    (split_eq' : sortedOnce files' = earlier' ++ inputs')
    (found : PackagesAlike packages packages') (known : KnownOf packages earlier)
    (known' : KnownOf packages' earlier') (alike : Alike (SpelledAlike files files') one two) :
    RunsAlike (SpelledAlike files files') Eq one two (referenceInputs run options packages inputs)
      (referenceInputs run options packages' inputs') := by
  -- what is known of the directories of the inputs before goes along with the packages
  induction spellings generalizing earlier earlier' packages packages' one two with
  | nil => exact runsAlike_pure alike rfl
  | cons spelled _ ih =>
    rw [referenceInputs, referenceInputs]
    refine (runsAlike_optionsFor options agree spelled found (known.leads split_eq)
      (known'.leads split_eq') alike).bind fun answer answer' one' two' ran ran' both alike' => ?_
    obtain ⟨own, later⟩ := answer
    obtain ⟨own', later'⟩ := answer'
    obtain ⟨rfl, found'⟩ := both
    rw [List.append_cons] at split_eq split_eq'
    refine (runsAlike_referenceInput run own spelled alike').bind_eq fun failed _ _ documented => ?_
    refine (ih split_eq split_eq' found' (knownOf_run_optionsFor known ran)
      (knownOf_run_optionsFor known' ran') documented).bind_eq fun failures _ _ last => ?_
    exact runsAlike_pure last rfl

end Runs

/-! ### Whole runs -/

/-- The warnings of a run, in order. -/
def Request.warnings (request : Request) (inputs : List Text) (disk : Disk) : List Text :=
  ((Command.run (.reference inputs request.output request.plan request.package request.format
    request.strict) : InMemory Nat).run.run (World.start disk)).2.warnings

/-- The files that a run comes to, as they are spelled: those that its inputs stand for when the
output directory has been made. -/
def Request.files (request : Request) (inputs : List Text) (disk : Disk) : List Text :=
  match (onDisk (do makeOutput request.output; listInputs inputs) (World.start disk)).1 with
  | .ok found => found.1
  | .error _ => []

/-- Two runs come to the same: they count the same number of failures or stop for the same reason,
leave the same files with the same contents, and report the same warnings in the same order. -/
structure SameOutcome (request : Request) (inputs inputs' : List Text) (disk disk' : Disk) : Prop where
  answer : (request.references inputs disk).1 = (request.references inputs' disk').1
  tree : Disk.SameTree (request.references inputs disk).2 (request.references inputs' disk').2
  /-- A warning about a package file may differ in the spelling of its directory, which each run takes
  from the file that leads it. -/
  warnings : List.Forall₂ (SpelledAlike (request.files inputs disk) (request.files inputs' disk'))
    (request.warnings inputs disk) (request.warnings inputs' disk')
  /-- Nothing differs when every path is spelled in one way. -/
  once : OneSpelling (request.files inputs disk) →
    request.warnings inputs disk = request.warnings inputs' disk'

section Requests

variable {request : Request} {inputs inputs' : List Text} {disk disk' : Disk}

/-- When the output directory has been made, reordered inputs are expanded to spellings of the same
paths, in each run to those that come first in it. -/
theorem runsAlike_expandInputs {W : Text → Text → Prop} {made made' : World}
    (valid : ∀ input ∈ inputs, (readPattern? input).isSome = true)
    (reordered : Reordered disk inputs inputs')
    (ran : (makeOutput request.output : InMemory Unit).run.run (World.start disk) = (.ok (), made))
    (ran' : (makeOutput request.output : InMemory Unit).run.run (World.start disk') =
      (.ok (), made')) (alike : Alike W made made') :
    RunsAlike W (fun found found' =>
        List.Forall₂ (Spellings (request.files inputs disk)) found.1 found'.1 ∧
          sortedOnce (request.files inputs disk) = found.1 ∧
          sortedOnce (request.files inputs' disk') = found'.1 ∧
          found.2.length = found'.2.length) made made' (expandInputs inputs)
      (expandInputs inputs') := by
  have grows : disk.Grows made.disk := by
    have grows := keeps_makeOutput request.output (World.start disk)
    rwa [onDisk_of_run ran] at grows
  obtain ⟨⟨files, missing⟩, ⟨files', missing'⟩, looks, looks', same, order⟩ :=
    looksAlike_listInputs alike.tree valid (reordered.grows fun path => grows.kind?_eq_file)
  have files_eq : request.files inputs disk = files := by
    unfold Request.files
    rw [onDisk_bind_run ran, onDisk_of_run looks]
  have files_eq' : request.files inputs' disk' = files' := by
    unfold Request.files
    rw [onDisk_bind_run ran', onDisk_of_run looks']
  rw [files_eq, files_eq']
  refine LooksAlike.runsAlike ⟨_, _, looks.bind (looks_pure _ made), looks'.bind (looks_pure _ made'),
    ?_, rfl, rfl, order.length_eq⟩ alike
  refine (sortedOnce_of_sameMembers same.members).imp fun path path' found => ?_
  exact spellings_of_files same.files found.1 found.2.1 found.2.2

theorem runsAlike_references (tree : Disk.SameTree disk disk')
    (valid : ∀ input ∈ inputs, (readPattern? input).isSome = true)
    (reordered : Reordered disk inputs inputs')
    (agree : SpellingsAgree (request.files inputs disk)) :
    RunsAlike (SpelledAlike (request.files inputs disk) (request.files inputs' disk')) Eq
      (World.start disk) (World.start disk')
      (Command.run (.reference inputs request.output request.plan request.package request.format
        request.strict))
      (Command.run (.reference inputs' request.output request.plan request.package request.format
        request.strict)) := by
  have alike : Alike (SpelledAlike (request.files inputs disk) (request.files inputs' disk'))
      (World.start disk) (World.start disk') := ⟨tree, .nil⟩
  unfold Command.run writeReferences
  simp only
  refine (runsAlike_loadPlan alike request.plan).bind
    fun plan plan' planned planned' ran ran' same alike => ?_
  have unchanged := run_loadPlan request.plan (World.start disk)
  have unchanged' := run_loadPlan request.plan (World.start disk')
  rw [ran] at unchanged
  rw [ran'] at unchanged'
  subst unchanged unchanged' same
  refine (runsAlike_needFormat alike request.format).bind
    fun format format' formatted formatted' ran ran' same alike => ?_
  obtain ⟨-, unchanged⟩ := run_needFormat ran
  obtain ⟨-, unchanged'⟩ := run_needFormat ran'
  subst unchanged unchanged' same
  refine (runsAlike_makeOutput alike request.output).bind
    fun _ _ made made' ran ran' _ alike => ?_
  refine (runsAlike_expandInputs valid reordered ran ran' alike).bind
    fun found found' expanded expanded' _ _ both alike => ?_
  obtain ⟨spellings, isSorted, isSorted', missing⟩ := both
  refine (runsAlike_reportMissing alike found.2 found'.2).bind_eq fun _ told told' alike => ?_
  have unknown : KnownOf [] [] := fun other none => absurd none List.not_mem_nil
  rw [← List.nil_append found.1] at isSorted
  rw [← List.nil_append found'.1] at isSorted'
  refine (runsAlike_referenceInputs _ _ agree spellings isSorted isSorted' .nil unknown unknown
    alike).bind_eq fun failures last last' alike => ?_
  exact runsAlike_pure alike (congrArg (· + failures) missing)

/-- **The order of the inputs does not matter**: a run on reordered inputs, on a disk that lists its
entries in another order, comes to the same. Only a warning about a package file may be spelled in
another way, by the input that leads its directory. -/
theorem references_reordered (tree : Disk.SameTree disk disk')
    (valid : ∀ input ∈ inputs, (readPattern? input).isSome = true)
    (reordered : Reordered disk inputs inputs')
    (agree : SpellingsAgree (request.files inputs disk)) :
    SameOutcome request inputs inputs' disk disk' := by
  obtain ⟨answers, worlds⟩ := runsAlike_references tree valid reordered agree
  refine ⟨answers.eq, worlds.tree, worlds.warnings, fun one => ?_⟩
  rw [← List.forall₂_eq_eq_eq]
  exact worlds.warnings.imp fun _ _ => one.eq_of_spelledAlike

end Requests

/-! ### One file under two spellings -/

/-- The path of one file, with more or fewer slashes. -/
def spelled (slashes : Nat) : Text :=
  ('y' :: List.replicate slashes '/' ++ '/' :: ['x']) ++ '/' :: "a.py".toList

/-- A file in a package, which has a package file with the given text, if it is one. -/
def spelledDisk (package : Option Text) : Disk where
  here := ["work".toList]
  entries := [
    (["work".toList], .directory),
    (["work".toList, ['y']], .directory),
    (["work".toList, ['y'], ['x']], .directory),
    (["work".toList, ['y'], ['x'], packageFile], .file package),
    (["work".toList, ['y'], ['x'], "a.py".toList], .file (some "class A:\n    pass\n".toList))]

theorem references_reordered_sample :
    Disk.SameTree (spelledDisk none)
        { spelledDisk none with entries := (spelledDisk none).entries.reverse } ∧
      (∀ input ∈ [spelled 0, spelled 1], (readPattern? input).isSome = true) ∧
      Reordered (spelledDisk none) [spelled 0, spelled 1] [spelled 1, spelled 1, spelled 0] ∧
      SpellingsAgree (exampleRequest.files [spelled 0, spelled 1] (spelledDisk none)) ∧
      SameOutcome exampleRequest [spelled 0, spelled 1] [spelled 1, spelled 1, spelled 0]
        (spelledDisk none)
        { spelledDisk none with entries := (spelledDisk none).entries.reverse } := by
  have tree : Disk.SameTree (spelledDisk none)
      { spelledDisk none with entries := (spelledDisk none).entries.reverse } :=
    Disk.sameTree_of_perm (List.reverse_perm _).symm (by decide +kernel)
  have valid : ∀ input ∈ [spelled 0, spelled 1], (readPattern? input).isSome = true := by
    decide +kernel
  have reordered : Reordered (spelledDisk none) [spelled 0, spelled 1]
      [spelled 1, spelled 1, spelled 0] :=
    (reordered_of_perm _ (.swap _ _ _)).again (by decide +kernel) (by simp)
  have agree : SpellingsAgree (exampleRequest.files [spelled 0, spelled 1] (spelledDisk none)) := by
    decide +kernel
  exact ⟨tree, valid, reordered, agree, references_reordered tree valid reordered agree⟩

theorem pieces_slashes (slashes : Nat) :
    pieces ('y' :: List.replicate slashes '/') = ['y'] :: List.replicate slashes [] := by
  induction slashes with
  | zero => rfl
  | succ n ih =>
    have split := pieces_append ('y' :: List.replicate n '/') []
    rw [ih] at split
    rw [List.replicate_succ', ← List.cons_append, List.replicate_succ']
    exact split

theorem pieces_spelled (slashes : Nat) :
    pieces (spelled slashes) = ['y'] :: (List.replicate slashes [] ++ [['x'], "a.py".toList]) := by
  unfold spelled
  rw [pieces_append, pieces_append, pieces_slashes, List.append_assoc]
  rfl

theorem same_spelled (slashes : Nat) : same (spelled slashes) (spelled 0) = true := by
  have empty : (List.replicate slashes ([] : Text)).filterMap innerComponent? = [] := by
    refine List.filterMap_eq_nil_iff.mpr fun name member => ?_
    rw [List.eq_of_mem_replicate member]
    rfl
  refine decide_eq_true (components_eq_of_pieces (pieces_spelled slashes) (pieces_spelled 0) ?_
    fun none => absurd none (List.cons_ne_nil _ _))
  rw [List.filterMap_append, List.filterMap_append, empty]
  rfl

theorem lastName_spelled (slashes : Nat) : lastName (spelled slashes) = "a.py".toList :=
  lastName_append _ (by decide)

theorem parent_spelled (slashes : Nat) :
    parent (spelled slashes) = 'y' :: List.replicate slashes '/' ++ '/' :: ['x'] :=
  parent_append_append _ (by decide) (by decide) (by decide) (by decide)

theorem byteCount_slashes (slashes : Nat) :
    byteCount ('y' :: List.replicate slashes '/') = slashes + 1 := by
  induction slashes with
  | zero => rfl
  | succ n ih =>
    rw [List.replicate_succ', ← List.cons_append, byteCount_append, ih]
    rfl

theorem byteCount_spelled (slashes : Nat) : byteCount (spelled slashes) = slashes + 8 := by
  unfold spelled
  rw [byteCount_append, byteCount_append, byteCount_slashes]
  rfl

theorem child_spelled (slashes : Nat) (name : Text) :
    child (parent (spelled slashes)) name =
      ('y' :: List.replicate slashes '/' ++ '/' :: ['x']) ++ '/' :: name := by
  have last : ('y' :: List.replicate slashes '/' ++ '/' :: ['x']).getLast? = some 'x' := by
    rw [List.append_cons, List.getLast?_concat]
  rw [parent_spelled, child, last, if_neg (by simp), List.append_assoc]
  rfl

theorem byteCount_packageFile_spelled (slashes : Nat) :
    byteCount (child (parent (spelled slashes)) packageFile) = slashes + 15 := by
  rw [child_spelled, byteCount_append, byteCount_append, byteCount_slashes]
  rfl

theorem isSome_readPattern?_spelled (slashes : Nat) :
    (readPattern? (spelled slashes)).isSome = true := by
  have each (names : List Text) (reads : ∀ name ∈ names, (NamePattern.read? name).isSome = true) :
      (names.mapM NamePattern.read?).isSome = true := by
    induction names with
    | nil => rfl
    | cons name rest ih =>
      have others := ih fun other member => reads other (List.mem_cons_of_mem name member)
      obtain ⟨pattern, read⟩ := Option.isSome_iff_exists.mp (reads name List.mem_cons_self)
      obtain ⟨patterns, readRest⟩ := Option.isSome_iff_exists.mp others
      rw [List.mapM_cons, read, readRest]
      rfl
  have named : patternPieces (spelled slashes) = (['.'], pieces (spelled slashes)) := by
    have last : (pieces (spelled slashes)).getLast? = some "a.py".toList := by
      rw [pieces_spelled, List.append_cons, ← List.cons_append, List.getLast?_concat]
    change (['.'], if (pieces (spelled slashes)).getLast? = some [] then _
      else pieces (spelled slashes)) = _
    rw [last, if_neg (by decide)]
  unfold readPattern?
  rw [named]
  simp only
  rw [Option.isSome_map]
  refine each _ fun name member => ?_
  rw [pieces_spelled, List.mem_cons, List.mem_append] at member
  rcases member with rfl | inSlashes | inRest
  · rfl
  · rw [List.eq_of_mem_replicate inSlashes]
    rfl
  · rcases List.mem_cons.mp inRest with rfl | inRest
    · rfl
    · rw [List.mem_singleton.mp inRest]
      rfl

theorem sortedOnce_pair {first second : Text} (alike : same first second = true) :
    sortedOnce [first, second] = [first] := by
  have ordered : [first, second].Pairwise fun path other => precedes path other = true := by
    rw [List.pairwise_pair, precedes_iff, same_iff.mp alike]
  unfold sortedOnce
  rw [List.mergeSort_of_pairwise ordered, dropRepeats, dropRepeats, dropRepeats]
  exact if_pos alike

/-- The disk with the output directory. -/
def spelledReady (package : Option Text) : Disk :=
  (spelledDisk package).put ["work".toList, "out".toList] .directory

/-- The warnings of a run on spellings of one file are those for the first of them. -/
theorem warnings_spelled {first second : Text} (alike : same first second = true)
    (listed : Looks (listInputs [first, second]) (World.start (spelledReady none))
      ([first, second], [])) :
    exampleRequest.warnings [first, second] (spelledDisk none) =
      ((referenceInputs exampleRun ⟨none, [], false⟩ [] [first] : InMemory Nat).run.run
        (World.start (spelledReady none))).2.warnings := by
  have planRan : (loadPlan none : InMemory (Option Plan)).run.run (World.start (spelledDisk none)) =
      (.ok none, World.start (spelledDisk none)) := rfl
  have formatRan : (needFormat "md".toList : InMemory OutputFormat).run.run
      (World.start (spelledDisk none)) = (.ok .markdown, World.start (spelledDisk none)) := rfl
  have outputRan : (makeOutput "out".toList : InMemory Unit).run.run
      (World.start (spelledDisk none)) = (.ok (), World.start (spelledReady none)) := by
    change (_ : Except Halt Unit × World) = _
    decide +kernel
  have expandRan : Looks (expandInputs [first, second]) (World.start (spelledReady none))
      ([first], []) := by
    rw [← sortedOnce_pair alike]
    exact listed.bind (looks_pure _ _)
  unfold Looks at expandRan
  unfold Request.warnings Command.run writeReferences exampleRequest
  simp only
  rw [run_bind, planRan]
  simp only
  rw [run_bind, formatRan]
  simp only
  rw [run_bind, outputRan]
  simp only
  rw [run_bind, expandRan]
  simp only
  change ((referenceInputs exampleRun ⟨none, [], false⟩ [] [first] >>= fun failures =>
    pure (0 + failures) : InMemory Nat).run.run (World.start (spelledReady none))).2.warnings = _
  rw [run_bind]
  rcases (referenceInputs exampleRun ⟨none, [], false⟩ [] [first] : InMemory Nat).run.run
    (World.start (spelledReady none)) with ⟨answer, after⟩
  cases answer <;> rfl

/-- The warning about the package file is spelled as the input that comes first. -/
theorem warnings_spelled_orders :
    exampleRequest.warnings [spelled 0, spelled 1] (spelledDisk none) =
        [packageWarning "y/x".toList .notText] ∧
      exampleRequest.warnings [spelled 1, spelled 0] (spelledDisk none) =
        [packageWarning "y//x".toList .notText] := by
  refine ⟨(warnings_spelled (by decide +kernel) ?_).trans ?_,
    (warnings_spelled (by decide +kernel) ?_).trans ?_⟩
  · change (_ : Except Halt (List Text × List Text) × World) = _
    decide +kernel
  · decide +kernel
  · change (_ : Except Halt (List Text × List Text) × World) = _
    decide +kernel
  · decide +kernel

section Spelled

variable {slashes : Nat}

theorem spellings_spelled (short : slashes ≤ 4087) :
    Spellings [spelled 0, spelled slashes] (spelled slashes) (spelled 0) where
  mem_first := by simp
  mem_second := by simp
  alike := same_spelled slashes
  moves := by
    rw [lastName_spelled]
    decide
  moves' := by decide
  short := by
    rw [byteCount_spelled, Disk.pathLimit]
    omega
  short' := by decide

theorem apart_spelled (short : slashes ≤ 4087) : Apart exampleRun [spelled slashes] := by
  have stem : fileStem (spelled slashes) = ['a'] := by
    rw [← fileStem_lastName, lastName_spelled]
    decide
  have tree : (spelledDisk (some [])).IsTree := by decide +kernel
  refine apart_of_files tree ?_ (List.nodup_singleton _) ?_ ?_
  · intro path single
    rw [List.mem_singleton.mp single,
      Disk.kind?_congr ((spellings_spelled short).find?_eq (Disk.SameTree.refl _))]
    decide +kernel
  · intro path single stemless
    rw [List.mem_singleton.mp single, stem] at stemless
    cases stemless
  · intro first single second single' _
    rw [List.mem_singleton.mp single, List.mem_singleton.mp single']

theorem isFile_spelled (short : slashes ≤ 4087) :
    (spelledDisk (some [])).kind? (spelled slashes) = some .file := by
  rw [Disk.kind?_congr ((spellings_spelled short).find?_eq (Disk.SameTree.refl _))]
  decide +kernel

theorem ready_spelled :
    exampleRequest.Ready (spelledDisk (some [])) exampleRun (spelledReady (some [])) :=
  ⟨rfl, by decide, rfl, by decide +kernel⟩

/-- Of two spellings of one file the first is documented. -/
theorem page_spelled (slashes other : Nat) (short : slashes ≤ 4087) (short' : other ≤ 4087) :
    (exampleRequest.references [spelled slashes, spelled other] (spelledDisk (some []))).2.find?
        (exampleRun.page (spelled slashes)) =
      (aloneOn exampleRun exampleRequest.options (spelledReady (some [])) (spelled slashes)).2 := by
  have alike : same (spelled slashes) (spelled other) = true := by
    rw [same_congr (same_spelled slashes), ← same_congr (same_spelled other)]
    exact same_refl _
  have files : ∀ path ∈ [spelled slashes, spelled other],
      (spelledDisk (some [])).kind? path = some .file := by
    intro path member
    rcases List.mem_cons.mp member with rfl | single
    · exact isFile_spelled short
    · rw [List.mem_singleton.mp single]
      exact isFile_spelled short'
  have sorted := sortedOnce_pair alike
  have documents := documents_references ready_spelled files (by rw [sorted]; exact apart_spelled short)
  rw [sorted] at documents
  exact (documents.leaves [] (spelled slashes) [] rfl).1 fun _ member => absurd member List.not_mem_nil

/-- The package file is not found beside a spelling that is too long for it. -/
theorem ownOptions_spelled (long : 4081 ≤ slashes) :
    ownOptions exampleRequest.options (spelledReady (some [])) (spelled slashes) =
      exampleRequest.options := by
  have missing : (spelledReady (some [])).kind? (child (parent (spelled slashes)) packageFile) =
      none := by
    have tooLong : Disk.pathLimit < byteCount (child (parent (spelled slashes)) packageFile) := by
      rw [byteCount_packageFile_spelled, Disk.pathLimit]
      omega
    unfold Disk.kind? Disk.find?
    rw [Disk.place?_child _ isProper_packageFile, if_pos tooLong]
    rfl
  unfold ownOptions Disk.packageOptions
  simp only
  rw [missing]
  rfl

end Spelled

/-- **The order of the inputs tells which spelling of a file is kept.** The warning about its package
file is spelled in the same way, and a spelling that is too long for the package file leads to another
page. -/
theorem order_chooses_spelling :
    (∀ input ∈ [spelled 0, spelled 1, spelled 4085], (readPattern? input).isSome = true) ∧
      exampleRequest.warnings [spelled 0, spelled 1] (spelledDisk none) =
        [packageWarning "y/x".toList .notText] ∧
      exampleRequest.warnings [spelled 1, spelled 0] (spelledDisk none) =
        [packageWarning "y//x".toList .notText] ∧
      packageWarning "y/x".toList .notText ≠ packageWarning "y//x".toList .notText ∧
      (exampleRequest.references [spelled 0, spelled 4085] (spelledDisk (some []))).2.find?
        "out/a.md".toList = some (.file (some "# A\n\n`from x.a import A`\n".toList)) ∧
      (exampleRequest.references [spelled 4085, spelled 0] (spelledDisk (some []))).2.find?
        "out/a.md".toList = some (.file (some "# A\n".toList)) := by
  have page : exampleRun.page (spelled 4085) = "out/a.md".toList := by
    rw [(exampleRun.page_eq_iff _ (spelled 0)).mpr (spellings_spelled (by decide)).stems]
    decide +kernel
  obtain ⟨warnings, warnings'⟩ := warnings_spelled_orders
  refine ⟨?_, warnings, warnings', by decide +kernel, ?_, ?_⟩
  · intro input member
    rcases List.mem_cons.mp member with rfl | member
    · exact isSome_readPattern?_spelled 0
    · rcases List.mem_cons.mp member with rfl | member
      · exact isSome_readPattern?_spelled 1
      · rw [List.mem_singleton.mp member]
        exact isSome_readPattern?_spelled 4085
  · have kept := page_spelled 0 4085 (by decide) (by decide)
    refine Eq.trans ?_ (kept.trans ?_)
    · rfl
    · decide +kernel
  · have kept := page_spelled 4085 0 (by decide) (by decide)
    rw [page] at kept
    rw [kept, aloneOn]
    simp only
    rw [ownOptions_spelled (by decide), document_spelled _ _ _ (spellings_spelled (by decide)), page]
    decide +kernel

end ReferencePages
