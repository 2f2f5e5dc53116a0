/-
**A file under two spellings.**

The path of a file can be spelled in several ways, and a run may come to the file by any of them. Two
spellings lead to one entry, and what is read for one is read for the other:

* `SpellingsAgree`, `OneSpelling`: what is asked of the spellings of a run;
* `Leads`, `Leads.eq`: **one file tells the spelling of its directory**;
* `SpelledAlike`: warnings that differ at most in the spelling of a directory;
* `Spellings.find?_eq`: **two spellings of a file lead to the same entry on disks with the same tree**;
* `run_readSource`, `run_referenceText`, `run_packageOptions`: what looking at a file leaves behind;
* `referenceText_spelled`, `packageOptions_spelled`, `packageWarnings_spelled`: what is written for a
  file, the options of its directory and the warnings about it, under two spellings.
-/

import ReferencePages.Proofs.Command.Pages
import ReferencePages.Proofs.Command.SideBySide
import ReferencePages.Proofs.Disk.Spellings

namespace ReferencePages

open Text ReferencePages.Path

/-! ### Spellings -/

/-- The spellings of a file's path agree on whether the path of the package file beside it is too
long. -/
def SpellingsAgree (files : List Text) : Prop :=
  ∀ first ∈ files, ∀ second ∈ files, same first second = true →
    (Disk.pathLimit < byteCount (child (parent first) packageFile) ↔
      Disk.pathLimit < byteCount (child (parent second) packageFile))

instance (files : List Text) : Decidable (SpellingsAgree files) :=
  inferInstanceAs (Decidable (∀ first ∈ files, ∀ second ∈ files, _ → (_ ↔ _)))

/-- Every path is spelled in one way. -/
def OneSpelling (files : List Text) : Prop :=
  ∀ first ∈ files, ∀ second ∈ files, same first second = true → first = second

/-- The warning about a package file that cannot be read, with the path of its directory. -/
def packageWarning (directory : Text) (error : ReadError) : Text :=
  let file := child directory packageFile
  tame ("ignoring ".toList ++ file ++ [':', ' '] ++ (InputError.unreadable file error).message)

/-- No file of its directory comes before this one in order, and of its spellings among the files it
is the first. -/
structure Leads (files : List Text) (path : Text) : Prop where
  isFirst : IsFirst files path
  least : ∀ other ∈ sortedOnce files, same (parent path) (parent other) = true →
    precedes path other = true

/-- The warnings are the same and about a page, or they are about one package file. Its directory is
then spelled as in the path of the file that leads it: in one warning among the files of one run, in
the other among those of the other run. -/
def SpelledAlike (files files' : List Text) (warning warning' : Text) : Prop :=
  (∃ reported : Warning, warning = tame reported.message ∧ warning' = warning) ∨
    ∃ first ∈ files, ∃ second ∈ files, same first second = true ∧ Leads files first ∧
      Leads files' second ∧ ∃ error, warning = packageWarning (parent first) error ∧
        warning' = packageWarning (parent second) error

theorem spelledAlike_message (files files' : List Text) (reported : Warning) :
    SpelledAlike files files' (tame reported.message) (tame reported.message) :=
  .inl ⟨reported, rfl, rfl⟩

theorem OneSpelling.agree {files : List Text} (one : OneSpelling files) : SpellingsAgree files := by
  intro first member second member' alike
  rw [one first member second member' alike]

theorem OneSpelling.eq_of_spelledAlike {files files' : List Text} (one : OneSpelling files)
    {warning warning' : Text} (alike : SpelledAlike files files' warning warning') :
    warning = warning' := by
  rcases alike with ⟨_, -, same⟩ | ⟨first, member, second, member', same, -, -, error, rfl, rfl⟩
  · exact same.symm
  · rw [one first member second member' same]

/-- Two spellings of a file's path among some files. -/
structure Spellings (files : List Text) (first second : Text) : Prop where
  mem_first : first ∈ files
  mem_second : second ∈ files
  alike : same first second = true
  moves : isIdle (lastName first) = false
  moves' : isIdle (lastName second) = false
  short : byteCount first ≤ Disk.pathLimit
  short' : byteCount second ≤ Disk.pathLimit

section Spellings

variable {files : List Text} {one two : Disk} {path path' : Text}

/-- One file leads a directory. -/
theorem Leads.eq {first second : Text} (leads : Leads files first) (leads' : Leads files second)
    (alike : same (parent first) (parent second) = true) : first = second := by
  have before := leads.least second (mem_sortedOnce_iff.mpr leads'.isFirst) alike
  rw [same_comm] at alike
  have after := leads'.least first (mem_sortedOnce_iff.mpr leads.isFirst) alike
  have isSame : same first second = true :=
    same_iff.mpr (le_antisymm (precedes_iff.mp before) (precedes_iff.mp after))
  have found : files.find? (same first) = files.find? (same second) := by
    rw [funext (same_congr isSame)]
  exact Option.some.inj (leads.isFirst.symm.trans (found.trans leads'.isFirst))

/-- A file leads its directory when no file before it in order is in the same directory. -/
theorem leads_of_split {earlier rest : List Text} (split_eq : sortedOnce files = earlier ++ path :: rest)
    (unmet : ∀ other ∈ earlier, same (parent path) (parent other) = false) : Leads files path := by
  have ordered := pairwise_sortedOnce files
  rw [split_eq] at ordered
  obtain ⟨after, -⟩ := List.pairwise_cons.mp (List.pairwise_append.mp ordered).2.1
  refine ⟨mem_sortedOnce_iff.mp ?_, fun other member alike => ?_⟩
  · rw [split_eq]
    exact List.mem_append_right _ List.mem_cons_self
  · rw [split_eq, List.mem_append, List.mem_cons] at member
    rcases member with inEarlier | rfl | inRest
    · rw [unmet other inEarlier] at alike
      cases alike
    · exact precedes_iff.mpr le_rfl
    · exact (after other inRest).1

theorem spellings_of_files (there : ∀ path ∈ files, one.kind? path = some .file) (member : path ∈ files)
    (member' : path' ∈ files) (alike : same path path' = true) : Spellings files path path' := by
  obtain ⟨content, found⟩ := Disk.kind?_eq_file_iff.mp (there path member)
  obtain ⟨content', found'⟩ := Disk.kind?_eq_file_iff.mp (there path' member')
  exact ⟨member, member', alike, Disk.moves_of_file found, Disk.moves_of_file found',
    Disk.short_of_find? found, Disk.short_of_find? found'⟩

theorem Spellings.parents (spellings : Spellings files path path') :
    same (parent path) (parent path') = true :=
  same_parent spellings.moves spellings.moves' spellings.alike

theorem Spellings.stems (spellings : Spellings files path path') : fileStem path = fileStem path' :=
  fileStem_of_same spellings.moves spellings.moves' spellings.alike

/-- Both spellings lead to the same entry, on disks with the same tree. -/
theorem Spellings.find?_eq (spellings : Spellings files path path') (tree : Disk.SameTree one two) :
    one.find? path = two.find? path' := by
  have limits : Disk.pathLimit < byteCount path ↔ Disk.pathLimit < byteCount path' :=
    iff_of_false (Nat.not_lt.mpr spellings.short) (Nat.not_lt.mpr spellings.short')
  rw [tree.find?]
  unfold Disk.find?
  rw [Disk.place?_of_same spellings.moves spellings.moves' spellings.alike limits]

end Spellings

/-! ### What is read -/

theorem run_readSource (path : Text) (world : World) :
    (readSource path : InMemory (Except InputError Source)).run.run world =
      (.ok (world.disk.source path), world) := by
  have looks : (Host.kind? path : InMemory (Option FileKind)).run.run world =
      (.ok (world.disk.kind? path), world) := rfl
  have reads : (Host.read path : InMemory (Except ReadError Text)).run.run world =
      (.ok (world.disk.read path), world) := rfl
  unfold readSource Disk.source
  rw [run_bind, looks]
  cases world.disk.kind? path with
  | none => rfl
  | some kind =>
    simp only
    rw [run_bind, reads]
    cases world.disk.read path <;> rfl

theorem run_referenceText (run : ReferenceRun) (options : DocOptions) (path : Text) (world : World) :
    (referenceText run options path : InMemory _).run.run world =
      (world.disk.referenceText run options path, world) := by
  unfold referenceText Disk.referenceText
  rw [run_bind, run_readSource]
  cases world.disk.source path with
  | error error => rfl
  | ok source =>
    simp only
    rcases source.assemble options.strict with (error | -) | (- | ⟨first, rest⟩) <;> rfl

/-- The warnings about the package file in a directory: one when it cannot be read. -/
def Disk.packageWarnings (disk : Disk) (directory : Text) : List Text :=
  if disk.kind? (child directory packageFile) = some .file then
    match disk.read (child directory packageFile) with
    | .ok _ => []
    | .error error => [packageWarning directory error]
  else []

/-- The options of a directory are looked for; a package file that cannot be read is reported. -/
theorem run_packageOptions (options : DocOptions) (directory : Text) (world : World) :
    ∃ after, (packageOptions options directory : InMemory DocOptions).run.run world =
        (.ok (world.disk.packageOptions options directory), after) ∧
      after.disk = world.disk ∧
      after.warnings = world.warnings ++ world.disk.packageWarnings directory := by
  have looks : (isFile (child directory packageFile) : InMemory Bool).run.run world =
      (.ok (decide (world.disk.kind? (child directory packageFile) = some .file)), world) := rfl
  unfold packageOptions Disk.packageOptions Disk.packageWarnings
  simp only
  rw [run_bind, looks]
  by_cases there : world.disk.kind? (child directory packageFile) = some .file
  · have source_eq : world.disk.source (child directory packageFile) =
        match world.disk.read (child directory packageFile) with
        | .ok text => .ok (Source.ofText (child directory packageFile) text)
        | .error error => .error (.unreadable (child directory packageFile) error) := by
      unfold Disk.source
      cases world.disk.read (child directory packageFile) <;> simp only [there]
    have named : (Host.directoryName? directory : InMemory (Option Text)).run.run world =
        (.ok (world.disk.directoryName? directory), world) := rfl
    have given (name : Option Text) : (pure name : InMemory (Option Text)).run.run world =
        (.ok name, world) := rfl
    simp only [there, decide_true, if_true]
    -- whether the package is given or named by the directory, the rest is the same
    cases options.package
    all_goals
      simp only
      rw [run_bind]
      first | rw [named] | rw [given]
      simp only
      rw [run_bind, run_readSource, source_eq]
      cases world.disk.read (child directory packageFile) with
      | ok text =>
        refine ⟨_, rfl, rfl, ?_⟩
        rw [List.append_nil]
        exact warnings_quiet (by decide) world _
      | error error => exact ⟨_, rfl, rfl, warnings_warn world _⟩
  · simp only [there, decide_false, Bool.false_eq_true, if_false]
    exact ⟨world, rfl, rfl, (List.append_nil _).symm⟩

section Disks

variable {files files' : List Text} {one two : Disk} {path path' : Text}

theorem referenceText_spelled (run : ReferenceRun) (options : DocOptions)
    (spellings : Spellings files path path') (tree : Disk.SameTree one two) :
    AnswersAlike (fun answer answer' => answer.toOption = answer'.toOption)
      (one.referenceText run options path) (two.referenceText run options path') := by
  have found := spellings.find?_eq tree
  unfold Disk.referenceText Disk.source
  rw [Disk.kind?_congr found, Disk.read_congr found]
  cases two.kind? path' with
  | none => exact .ok rfl
  | some kind =>
    cases two.read path' with
    | error error => exact .ok rfl
    | ok text =>
      have assembled : (Source.ofText path text).assemble options.strict =
          (Source.ofText path' text).assemble options.strict :=
        (Source.ofText path' text).assemble_renamed path options.strict
      simp only
      rw [assembled]
      rcases (Source.ofText path' text).assemble options.strict with (error | -) | (- | ⟨first, rest⟩)
      · exact .ok rfl
      · exact .error _
      · exact .ok rfl
      · refine .ok ?_
        have imported : options.importPath (Source.ofText path text) (first :: rest) =
            options.importPath (Source.ofText path' text) (first :: rest) := by
          unfold DocOptions.importPath Source.ofText
          rw [spellings.stems]
        rw [imported]

theorem packageOptions_spelled (options : DocOptions) (agree : SpellingsAgree files)
    (spellings : Spellings files path path') (tree : Disk.SameTree one two) :
    one.packageOptions options (parent path) = two.packageOptions options (parent path') := by
  have limits := agree path spellings.mem_first path' spellings.mem_second spellings.alike
  rw [Disk.packageOptions_of_same options spellings.parents limits]
  exact Disk.packageOptions_congr options (tree.find? _) fun _ => tree.directoryName? _

theorem packageWarnings_spelled (agree : SpellingsAgree files)
    (spellings : Spellings files path path') (leads : Leads files path) (leads' : Leads files' path')
    (tree : Disk.SameTree one two) :
    List.Forall₂ (SpelledAlike files files') (one.packageWarnings (parent path))
      (two.packageWarnings (parent path')) := by
  have limits := agree path spellings.mem_first path' spellings.mem_second spellings.alike
  have found : one.find? (child (parent path) packageFile) =
      two.find? (child (parent path') packageFile) := by
    rw [tree.find?]
    unfold Disk.find?
    rw [Disk.place?_child_of_same spellings.parents isProper_packageFile limits]
  unfold Disk.packageWarnings
  rw [Disk.kind?_congr found, Disk.read_congr found]
  split
  · cases two.read (child (parent path') packageFile) with
    | ok text => exact .nil
    | error error =>
      exact .cons (.inr ⟨path, spellings.mem_first, path', spellings.mem_second, spellings.alike, leads,
        leads', error, rfl, rfl⟩) .nil
  · exact .nil

end Disks

/-- An input is documented alike under two spellings, with the same options. -/
theorem document_spelled {files : List Text} {path path' : Text} (disk : Disk) (run : ReferenceRun)
    (options : DocOptions) (spellings : Spellings files path path') :
    disk.document run options path = disk.document run options path' := by
  have texts := referenceText_spelled run options spellings (Disk.SameTree.refl disk)
  have page_eq : run.page path = run.page path' := (run.page_eq_iff path path').mpr spellings.stems
  unfold Disk.document
  rw [page_eq]
  generalize disk.referenceText run options path = answer at texts ⊢
  generalize disk.referenceText run options path' = answer' at texts ⊢
  cases texts with
  | error halt => rfl
  | @ok answer answer' same =>
    rcases answer with error | shown <;> rcases answer' with error' | shown' <;> cases same <;> rfl

end ReferencePages
