/-
**What inputs stand for.**

Inputs are expanded to files before any of them is documented. Files, directories and patterns are
only looked up for it, and the files come out in the order of their paths, each of them once:

* `key`, `precedes_iff`: paths are ordered by their components, as a linear order;
* `dropRepeats_cons`: what one step keeps when repeats are dropped;
* `pairwise_sortedOnce`: **of the spellings of one path, one is left, and the paths are in order**;
* `IsFirst`, `mem_sortedOnce_iff`: **the one that is left is the one that comes first**;
* `Reads`: an action that leaves the disk as it is and answers by the disk alone;
* `reads_matching`: a pattern is matched by reading, by induction on the names of the pattern;
* `reads_expandInputs`: **inputs are expanded by reading**.
-/

import Mathlib.Data.List.Lex
import Mathlib.Order.Lattice
import ReferencePages.Proofs.Command.OnDisk

namespace ReferencePages

/-! ### The order of paths -/

/-- Lists are compared by a key of their elements. -/
theorem lex_iff_map_lt {α β : Type} [DecidableEq α] [LinearOrder β] {before : α → α → Bool}
    {key : α → β} (ordered : ∀ a b, before a b = true ↔ key a < key b)
    (faithful : Function.Injective key) (first second : List α) :
    List.lex first second before = true ↔ first.map key < second.map key := by
  induction first generalizing second with
  | nil => cases second <;> simp [List.lex]
  | cons a first ih =>
    cases second with
    | nil => simp [List.lex]
    | cons b second =>
      rw [List.map_cons, List.map_cons, List.cons_lt_cons_iff, ← ih, ← ordered, faithful.eq_iff]
      simp [List.lex]

namespace Path

/-- The place of a component in the order: names come last, by their code points. -/
def Component.key : Component → List ℕ
  | .name text => 3 :: text.map Char.toNat
  | other => [other.rank]

theorem toNat_injective : Function.Injective Char.toNat := fun _ _ => Char.toNat_inj.mp

theorem Component.key_injective : Function.Injective Component.key := by
  intro first second alike
  cases first <;> cases second <;> simp [key, rank] at alike ⊢
  exact List.map_injective_iff.mpr toNat_injective alike

theorem Component.comesBefore_iff (first second : Component) :
    first.comesBefore second = true ↔ first.key < second.key := by
  cases first with
  | name text =>
    cases second with
    | name other =>
      rw [comesBefore, Text.comesBefore, lex_iff_map_lt (by simp) toNat_injective, key, key,
        List.cons_lt_cons_iff]
      simp
    | _ => simp [comesBefore, key, rank, List.cons_lt_cons_iff]
  | _ => cases second <;> simp [comesBefore, key, rank, List.cons_lt_cons_iff]

/-- The place of a path in the order. -/
def key (path : Text) : List (List ℕ) := (components path).map Component.key

theorem same_iff {first second : Text} : same first second = true ↔ key first = key second := by
  rw [same, decide_eq_true_iff, key, key,
    (List.map_injective_iff.mpr Component.key_injective).eq_iff]

theorem same_comm (first second : Text) : same first second = same second first := by
  rw [Bool.eq_iff_iff, same_iff, same_iff, eq_comm]

theorem precedes_iff {first second : Text} :
    precedes first second = true ↔ key first ≤ key second := by
  rw [precedes, Bool.not_eq_true', ← Bool.not_eq_true,
    lex_iff_map_lt Component.comesBefore_iff Component.key_injective, not_lt]
  rfl

theorem precedes_trans (first second third : Text) (before : precedes first second = true)
    (after : precedes second third = true) : precedes first third = true :=
  precedes_iff.mpr ((precedes_iff.mp before).trans (precedes_iff.mp after))

theorem precedes_total (first second : Text) :
    (precedes first second || precedes second first) = true := by
  rw [Bool.or_eq_true, precedes_iff, precedes_iff]
  exact le_total _ _

/-! ### Repeats -/

/-- The first path stays. What is kept of the others follows it, without the one in front when that
is another spelling of the first. -/
theorem dropRepeats_cons (first : Text) (rest : List Text) :
    ∃ later, dropRepeats (first :: rest) = first :: later ∧
      ((∀ second ∈ later.head?, same first second = false) ∧ dropRepeats rest = later ∨
        ∃ second, same first second = true ∧ dropRepeats rest = second :: later) := by
  rw [dropRepeats]
  split
  · rename_i none
    exact ⟨[], rfl, .inl ⟨fun second isHead => absurd isHead (Option.not_mem_none second), none⟩⟩
  · rename_i second others kept
    split
    · rename_i alike
      exact ⟨others, rfl, .inr ⟨second, alike, kept⟩⟩
    · rename_i differ
      refine ⟨second :: others, rfl, .inl ⟨fun other isSecond => ?_, kept⟩⟩
      rw [← Option.some.inj isSecond]
      exact Bool.eq_false_iff.mpr differ

theorem dropRepeats_subset (paths : List Text) : dropRepeats paths ⊆ paths := by
  induction paths with
  | nil => exact List.nil_subset _
  | cons first rest ih =>
    obtain ⟨later, dropped, kept⟩ := dropRepeats_cons first rest
    rw [dropped]
    rcases kept with ⟨-, kept⟩ | ⟨second, -, kept⟩
    · rw [kept] at ih
      exact List.cons_subset_cons _ ih
    · rw [kept] at ih
      exact List.cons_subset_cons _ (List.subset_of_cons_subset ih)

theorem dropRepeats_increasing {paths : List Text}
    (sorted : paths.Pairwise fun first second => key first ≤ key second) :
    (dropRepeats paths).Pairwise fun first second => key first < key second := by
  induction paths with
  | nil => exact List.Pairwise.nil
  | cons first rest ih =>
    obtain ⟨least, sortedRest⟩ := List.pairwise_cons.mp sorted
    have increasing := ih sortedRest
    have inRest := dropRepeats_subset rest
    obtain ⟨later, dropped, kept⟩ := dropRepeats_cons first rest
    rw [dropped]
    rcases kept with ⟨apart, kept⟩ | ⟨second, -, kept⟩
    · rw [kept] at increasing inRest
      refine List.pairwise_cons.mpr ⟨fun path member => ?_, increasing⟩
      cases later with
      | nil => cases member
      | cons second others =>
        have first_lt : key first < key second :=
          (least second (inRest List.mem_cons_self)).lt_of_ne fun alike =>
            Bool.eq_false_iff.mp (apart second rfl) (same_iff.mpr alike)
        rcases List.mem_cons.mp member with rfl | further
        · exact first_lt
        · exact first_lt.trans ((List.pairwise_cons.mp increasing).1 path further)
    · rw [kept] at increasing inRest
      obtain ⟨above, increasingLater⟩ := List.pairwise_cons.mp increasing
      refine List.pairwise_cons.mpr ⟨fun path member => ?_, increasingLater⟩
      exact (least second (inRest List.mem_cons_self)).trans_lt (above path member)

/-- The first spelling of a path stays when repeats are dropped. -/
theorem find?_dropRepeats (paths : List Text) (path : Text) :
    (dropRepeats paths).find? (same path) = paths.find? (same path) := by
  induction paths with
  | nil => rfl
  | cons first rest ih =>
    obtain ⟨later, dropped, kept⟩ := dropRepeats_cons first rest
    rw [dropped]
    by_cases here : same path first = true
    · rw [List.find?_cons_of_pos here, List.find?_cons_of_pos here]
    · rw [List.find?_cons_of_neg here, List.find?_cons_of_neg here, ← ih]
      rcases kept with ⟨-, kept⟩ | ⟨second, alike, kept⟩
      · rw [kept]
      · have elsewhere : ¬ same path second = true := by
          rwa [same_iff, ← same_iff.mp alike, ← same_iff]
        rw [kept, List.find?_cons_of_neg elsewhere]

/-! ### Paths in order, each once -/

/-- **Of the spellings of one path one is left, and the paths are in order.** -/
theorem pairwise_sortedOnce (paths : List Text) :
    (sortedOnce paths).Pairwise fun first second =>
      precedes first second = true ∧ same first second = false := by
  have sorted : (paths.mergeSort precedes).Pairwise fun first second => key first ≤ key second :=
    (List.pairwise_mergeSort precedes_trans precedes_total paths).imp precedes_iff.mp
  refine (dropRepeats_increasing sorted).imp fun {first second} increasing => ?_
  rw [precedes_iff, Bool.eq_false_iff, ne_eq, same_iff]
  exact ⟨increasing.le, increasing.ne⟩

/-- The spellings of a path keep their order when paths are put in order. -/
theorem filter_mergeSort (paths : List Text) (path : Text) :
    (paths.mergeSort precedes).filter (same path) = paths.filter (same path) := by
  have alike : (paths.filter (same path)).Pairwise fun first second =>
      precedes first second = true := by
    refine List.pairwise_of_forall_mem_list fun first member second member' => ?_
    have isPath := same_iff.mp (List.mem_filter.mp member).2
    have isPath' := same_iff.mp (List.mem_filter.mp member').2
    exact precedes_iff.mpr (isPath.symm.trans isPath').le
  have stays : (paths.filter (same path)).Sublist (paths.mergeSort precedes) :=
    List.sublist_mergeSort precedes_trans precedes_total alike List.filter_sublist
  have among := stays.filter (same path)
  rw [List.filter_filter] at among
  simp only [Bool.and_self] at among
  exact (among.eq_of_length ((List.mergeSort_perm paths precedes).filter _).length_eq.symm).symm

theorem find?_sortedOnce (paths : List Text) (path : Text) :
    (sortedOnce paths).find? (same path) = paths.find? (same path) := by
  unfold sortedOnce
  rw [find?_dropRepeats, ← List.head?_filter, filter_mergeSort, List.head?_filter]

/-- Among the paths no other spelling of this one comes before it. -/
def IsFirst (paths : List Text) (path : Text) : Prop := paths.find? (same path) = some path

theorem IsFirst.mem {paths : List Text} {path : Text} (isFirst : IsFirst paths path) :
    path ∈ paths := List.mem_of_find?_eq_some isFirst

/-- **Of several spellings of a path the first one stays**, and nothing else does. -/
theorem mem_sortedOnce_iff {paths : List Text} {path : Text} :
    path ∈ sortedOnce paths ↔ IsFirst paths path := by
  unfold IsFirst
  rw [← find?_sortedOnce]
  constructor
  · intro member
    obtain ⟨before, after, split_eq⟩ := List.append_of_mem member
    have distinct := pairwise_sortedOnce paths
    rw [split_eq] at distinct
    refine List.find?_eq_some_iff_append.mpr
      ⟨same_iff.mpr rfl, before, after, split_eq, fun other earlier => ?_⟩
    have differ := ((List.pairwise_append.mp distinct).2.2 other earlier path List.mem_cons_self).2
    rw [Bool.not_eq_true', same_comm]
    exact differ
  · exact List.mem_of_find?_eq_some

end Path

/-! ### Actions that read -/

/-- The action leaves the disk as it is, and its answer depends on the disk alone. -/
def Reads {α : Type} (action : InMemory α) : Prop :=
  ∃ answer : Disk → Except Halt α, ∀ world, onDisk action world = (answer world.disk, world.disk)

section Reading

variable {α β : Type} {action : InMemory α}

/-- An action that reads gives the same answer wherever the disk is the same. -/
theorem Reads.onDisk_eq (reads : Reads action) {world : World} {disk : Disk}
    (same : world.disk = disk) :
    onDisk action world = ((onDisk action (World.start disk)).1, disk) := by
  obtain ⟨answer, answers⟩ := reads
  rw [answers, answers, same]
  rfl

theorem reads_pure (a : α) : Reads (pure a) := ⟨fun _ => .ok a, onDisk_pure a⟩

theorem reads_throw (halt : Halt) : Reads (throw halt : InMemory α) :=
  ⟨fun _ => .error halt, onDisk_throw halt⟩

theorem Reads.bind (first : Reads action) {next : α → InMemory β} (later : ∀ a, Reads (next a)) :
    Reads (action >>= next) := by
  obtain ⟨answer, answers⟩ := first
  choose answer' answers' using later
  refine ⟨fun disk => (answer disk).bind fun a => answer' a disk, fun world => ?_⟩
  have ran := answers world
  cases answered : answer world.disk with
  | error halt =>
    rw [answered] at ran
    simp only [answered]
    exact onDisk_bind_error ran
  | ok a =>
    rw [answered] at ran
    simp only [answered]
    refine onDisk_bind_ok ran fun after same => ?_
    rw [answers', same]
    rfl

theorem reads_kind? (path : Text) : Reads (Host.kind? path) :=
  ⟨fun disk => .ok (disk.kind? path), onDisk_kind? path⟩

theorem reads_names? (path : Text) : Reads (Host.names? path) :=
  ⟨fun disk => .ok (disk.names? path), fun _ => rfl⟩

theorem reads_isDirectory (path : Text) : Reads (isDirectory path) :=
  (reads_kind? path).bind fun _ => reads_pure _

theorem reads_isFile (path : Text) : Reads (isFile path) :=
  (reads_kind? path).bind fun _ => reads_pure _

theorem reads_exists (path : Text) : Reads (Option.isSome <$> Host.kind? path) :=
  (reads_kind? path).bind fun _ => reads_pure _

theorem reads_gather {f : α → InMemory (List β)} (each : ∀ a, Reads (f a)) (parts : List α) :
    Reads (gather f parts) := by
  induction parts with
  | nil => exact reads_pure []
  | cons part rest ih =>
    exact (each part).bind fun _ => ih.bind fun _ => reads_pure _

end Reading

/-! ### Patterns -/

theorem reads_namesIn (directory : Text) : Reads (namesIn directory) := by
  refine (reads_isDirectory directory).bind fun there => ?_
  cases there with
  | false => exact reads_pure []
  | true => exact (reads_names? directory).bind fun _ => reads_pure _

theorem reads_descend {visit : Text → Text → InMemory (List Text)}
    (each : ∀ path name, Reads (visit path name)) (bound : Nat) (directory : Text) :
    Reads (descend visit bound directory) := by
  induction bound generalizing directory with
  | zero => exact reads_pure []
  | succ bound ih =>
    refine (reads_namesIn directory).bind fun names => reads_gather (fun name => ?_) names
    exact (each _ _).bind fun _ => (ih _).bind fun _ => reads_pure _

/-- A pattern is matched by reading. -/
theorem reads_matching (names : List NamePattern) (directory : Text) :
    Reads (matching names directory) := by
  induction names, directory using matching.induct (m := InMemory) with
  | case1 directory => exact reads_pure [directory]
  | case2 names directory ih =>
    rw [matching]
    exact ih
  | case3 directory =>
    rw [matching]
    refine reads_descend (fun path name => ?_) _ _
    refine (reads_isDirectory path).bind fun there => ?_
    cases there <;> exact reads_pure _
  | case4 tokens names directory ih =>
    rw [matching]
    refine reads_descend (fun path name => ?_) _ _
    split
    · exact ih path
    · exact reads_pure []
  | case5 tokens names directory name isLiteral path special isSpecial ih =>
    rw [matching, isLiteral]
    simp only
    rw [if_pos isSpecial]
    refine (reads_isDirectory directory).bind fun there => ?_
    cases there
    · exact reads_pure []
    · exact ih
  | case6 tokens names directory name isLiteral path special notSpecial ih =>
    rw [matching, isLiteral]
    simp only
    rw [if_neg notSpecial]
    refine (reads_exists path).bind fun there => ?_
    cases there
    · exact reads_pure []
    · exact ih
  | case7 tokens names directory wildcards ih dotted =>
    rw [matching, wildcards]
    refine (reads_isDirectory directory).bind fun there => ?_
    cases there
    · exact reads_pure []
    · refine (reads_namesIn directory).bind fun found => ?_
      refine (reads_gather ih _).bind fun fitting => ?_
      exact (reads_gather dotted _).bind fun special => reads_pure _

theorem reads_filesAmong (paths : List Text) : Reads (filesAmong paths) := by
  induction paths with
  | nil => exact reads_pure []
  | cons path rest ih =>
    refine ih.bind fun files => (reads_isFile path).bind fun isFile => ?_
    cases isFile <;> exact reads_pure _

theorem reads_patternFiles (pattern : Text) : Reads (patternFiles pattern) := by
  unfold patternFiles
  split
  · exact reads_throw _
  · split
    · exact reads_pure []
    · exact (reads_matching _ _).bind reads_filesAmong

/-! ### Inputs -/

theorem reads_directorySources (directory : Text) : Reads (directorySources directory) := by
  refine (reads_names? directory).bind fun names => ?_
  cases names with
  | none => exact reads_throw _
  | some names => exact reads_filesAmong _

theorem reads_inputFiles (input : Text) : Reads (inputFiles input) := by
  refine (reads_kind? input).bind fun kind => ?_
  split
  · exact reads_pure _
  · exact (reads_directorySources input).bind fun _ => reads_pure _
  · exact (reads_patternFiles input).bind fun _ => reads_pure _

theorem reads_listInputs (inputs : List Text) : Reads (listInputs inputs) := by
  induction inputs with
  | nil => exact reads_pure _
  | cons input rest ih =>
    exact (reads_inputFiles input).bind fun _ => ih.bind fun _ => reads_pure _

/-- **Inputs are expanded by reading.** -/
theorem reads_expandInputs (inputs : List Text) : Reads (expandInputs inputs) :=
  (reads_listInputs inputs).bind fun _ => reads_pure _

end ReferencePages
