/-
**The files of reordered inputs.**

Inputs are looked up before any of them is documented. Which files they stand for depends on the tree
of the disk and on the inputs, not on the order of either:

* `Looks`, `LooksAlike`: actions that leave everything as it was, and what two of them find in two
  worlds;
* `looksAlike_gather`: what is gathered from the same things, in any order, has the same members;
* `looksAlike_matching`: a pattern fits the same paths on disks with the same tree, by induction on
  its names;
* `Reordered`: the same inputs in another order, files among them given any number of times;
* `looksAlike_listInputs`: **reordered inputs stand for the same files and miss the same inputs**;
* `sortedOnce_of_sameMembers`: the same files, put in order, are the same paths one by one.
-/

import Mathlib.Data.List.Forall2
import Mathlib.Data.List.Sort
import ReferencePages.Proofs.Command.Documents
import ReferencePages.Proofs.Command.Expansion
import ReferencePages.Proofs.Disk.SameTree

namespace ReferencePages

open Text

/-! ### Members -/

section Members

variable {α β : Type} {first second third fourth : List α}

theorem SameMembers.refl (list : List α) : SameMembers list list := fun _ => Iff.rfl

theorem SameMembers.append (start : SameMembers first second) (rest : SameMembers third fourth) :
    SameMembers (first ++ third) (second ++ fourth) := by
  intro a
  rw [List.mem_append, List.mem_append, start a, rest a]

theorem SameMembers.filter (same : SameMembers first second) (p : α → Bool) :
    SameMembers (first.filter p) (second.filter p) := by
  intro a
  rw [List.mem_filter, List.mem_filter, same a]

theorem SameMembers.map (same : SameMembers first second) (f : α → β) :
    SameMembers (first.map f) (second.map f) := by
  intro b
  rw [List.mem_map, List.mem_map]
  exact exists_congr fun a => and_congr_left fun _ => same a

theorem SameMembers.flatMap (same : SameMembers first second) {f g : α → List β}
    (each : ∀ a ∈ first, SameMembers (f a) (g a)) :
    SameMembers (first.flatMap f) (second.flatMap g) := by
  intro b
  rw [List.mem_flatMap, List.mem_flatMap]
  refine exists_congr fun a => ?_
  rw [← same a]
  exact and_congr_right fun member => each a member b

theorem SameMembers.isEmpty_eq (same : SameMembers first second) : first.isEmpty = second.isEmpty := by
  rw [Bool.eq_iff_iff, List.isEmpty_iff, List.isEmpty_iff, List.eq_nil_iff_forall_not_mem,
    List.eq_nil_iff_forall_not_mem]
  exact forall_congr' fun a => not_congr (same a)

end Members

/-! ### Looking -/

/-- The action finds `a` and leaves everything as it was. -/
def Looks {α : Type} (action : InMemory α) (world : World) (a : α) : Prop :=
  action.run.run world = (.ok a, world)

/-- What one action finds in one world is related to what the other finds in the other. -/
def LooksAlike {α β : Type} (R : α → β → Prop) (one two : World) (action : InMemory α)
    (other : InMemory β) : Prop :=
  ∃ a b, Looks action one a ∧ Looks other two b ∧ R a b

section Looking

variable {α β γ δ : Type} {one two : World}

theorem looks_pure (a : α) (world : World) : Looks (pure a) world a := rfl

theorem Looks.bind {action : InMemory α} {next : α → InMemory β} {world : World} {a : α} {b : β}
    (first : Looks action world a) (later : Looks (next a) world b) :
    Looks (action >>= next) world b := by
  unfold Looks at first later ⊢
  rw [run_bind, first]
  exact later

theorem looksAlike_pure {R : α → β → Prop} {a : α} {b : β} (related : R a b) :
    LooksAlike R one two (pure a) (pure b) :=
  ⟨a, b, looks_pure a one, looks_pure b two, related⟩

theorem LooksAlike.bind {R : α → β → Prop} {S : γ → δ → Prop} {action : InMemory α}
    {other : InMemory β} {next : α → InMemory γ} {next' : β → InMemory δ}
    (first : LooksAlike R one two action other)
    (later : ∀ a b, R a b → LooksAlike S one two (next a) (next' b)) :
    LooksAlike S one two (action >>= next) (other >>= next') := by
  obtain ⟨a, b, looks, looks', related⟩ := first
  obtain ⟨c, d, goesOn, goesOn', related'⟩ := later a b related
  exact ⟨c, d, looks.bind goesOn, looks'.bind goesOn', related'⟩

/-- Both actions find the same. -/
theorem LooksAlike.bind_eq {S : γ → δ → Prop} {action other : InMemory α} {next : α → InMemory γ}
    {next' : α → InMemory δ} (first : LooksAlike Eq one two action other)
    (later : ∀ a, LooksAlike S one two (next a) (next' a)) :
    LooksAlike S one two (action >>= next) (other >>= next') := by
  refine first.bind fun a b same => ?_
  subst same
  exact later a

theorem looks_gather {f : α → InMemory (List β)} {found : α → List β} {world : World}
    (each : ∀ a, Looks (f a) world (found a)) (parts : List α) :
    Looks (gather f parts) world (parts.flatMap found) := by
  induction parts with
  | nil => exact looks_pure [] world
  | cons part rest ih => exact (each part).bind (ih.bind (looks_pure _ world))

/-- What is gathered from the same things, in any order, has the same members. -/
theorem looksAlike_gather {f : α → InMemory (List β)}
    (each : ∀ a, LooksAlike SameMembers one two (f a) (f a)) {parts parts' : List α}
    (same : SameMembers parts parts') :
    LooksAlike SameMembers one two (gather f parts) (gather f parts') := by
  choose found found' looks looks' members using each
  exact ⟨_, _, looks_gather looks parts, looks_gather looks' parts',
    same.flatMap fun a _ => members a⟩

end Looking

/-- The same paths, in some order, all of them of files. -/
structure SameFiles (disk : Disk) (found found' : List Text) : Prop where
  members : SameMembers found found'
  files : ∀ path ∈ found, disk.kind? path = some .file

theorem SameFiles.nil (disk : Disk) : SameFiles disk [] [] :=
  ⟨SameMembers.refl [], fun _ member => absurd member List.not_mem_nil⟩

/-! ### Patterns -/

section Trees

variable {one two : World} (tree : Disk.SameTree one.disk two.disk)
include tree

theorem looksAlike_kind? (path : Text) :
    LooksAlike Eq one two (Host.kind? path) (Host.kind? path) :=
  ⟨_, _, rfl, rfl, Disk.kind?_congr (tree.find? path)⟩

theorem looksAlike_isDirectory (path : Text) :
    LooksAlike Eq one two (isDirectory path) (isDirectory path) :=
  (looksAlike_kind? tree path).bind_eq fun _ => looksAlike_pure rfl

theorem looksAlike_exists (path : Text) :
    LooksAlike Eq one two (Option.isSome <$> Host.kind? path) (Option.isSome <$> Host.kind? path) :=
  (looksAlike_kind? tree path).bind_eq fun _ => looksAlike_pure rfl

theorem looksAlike_namesIn (directory : Text) :
    LooksAlike SameMembers one two (namesIn directory) (namesIn directory) := by
  refine (looksAlike_isDirectory tree directory).bind_eq fun there => ?_
  cases there with
  | false => exact looksAlike_pure (SameMembers.refl [])
  | true =>
    refine ⟨_, _, Looks.bind (a := one.disk.names? directory) rfl (looks_pure _ one),
      Looks.bind (a := two.disk.names? directory) rfl (looks_pure _ two), ?_⟩
    rcases tree.names? directory with ⟨none, none'⟩ | ⟨names, names', some, some', members⟩
    · rw [none, none']
      exact SameMembers.refl []
    · rw [some, some']
      exact members

theorem looksAlike_descend {visit : Text → Text → InMemory (List Text)}
    (each : ∀ path name, LooksAlike SameMembers one two (visit path name) (visit path name))
    (bound : Nat) (directory : Text) :
    LooksAlike SameMembers one two (descend visit bound directory) (descend visit bound directory) := by
  induction bound generalizing directory with
  | zero => exact looksAlike_pure (SameMembers.refl [])
  | succ bound ih =>
    refine (looksAlike_namesIn tree directory).bind fun names names' members => ?_
    refine looksAlike_gather (fun name => ?_) members
    refine (each _ _).bind fun found found' same => (ih _).bind fun below below' same' => ?_
    exact looksAlike_pure (same.append same')

/-- **A pattern fits the same paths on disks with the same tree.** -/
theorem looksAlike_matching (names : List NamePattern) (directory : Text) :
    LooksAlike SameMembers one two (matching names directory) (matching names directory) := by
  induction names, directory using matching.induct (m := InMemory) with
  | case1 directory => exact looksAlike_pure (SameMembers.refl _)
  | case2 names directory ih =>
    rw [matching]
    exact ih
  | case3 directory =>
    rw [matching]
    refine looksAlike_descend tree (fun path name => ?_) _ _
    refine (looksAlike_isDirectory tree path).bind_eq fun there => ?_
    cases there <;> exact looksAlike_pure (SameMembers.refl _)
  | case4 tokens names directory ih =>
    rw [matching]
    refine looksAlike_descend tree (fun path name => ?_) _ _
    split
    · exact ih path
    · exact looksAlike_pure (SameMembers.refl [])
  | case5 tokens names directory name isLiteral path special isSpecial ih =>
    rw [matching, isLiteral]
    simp only
    rw [if_pos isSpecial]
    refine (looksAlike_isDirectory tree directory).bind_eq fun there => ?_
    cases there
    · exact looksAlike_pure (SameMembers.refl [])
    · exact ih
  | case6 tokens names directory name isLiteral path special notSpecial ih =>
    rw [matching, isLiteral]
    simp only
    rw [if_neg notSpecial]
    refine (looksAlike_exists tree path).bind_eq fun there => ?_
    cases there
    · exact looksAlike_pure (SameMembers.refl [])
    · exact ih
  | case7 tokens names directory wildcards ih dotted =>
    rw [matching, wildcards]
    refine (looksAlike_isDirectory tree directory).bind_eq fun there => ?_
    cases there
    · exact looksAlike_pure (SameMembers.refl [])
    · refine (looksAlike_namesIn tree directory).bind fun found found' members => ?_
      refine (looksAlike_gather ih (members.filter _)).bind fun fitting fitting' same => ?_
      refine (looksAlike_gather dotted (SameMembers.refl _)).bind fun special special' same' => ?_
      exact looksAlike_pure (same.append same')

omit tree in
theorem looks_filesAmong (paths : List Text) (world : World) :
    Looks (filesAmong paths) world (paths.filter fun path => world.disk.kind? path = some .file) := by
  induction paths with
  | nil => exact looks_pure [] world
  | cons path rest ih =>
    refine ih.bind (Looks.bind (a := decide (world.disk.kind? path = some .file)) rfl ?_)
    rw [List.filter_cons]
    by_cases file : world.disk.kind? path = some .file
    · simp only [file, decide_true, if_true]
      exact looks_pure _ world
    · simp only [file, decide_false, Bool.false_eq_true, if_false]
      exact looks_pure _ world

theorem looksAlike_filesAmong {paths paths' : List Text} (same : SameMembers paths paths') :
    LooksAlike (SameFiles one.disk) one two (filesAmong paths) (filesAmong paths') := by
  refine ⟨_, _, looks_filesAmong paths one, looks_filesAmong paths' two, ?_, fun path member => ?_⟩
  · have kinds : (fun path => decide (one.disk.kind? path = some .file)) =
        fun path => decide (two.disk.kind? path = some .file) := by
      funext path
      rw [Disk.kind?_congr (tree.find? path)]
    rw [kinds]
    exact same.filter _
  · exact of_decide_eq_true (List.mem_filter.mp member).2

theorem looksAlike_patternFiles {pattern : Text} (valid : (readPattern? pattern).isSome = true) :
    LooksAlike (SameFiles one.disk) one two (patternFiles pattern) (patternFiles pattern) := by
  unfold patternFiles
  split
  · rename_i invalid
    rw [invalid] at valid
    cases valid
  · split
    · exact looksAlike_pure (SameFiles.nil one.disk)
    · exact (looksAlike_matching tree _ _).bind fun _ _ same => looksAlike_filesAmong tree same

/-! ### Inputs -/

theorem looksAlike_directorySources {directory : Text}
    (there : one.disk.kind? directory = some .directory) :
    LooksAlike (SameFiles one.disk) one two (directorySources directory)
      (directorySources directory) := by
  obtain ⟨listed, isListed⟩ := Disk.exists_names? there
  rcases tree.names? directory with ⟨none, -⟩ | ⟨names, names', some, some', members⟩
  · rw [isListed] at none
    cases none
  · have looks : LooksAlike (fun found found' => found = one.disk.names? directory ∧
        found' = two.disk.names? directory) one two (Host.names? directory)
        (Host.names? directory) := ⟨_, _, rfl, rfl, rfl, rfl⟩
    refine looks.bind ?_
    rintro _ _ ⟨rfl, rfl⟩
    rw [some, some']
    exact looksAlike_filesAmong tree ((members.filter _).map _)

/-- An input stands for the same files. One that is a file is not missed. -/
theorem looksAlike_inputFiles {input : Text} (valid : (readPattern? input).isSome = true) :
    LooksAlike (fun found found' => SameFiles one.disk found.1 found'.1 ∧ found'.2 = found.2 ∧
      (one.disk.kind? input = some .file → found.2 = [])) one two (inputFiles input)
      (inputFiles input) := by
  have kinds : LooksAlike (fun kind kind' => kind = one.disk.kind? input ∧ kind' = kind) one two
      (Host.kind? input) (Host.kind? input) :=
    ⟨_, _, rfl, rfl, rfl, (Disk.kind?_congr (tree.find? input)).symm⟩
  refine kinds.bind ?_
  rintro kind _ ⟨isKind, rfl⟩
  split
  · refine looksAlike_pure ⟨⟨SameMembers.refl _, fun path single => ?_⟩, rfl, fun _ => rfl⟩
    rw [List.mem_singleton.mp single]
    exact isKind.symm
  · refine (looksAlike_directorySources tree isKind.symm).bind fun found found' same => ?_
    exact looksAlike_pure ⟨same, rfl, fun _ => rfl⟩
  · rename_i notFile _
    refine (looksAlike_patternFiles tree valid).bind fun found found' same => ?_
    refine looksAlike_pure ⟨same, ?_, fun file => absurd (isKind.trans file) notFile⟩
    simp only [same.members.isEmpty_eq]

end Trees

theorem looks_listInputs {world : World} {files missing : Text → List Text} {inputs : List Text}
    (each : ∀ input ∈ inputs, Looks (inputFiles input) world (files input, missing input)) :
    Looks (listInputs inputs) world (inputs.flatMap files, inputs.flatMap missing) := by
  induction inputs with
  | nil => exact looks_pure _ world
  | cons input rest ih =>
    refine (each input List.mem_cons_self).bind ?_
    refine (ih fun other member => each other (List.mem_cons_of_mem input member)).bind ?_
    exact looks_pure _ world

/-- The same inputs in another order. An input that is a file may be given any number of times. -/
structure Reordered (disk : Disk) (inputs inputs' : List Text) : Prop where
  files : ∀ path, disk.kind? path = some .file → (path ∈ inputs ↔ path ∈ inputs')
  others : (inputs.filter fun path => disk.kind? path ≠ some .file).Perm
    (inputs'.filter fun path => disk.kind? path ≠ some .file)

section Reordering

variable {disk : Disk} {inputs inputs' : List Text}

theorem reordered_of_perm (disk : Disk) (order : inputs.Perm inputs') :
    Reordered disk inputs inputs' :=
  ⟨fun _ _ => order.mem_iff, order.filter _⟩

/-- An input that is a file may be given once more. -/
theorem Reordered.again (reordered : Reordered disk inputs inputs') {path : Text}
    (file : disk.kind? path = some .file) (member : path ∈ inputs) :
    Reordered disk inputs (path :: inputs') := by
  refine ⟨fun other isFile => ?_, ?_⟩
  · rw [List.mem_cons, ← reordered.files other isFile]
    exact ⟨Or.inr, fun either => either.elim (fun same => same ▸ member) id⟩
  · rw [List.filter_cons_of_neg (by simpa using file)]
    exact reordered.others

theorem Reordered.sameMembers (reordered : Reordered disk inputs inputs') :
    SameMembers inputs inputs' := by
  intro path
  by_cases file : disk.kind? path = some .file
  · exact reordered.files path file
  · have member := reordered.others.mem_iff (a := path)
    simpa [file] using member

/-- Inputs are reordered also when more stands on the disk. -/
theorem Reordered.grows (reordered : Reordered disk inputs inputs') {after : Disk}
    (more : ∀ path, disk.kind? path = some .file → after.kind? path = some .file) :
    Reordered after inputs inputs' := by
  have twice (list : List Text) :
      (list.filter fun path => disk.kind? path ≠ some .file).filter
        (fun path => after.kind? path ≠ some .file) =
        list.filter fun path => after.kind? path ≠ some .file := by
    rw [List.filter_filter]
    refine List.filter_congr fun path _ => ?_
    rw [Bool.and_eq_left_iff_imp]
    intro other
    exact decide_eq_true fun file => of_decide_eq_true other (more path file)
  refine ⟨fun path _ => reordered.sameMembers path, ?_⟩
  rw [← twice inputs, ← twice inputs']
  exact reordered.others.filter _

theorem flatMap_filter_of_nil {α β : Type} {f : α → List β} {p : α → Bool} {list : List α}
    (empty : ∀ a ∈ list, p a = false → f a = []) : (list.filter p).flatMap f = list.flatMap f := by
  induction list with
  | nil => rfl
  | cons first rest ih =>
    have others := ih fun a member => empty a (List.mem_cons_of_mem first member)
    rw [List.filter_cons, List.flatMap_cons]
    cases kept : p first with
    | true => rw [if_pos rfl, List.flatMap_cons, others]
    | false =>
      rw [if_neg Bool.false_ne_true, empty first List.mem_cons_self kept, others, List.nil_append]

/-- **Reordered inputs stand for the same files and miss the same inputs.** -/
theorem looksAlike_listInputs {one two : World} (tree : Disk.SameTree one.disk two.disk)
    (valid : ∀ input ∈ inputs, (readPattern? input).isSome = true)
    (reordered : Reordered one.disk inputs inputs') :
    LooksAlike (fun found found' => SameFiles one.disk found.1 found'.1 ∧ found.2.Perm found'.2) one
      two (listInputs inputs) (listInputs inputs') := by
  have each (input : Text) : ∃ files files' missing, (readPattern? input).isSome = true →
      Looks (inputFiles input) one (files, missing) ∧ Looks (inputFiles input) two (files', missing) ∧
        SameFiles one.disk files files' ∧ (one.disk.kind? input = some .file → missing = []) := by
    by_cases isValid : (readPattern? input).isSome = true
    · obtain ⟨⟨files, missing⟩, ⟨files', _⟩, looks, looks', same, rfl, none⟩ :=
        looksAlike_inputFiles tree isValid
      exact ⟨files, files', _, fun _ => ⟨looks, looks', same, none⟩⟩
    · exact ⟨[], [], [], fun isValid' => absurd isValid' isValid⟩
  choose files files' missing finds using each
  have same := reordered.sameMembers
  have valid' (input : Text) (member : input ∈ inputs') := valid input ((same input).mpr member)
  refine ⟨_, _, looks_listInputs fun input member => (finds input (valid input member)).1,
    looks_listInputs fun input member => (finds input (valid' input member)).2.1, ⟨?_, ?_⟩, ?_⟩
  · exact same.flatMap fun input member => (finds input (valid input member)).2.2.1.members
  · intro path found
    obtain ⟨input, member, inFiles⟩ := List.mem_flatMap.mp found
    exact (finds input (valid input member)).2.2.1.files path inFiles
  · have empty (list : List Text) (isValid : ∀ input ∈ list, (readPattern? input).isSome = true) :
        (list.filter fun path => one.disk.kind? path ≠ some .file).flatMap missing =
          list.flatMap missing := by
      refine flatMap_filter_of_nil fun input member isFile => ?_
      exact (finds input (isValid input member)).2.2.2 (by simpa using isFile)
    simp only
    rw [← empty inputs valid, ← empty inputs' valid']
    exact reordered.others.flatMap_right missing

end Reordering

/-! ### The order of the files -/

namespace Path

theorem mem_map_key_sortedOnce {paths : List Text} {place : List (List ℕ)} :
    place ∈ (sortedOnce paths).map key ↔ place ∈ paths.map key := by
  rw [List.mem_map, List.mem_map]
  constructor
  · rintro ⟨path, member, isKey⟩
    exact ⟨path, (mem_sortedOnce_iff.mp member).mem, isKey⟩
  · rintro ⟨path, member, rfl⟩
    have found : ((sortedOnce paths).find? (same path)).isSome = true := by
      rw [find?_sortedOnce]
      exact List.find?_isSome.mpr ⟨path, member, same_iff.mpr rfl⟩
    obtain ⟨kept, inKept, alike⟩ := List.find?_isSome.mp found
    exact ⟨kept, inKept, (same_iff.mp alike).symm⟩

/-- **The same files, put in order, are the same paths one by one.** -/
theorem sortedOnce_of_sameMembers {files files' : List Text} (members : SameMembers files files') :
    List.Forall₂ (fun path path' => path ∈ files ∧ path' ∈ files ∧ same path path' = true)
      (sortedOnce files) (sortedOnce files') := by
  have increasing (list : List Text) : ((sortedOnce list).map key).Pairwise (· < ·) := by
    refine List.pairwise_map.mpr ((pairwise_sortedOnce list).imp fun both => ?_)
    rw [precedes_iff, Bool.eq_false_iff, ne_eq, same_iff] at both
    exact both.1.lt_of_ne both.2
  have keys : (sortedOnce files).map key = (sortedOnce files').map key := by
    refine (increasing files).eq_of_mem_iff (increasing files') fun place => ?_
    rw [mem_map_key_sortedOnce, mem_map_key_sortedOnce]
    exact members.map key place
  rw [← List.forall₂_eq_eq_eq, List.forall₂_map_left_iff, List.forall₂_map_right_iff] at keys
  have inFiles (path : Text) (member : path ∈ sortedOnce files) : path ∈ files :=
    (mem_sortedOnce_iff.mp member).mem
  have inFiles' (path' : Text) (member : path' ∈ sortedOnce files') : path' ∈ files :=
    (members path').mpr (mem_sortedOnce_iff.mp member).mem
  have seconds := (List.forall₂_and_left _ _).mpr ⟨inFiles', keys.flip⟩
  have both := (List.forall₂_and_left _ _).mpr ⟨inFiles, seconds.flip⟩
  exact both.imp fun _ _ found => ⟨found.1, found.2.1, same_iff.mpr found.2.2⟩

end Path

end ReferencePages
