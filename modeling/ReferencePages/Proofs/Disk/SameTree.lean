/-
**Disks with the same tree.**

The entries of a disk are listed in some order. Only the order of the names in a directory depends on
it; two disks on which the same stands at every place hold the same tree:

* `SameTree.locateBy`: a path leads to the same place, or nowhere for the same reason;
* `SameTree.names?`: a directory holds the same names, in some order;
* `SameTree.write`, `SameTree.makeDirectory`: **a change is made on both, and they still hold the same
  tree, or it is made on neither for the same reason**.
-/

import Mathlib.Data.List.Infix
import ReferencePages.Proofs.Disk.Changes

namespace ReferencePages

/-- The answers are related, or there are none for the same reason. -/
inductive AnswersAlike {ε α β : Type} (R : α → β → Prop) : Except ε α → Except ε β → Prop
  | ok {a : α} {b : β} (related : R a b) : AnswersAlike R (.ok a) (.ok b)
  | error (reason : ε) : AnswersAlike R (.error reason) (.error reason)

theorem AnswersAlike.eq {ε α : Type} {answer answer' : Except ε α}
    (alike : AnswersAlike Eq answer answer') : answer = answer' := by
  cases alike with
  | ok same => rw [same]
  | error _ => rfl

/-- The lists have the same members. -/
def SameMembers {α : Type} (first second : List α) : Prop := ∀ a, a ∈ first ↔ a ∈ second

namespace Disk

/-- The same stands at every place. -/
structure SameTree (first second : Disk) : Prop where
  here : first.here = second.here
  entries : ∀ place, first.entry? place = second.entry? place

variable {first second : Disk}

theorem SameTree.refl (disk : Disk) : SameTree disk disk := ⟨rfl, fun _ => rfl⟩

theorem lookup_of_perm {entries entries' : List (Location × DiskEntry)} (order : entries.Perm entries')
    (distinct : (entries.map (·.1)).Nodup) (place : Location) :
    entries.lookup place = entries'.lookup place := by
  induction order with
  | nil => rfl
  | cons entry _ ih =>
    obtain ⟨key, stands⟩ := entry
    rw [List.lookup_cons, List.lookup_cons, ih (List.nodup_cons.mp distinct).2]
  | swap first second rest =>
    obtain ⟨key, stands⟩ := first
    obtain ⟨key', stands'⟩ := second
    have apart : key' ≠ key := by
      rintro rfl
      exact (List.nodup_cons.mp distinct).1 List.mem_cons_self
    simp only [List.lookup_cons]
    by_cases here : place = key
    · rw [here, beq_self_eq_true, beq_false_of_ne apart.symm]
    · rw [beq_false_of_ne here]
  | trans one _ ih ih' =>
    exact (ih distinct).trans (ih' ((one.map _).nodup_iff.mp distinct))

/-- The entries of a disk may be listed in any order. -/
theorem sameTree_of_perm {here : Location} {entries entries' : List (Location × DiskEntry)}
    (order : entries.Perm entries') (distinct : (entries.map (·.1)).Nodup) :
    SameTree ⟨here, entries⟩ ⟨here, entries'⟩ := by
  refine ⟨rfl, fun place => ?_⟩
  unfold entry?
  rw [lookup_of_perm order distinct]

theorem SameTree.isDirectory (tree : SameTree first second) (place : Location) :
    first.isDirectory place = second.isDirectory place := by
  unfold Disk.isDirectory
  rw [tree.entries]

/-! ### What is found -/

theorem SameTree.follow (tree : SameTree first second) (place : Location) (names : List Text) :
    first.follow place names = second.follow place names := by
  induction names generalizing place with
  | nil => rfl
  | cons name rest ih =>
    rw [Disk.follow, Disk.follow, tree.entries]
    simp only [ih]

theorem SameTree.locateBy (tree : SameTree first second) (path : Text) (names : List Text) :
    first.locateBy path names = second.locateBy path names := by
  unfold Disk.locateBy
  rw [tree.here]
  simp only [tree.follow]

theorem SameTree.place? (tree : SameTree first second) (path : Text) :
    first.place? path = second.place? path := by
  unfold Disk.place? locate
  rw [tree.locateBy]

theorem SameTree.find? (tree : SameTree first second) (path : Text) :
    first.find? path = second.find? path := by
  unfold Disk.find?
  rw [tree.place?, funext tree.entries]

theorem SameTree.directoryName? (tree : SameTree first second) (path : Text) :
    first.directoryName? path = second.directoryName? path := by
  rw [directoryName?_eq, directoryName?_eq, tree.place?, funext tree.isDirectory]

/-! ### Names -/

theorem nameIn?_eq_some_iff {directory place : Location} {name : Text} :
    nameIn? directory place = some name ↔ directory ++ [name] = place := by
  unfold nameIn?
  constructor
  · intro named
    split at named
    · rename_i only below
      cases named
      exact List.isPrefixOf?_eq_some_iff_append_eq.mp below
    · cases named
  · intro below
    rw [List.isPrefixOf?_eq_some_iff_append_eq.mpr below]

/-- The names in a directory are those at which something stands. -/
theorem mem_filterMap_nameIn? {disk : Disk} {directory : Location} {name : Text} :
    name ∈ disk.entries.filterMap (nameIn? directory ·.1) ↔
      (disk.entry? (directory ++ [name])).isSome = true := by
  have named : ¬ (directory ++ [name]).isEmpty = true := by simp
  unfold entry?
  rw [if_neg named, List.lookup_isSome_iff, List.mem_filterMap]
  refine exists_congr fun entry => and_congr_right fun _ => ?_
  rw [nameIn?_eq_some_iff, beq_iff_eq]

/-- The names in a directory are known. -/
theorem exists_names? {disk : Disk} {path : Text} (there : disk.kind? path = some .directory) :
    ∃ names, disk.names? path = some names := by
  obtain ⟨entry, found, isDirectory⟩ := Option.map_eq_some_iff.mp there
  obtain ⟨place, located, stands⟩ := Option.bind_eq_some_iff.mp found
  cases entry with
  | directory =>
    refine ⟨disk.entries.filterMap (nameIn? place ·.1), ?_⟩
    unfold Disk.names?
    rw [located]
    exact if_pos (decide_eq_true stands)
  | file content => cases isDirectory

/-- A directory holds the same names, in some order. -/
theorem SameTree.names? (tree : SameTree first second) (path : Text) :
    (first.names? path = none ∧ second.names? path = none) ∨
      ∃ names names', first.names? path = some names ∧ second.names? path = some names' ∧
        SameMembers names names' := by
  unfold Disk.names?
  rw [tree.place?]
  cases second.place? path with
  | none => exact Or.inl ⟨rfl, rfl⟩
  | some place =>
    simp only [Option.bind_eq_bind, Option.bind_some, tree.isDirectory]
    split
    · refine Or.inr ⟨_, _, rfl, rfl, fun name => ?_⟩
      rw [mem_filterMap_nameIn?, mem_filterMap_nameIn?, tree.entries]
    · exact Or.inl ⟨rfl, rfl⟩

/-! ### Changes -/

theorem SameTree.put (tree : SameTree first second) {place : Location} (named : place ≠ [])
    (entry : DiskEntry) : SameTree (first.put place entry) (second.put place entry) := by
  refine ⟨tree.here, fun other => ?_⟩
  rw [stands_put named, stands_put named, tree.entries]

/-- A file is written on both disks or on neither. -/
theorem SameTree.write (tree : SameTree first second) (path content : Text) :
    AnswersAlike SameTree (first.write path content) (second.write path content) := by
  unfold Disk.write locate
  rw [tree.locateBy]
  cases second.locateBy path (Path.pieces path) with
  | error error => exact .error error
  | ok place =>
    change AnswersAlike SameTree
      (if first.isDirectory place then .error PathError.blocked
        else .ok (first.put place (.file (some content))))
      (if second.isDirectory place then .error PathError.blocked
        else .ok (second.put place (.file (some content))))
    rw [tree.isDirectory]
    split
    · exact .error _
    · rename_i free
      refine .ok (tree.put ?_ _)
      rintro rfl
      exact free rfl

/-- A directory is made on both disks or on neither. -/
theorem SameTree.makeDirectory (tree : SameTree first second) (path : Text) :
    AnswersAlike SameTree (first.makeDirectory path) (second.makeDirectory path) := by
  unfold Disk.makeDirectory
  simp only
  rw [tree.locateBy]
  cases second.locateBy path ((Path.pieces path).reverse.dropWhile List.isEmpty).reverse with
  | error error => exact .error error
  | ok place =>
    change AnswersAlike SameTree
      (if (first.entry? place).isSome then .error PathError.blocked
        else .ok (first.put place .directory))
      (if (second.entry? place).isSome then .error PathError.blocked
        else .ok (second.put place .directory))
    rw [tree.entries]
    split
    · exact .error _
    · rename_i free
      refine .ok (tree.put ?_ _)
      rintro rfl
      exact free rfl

end Disk

end ReferencePages
