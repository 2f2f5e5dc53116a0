/-
**Paths and the names they end with.**

What a path leads to depends on where it starts and on the names in it that make a step:

* `steps`: the names of a path without those that make no step. Paths with the same components start
  alike and have the same steps (`isAbsolute_of_same`, `steps_of_same`), and a name in a directory is
  one step more (`steps_child`);
* `lastName`: the name behind the last slash. The stem of a file depends on it alone
  (`fileStem_lastName`), and a stem is read back from a name made of it (`fileStem_append`);
* `IsProper`: a name that leads into a directory;
* `sortedOnce_perm`: files that differ in their stems are put in order, and none is dropped.
-/

import Mathlib.Data.List.TakeWhile
import ReferencePages.FileName
import ReferencePages.Path

namespace ReferencePages

open Text

namespace Path

/-! ### Names between slashes -/

theorem pieces_append (path rest : Text) :
    pieces (path ++ '/' :: rest) = pieces path ++ pieces rest := by
  unfold pieces
  rw [List.splitOn_eq_splitOnP, List.splitOn_eq_splitOnP, List.splitOn_eq_splitOnP]
  exact List.splitOnP_append_cons path rest (beq_self_eq_true '/')

theorem pieces_of_not_mem {name : Text} (whole : '/' ∉ name) : pieces name = [name] := by
  unfold pieces
  rw [List.splitOn_eq_splitOnP]
  refine List.splitOnP_eq_singleton fun c inName => ?_
  exact beq_false_of_ne (ne_of_mem_of_not_mem inName whole)

/-- What follows the last slash of a path. -/
def lastName (path : Text) : Text := (pieces path).getLast?.getD []

theorem lastName_of_not_mem {name : Text} (whole : '/' ∉ name) : lastName name = name := by
  unfold lastName
  rw [pieces_of_not_mem whole]
  rfl

theorem lastName_append (path : Text) {name : Text} (whole : '/' ∉ name) :
    lastName (path ++ '/' :: name) = name := by
  unfold lastName
  rw [pieces_append, pieces_of_not_mem whole, List.getLast?_concat]
  rfl

/-- A path is its last name, behind a slash when anything stands before it. -/
theorem eq_lastName_or (path : Text) :
    ('/' ∉ path ∧ lastName path = path) ∨
      ∃ before, path = before ++ '/' :: lastName path ∧ '/' ∉ lastName path := by
  by_cases slash : '/' ∈ path.reverse
  · obtain ⟨after, before, cut, whole⟩ := List.eq_append_cons_of_mem slash
    have path_eq : path = before.reverse ++ '/' :: after.reverse := by
      rw [← List.reverse_reverse path, cut, List.reverse_append, List.reverse_cons,
        List.append_assoc, List.singleton_append]
    have whole' : '/' ∉ after.reverse := fun member => whole (List.mem_reverse.mp member)
    have last : lastName path = after.reverse := by
      rw [path_eq, lastName_append _ whole']
    rw [last]
    exact Or.inr ⟨before.reverse, path_eq, whole'⟩
  · have whole : '/' ∉ path := fun member => slash (List.mem_reverse.mpr member)
    exact Or.inl ⟨whole, lastName_of_not_mem whole⟩

theorem lastName_whole (path : Text) : '/' ∉ lastName path := by
  rcases eq_lastName_or path with ⟨whole, last⟩ | ⟨-, -, whole⟩
  · rwa [last]
  · exact whole

/-- The names of a path end with its last name. -/
theorem exists_pieces_eq (path : Text) : ∃ before, pieces path = before ++ [lastName path] := by
  rcases eq_lastName_or path with ⟨whole, last⟩ | ⟨before, cut, whole⟩
  · exact ⟨[], by rw [last, pieces_of_not_mem whole, List.nil_append]⟩
  · refine ⟨pieces before, ?_⟩
    calc pieces path = pieces (before ++ '/' :: lastName path) := congrArg pieces cut
      _ = pieces before ++ [lastName path] := by rw [pieces_append, pieces_of_not_mem whole]

/-! ### Steps -/

/-- The names of a path that make a step. -/
def steps (path : Text) : List Text := (pieces path).filter (! isIdle ·)

theorem steps_append (path rest : Text) : steps (path ++ '/' :: rest) = steps path ++ steps rest := by
  unfold steps
  rw [pieces_append, List.filter_append]

theorem steps_nil : steps [] = [] := rfl

/-- A name that leads into a directory: no slash in it, not idle, and not the way up. -/
structure IsProper (name : Text) : Prop where
  whole : '/' ∉ name
  moves : isIdle name = false
  inward : name ≠ ['.', '.']

theorem IsProper.steps {name : Text} (proper : IsProper name) : steps name = [name] := by
  unfold Path.steps
  rw [pieces_of_not_mem proper.whole]
  exact List.filter_cons_of_pos (by rw [proper.moves]; rfl)

/-- The last step of a path is its last name, unless that is idle. -/
theorem getLast?_steps {path : Text} (moves : isIdle (lastName path) = false) :
    (steps path).getLast? = some (lastName path) := by
  obtain ⟨before, split⟩ := exists_pieces_eq path
  unfold steps
  rw [split, List.filter_append, List.filter_cons_of_pos (by rw [moves]; rfl), List.filter_nil,
    List.getLast?_concat]

/-! ### A name in a directory -/

/-- A name stands in a directory behind a slash, unless the directory is not named at all. -/
theorem child_cases (directory name : Text) :
    (directory = [] ∧ child directory name = name) ∨
      (∃ above, directory = above ++ ['/'] ∧ child directory name = above ++ '/' :: name) ∨
      (directory ≠ [] ∧ child directory name = directory ++ '/' :: name) := by
  unfold child
  cases directory with
  | nil => exact Or.inl ⟨rfl, rfl⟩
  | cons first rest =>
    right
    by_cases slash : (first :: rest).getLast? = some '/'
    · obtain ⟨above, ends⟩ := List.getLast?_eq_some_iff.mp slash
      refine Or.inl ⟨above, ends, ?_⟩
      rw [slash, decide_eq_true rfl, Bool.or_true, if_pos rfl, ends, List.append_assoc]
      rfl
    · refine Or.inr ⟨List.cons_ne_nil _ _, ?_⟩
      rw [decide_eq_false slash, List.isEmpty_cons, Bool.or_false, if_neg Bool.false_ne_true,
        List.append_assoc]
      rfl

variable {name : Text}

theorem lastName_child (directory : Text) (whole : '/' ∉ name) :
    lastName (child directory name) = name := by
  rcases child_cases directory name with ⟨-, joined⟩ | ⟨above, -, joined⟩ | ⟨-, joined⟩ <;>
    rw [joined]
  · exact lastName_of_not_mem whole
  · exact lastName_append above whole
  · exact lastName_append directory whole

theorem steps_child (directory : Text) (proper : IsProper name) :
    steps (child directory name) = steps directory ++ [name] := by
  rcases child_cases directory name with ⟨rfl, joined⟩ | ⟨above, rfl, joined⟩ | ⟨-, joined⟩ <;>
    rw [joined]
  · rw [proper.steps, steps_nil, List.nil_append]
  · rw [steps_append, steps_append, proper.steps, steps_nil, List.append_nil]
  · rw [steps_append, proper.steps]

theorem isAbsolute_child (directory : Text) (whole : '/' ∉ name) :
    isAbsolute (child directory name) = isAbsolute directory := by
  unfold isAbsolute
  rcases child_cases directory name with ⟨rfl, joined⟩ | ⟨above, rfl, joined⟩ | ⟨named, joined⟩ <;>
    rw [joined]
  · have headless : name.head? ≠ some '/' := fun head => whole (List.mem_of_mem_head? head)
    rw [decide_eq_false headless]
    rfl
  · cases above <;> rfl
  · cases directory with
    | nil => exact absurd rfl named
    | cons first rest => rfl

theorem byteCount_append (first second : Text) :
    byteCount (first ++ second) = byteCount first + byteCount second := by
  have shift (t : Text) (n : Nat) :
      t.foldl (fun count c => count + c.utf8Size) n = n + byteCount t := by
    unfold byteCount
    induction t generalizing n with
    | nil => rfl
    | cons c rest ih =>
      rw [List.foldl_cons, List.foldl_cons, ih (n + c.utf8Size), ih (0 + c.utf8Size)]
      omega
  unfold byteCount
  rw [List.foldl_append, shift second]
  rfl

theorem byteCount_le_child (directory name : Text) :
    byteCount directory ≤ byteCount (child directory name) := by
  rcases child_cases directory name with ⟨rfl, -⟩ | ⟨above, rfl, joined⟩ | ⟨-, joined⟩
  · exact Nat.zero_le _
  · have shorter : above ++ '/' :: name = (above ++ ['/']) ++ name :=
      (List.append_cons above '/' name)
    rw [joined, shorter, byteCount_append _ name]
    exact Nat.le_add_right _ _
  · rw [joined, byteCount_append]
    exact Nat.le_add_right _ _

/-! ### Paths with the same components -/

/-- The name that a component makes a step with. -/
def Component.step? : Component → Option Text
  | .root => none
  | .current => none
  | .parent => some ['.', '.']
  | .name text => some text

theorem bind_innerComponent? (piece : Text) :
    (innerComponent? piece).bind Component.step? = if isIdle piece then none else some piece := by
  unfold isIdle innerComponent?
  by_cases idle : (piece.isEmpty || piece = ['.']) = true
  · rw [if_pos idle]
    rfl
  · rw [if_neg idle]
    by_cases up : piece = ['.', '.']
    · rw [if_pos up, up]
      rfl
    · rw [if_neg up]
      rfl

theorem steps_eq_filterMap (path : Text) :
    steps path = (components path).filterMap Component.step? := by
  have inner : ((pieces path).filterMap innerComponent?).filterMap Component.step? = steps path := by
    unfold steps
    rw [List.filterMap_filterMap, ← List.filterMap_eq_filter]
    congr 1
    funext piece
    rw [bind_innerComponent?, Option.guard]
    cases isIdle piece <;> rfl
  unfold components
  simp only
  split
  · exact inner.symm
  · split <;> exact inner.symm

theorem isAbsolute_eq_head? (path : Text) :
    isAbsolute path = decide ((components path).head? = some .root) := by
  have inner : ((pieces path).filterMap innerComponent?).head? ≠ some .root := by
    intro head
    obtain ⟨piece, -, made⟩ := List.mem_filterMap.mp (List.mem_of_mem_head? head)
    unfold innerComponent? at made
    split at made
    · cases made
    · split at made <;> cases made
  unfold components
  simp only
  by_cases absolute : isAbsolute path = true
  · rw [if_pos absolute, absolute]
    rfl
  · rw [if_neg absolute, Bool.eq_false_iff.mpr absolute]
    split
    · rfl
    · exact (decide_eq_false inner).symm

variable {first second : Text}

theorem steps_of_same (alike : same first second = true) : steps first = steps second := by
  rw [steps_eq_filterMap, steps_eq_filterMap, of_decide_eq_true alike]

theorem isAbsolute_of_same (alike : same first second = true) :
    isAbsolute first = isAbsolute second := by
  rw [isAbsolute_eq_head?, isAbsolute_eq_head?, of_decide_eq_true alike]

/-- Only the empty path has no components: its first name is not empty otherwise. -/
theorem eq_nil_of_components {path : Text} (none : components path = []) : path = [] := by
  cases path with
  | nil => rfl
  | cons c rest =>
    unfold components at none
    simp only at none
    by_cases absolute : isAbsolute (c :: rest) = true
    · rw [if_pos absolute] at none
      cases none
    · rw [if_neg absolute] at none
      have notSlash : (c == '/') = false := by
        refine beq_false_of_ne fun slash => absolute ?_
        rw [slash]
        rfl
      obtain ⟨name, more, split⟩ := List.exists_cons_of_ne_nil (List.splitOnP_ne_nil (· == '/') rest)
      have first : pieces (c :: rest) = (c :: name) :: more := by
        unfold pieces
        rw [List.splitOn_eq_splitOnP, List.splitOnP_cons_eq_if_modifyHead, notSlash, split]
        rfl
      by_cases dot : c :: name = ['.']
      · rw [first, dot, List.head?_cons, if_pos rfl] at none
        cases none
      · rw [first, List.head?_cons, if_neg fun same => dot (Option.some.inj same)] at none
        have moves := List.filterMap_eq_nil_iff.mp none (c :: name) List.mem_cons_self
        unfold innerComponent? at moves
        rw [if_neg (by simpa using dot)] at moves
        split at moves <;> cases moves

theorem eq_nil_iff_of_same (alike : same first second = true) : first = [] ↔ second = [] := by
  have alike := of_decide_eq_true alike
  constructor
  · rintro rfl
    exact eq_nil_of_components alike.symm
  · rintro rfl
    exact eq_nil_of_components alike

/-- The same path spelled twice has one last name, unless it ends with an idle one. -/
theorem lastName_of_same (moves : isIdle (lastName first) = false)
    (moves' : isIdle (lastName second) = false) (alike : same first second = true) :
    lastName first = lastName second := by
  have ends := getLast?_steps moves
  rw [steps_of_same alike, getLast?_steps moves'] at ends
  exact (Option.some.inj ends).symm

end Path

/-! ### Stems -/

open ReferencePages.Path

theorem fileName_append (path rest : Text) : fileName (path ++ '/' :: rest) = fileName rest := by
  unfold fileName
  rw [List.reverse_append, List.reverse_cons, List.append_assoc]
  congr 1
  rw [List.takeWhile_append]
  split
  · rw [List.singleton_append, List.takeWhile_cons_of_neg (by decide), List.append_nil]
    rename_i all
    exact ((List.takeWhile_prefix _).eq_of_length all).symm
  · rfl

/-- The name of a file is in what follows the last slash. -/
theorem fileName_lastName (path : Text) : fileName (lastName path) = fileName path := by
  rcases eq_lastName_or path with ⟨-, last⟩ | ⟨before, cut, -⟩
  · rw [last]
  · calc fileName (lastName path) = fileName (before ++ '/' :: lastName path) :=
          (fileName_append before _).symm
      _ = fileName path := congrArg fileName cut.symm

theorem fileStem_lastName (path : Text) : fileStem (lastName path) = fileStem path := by
  unfold fileStem
  rw [fileName_lastName]

theorem fileName_of_not_isSeparator {name : Text} (joined : ∀ c ∈ name, isSeparator c = false) :
    fileName name = name := by
  unfold fileName
  rw [List.takeWhile_eq_self_iff.mpr, List.reverse_reverse]
  intro c inName
  rw [joined c (List.mem_reverse.mp inName)]
  rfl

theorem not_isSeparator_of_mem_fileName {path : Text} {c : Char} (inName : c ∈ fileName path) :
    isSeparator c = false := by
  have kept := List.mem_takeWhile_imp (List.mem_reverse.mp inName)
  simpa using kept

theorem cutLastWhere?_append {p : Char → Bool} {mark : Char} {before after : Text}
    (hit : p mark = true) (clean : ∀ c ∈ after, p c = false) :
    cutLastWhere? p (before ++ mark :: after) = some (before, after) := by
  have clean' : ∀ c ∈ after.reverse, (! p c) = true := by
    intro c member
    rw [clean c (List.mem_reverse.mp member)]
    rfl
  have miss : ¬ (! p mark) = true := by
    rw [hit]
    decide
  have dropped : (after.reverse ++ mark :: before.reverse).dropWhile (! p ·) =
      mark :: before.reverse := by
    rw [List.dropWhile_append_of_pos clean']
    exact List.dropWhile_cons_of_neg miss
  have taken : (after.reverse ++ mark :: before.reverse).takeWhile (! p ·) = after.reverse := by
    rw [List.takeWhile_append_of_pos clean']
    exact List.append_right_eq_self.mpr (List.takeWhile_cons_of_neg miss)
  unfold cutLastWhere? cutWhere?
  rw [List.reverse_append, List.reverse_cons, List.append_assoc, List.singleton_append, dropped,
    taken, Option.map_some]
  simp only [List.reverse_reverse]

theorem fileStem_subset (path : Text) : fileStem path ⊆ fileName path := by
  unfold fileStem cutLastWhere? cutWhere?
  simp only
  cases dropped : (fileName path).reverse.dropWhile (fun c => ! (c == '.')) with
  | nil => exact List.Subset.refl _
  | cons mark rest =>
    rw [Option.map_some]
    simp only
    split
    · exact List.Subset.refl _
    · intro c inStem
      have inRest : c ∈ (fileName path).reverse.dropWhile (fun c => ! (c == '.')) := by
        rw [dropped]
        exact List.mem_cons_of_mem _ (List.mem_reverse.mp inStem)
      exact List.mem_reverse.mp ((List.dropWhile_suffix _).subset inRest)

theorem not_isSeparator_of_mem_fileStem {path : Text} {c : Char} (inStem : c ∈ fileStem path) :
    isSeparator c = false :=
  not_isSeparator_of_mem_fileName (fileStem_subset path inStem)

theorem fileStem_append {stem extension : Text} (named : stem ≠ [])
    (joined : ∀ c ∈ stem ++ '.' :: extension, isSeparator c = false) (undotted : '.' ∉ extension) :
    fileStem (stem ++ '.' :: extension) = stem := by
  have cut : cutLastWhere? (· == '.') (stem ++ '.' :: extension) = some (stem, extension) :=
    cutLastWhere?_append (by decide)
      fun c inExtension => beq_false_of_ne (ne_of_mem_of_not_mem inExtension undotted)
  unfold fileStem
  simp only
  rw [fileName_of_not_isSeparator joined, cut]
  exact if_neg (by rwa [List.isEmpty_iff])

/-! ### Order -/

theorem Path.dropRepeats_of_pairwise {paths : List Text}
    (distinct : paths.Pairwise fun first second => same first second = false) :
    dropRepeats paths = paths := by
  induction paths with
  | nil => rfl
  | cons first rest ih =>
    obtain ⟨apart, others⟩ := List.pairwise_cons.mp distinct
    rw [dropRepeats, ih others]
    cases rest with
    | nil => rfl
    | cons second more =>
      simp only
      rw [apart second List.mem_cons_self]
      rfl

/-- Files that differ in their stems are put in order, and none is dropped. -/
theorem Path.sortedOnce_perm {paths : List Text}
    (moves : ∀ path ∈ paths, isIdle (lastName path) = false) (stems : (paths.map fileStem).Nodup) :
    (sortedOnce paths).Perm paths := by
  have sorted := List.mergeSort_perm paths precedes
  have stems' : (paths.mergeSort precedes).Pairwise fun first second =>
      fileStem first ≠ fileStem second :=
    List.pairwise_map.mp ((sorted.map fileStem).nodup_iff.mpr stems)
  have distinct : (paths.mergeSort precedes).Pairwise fun first second =>
      same first second = false := by
    refine stems'.imp_of_mem fun {first second} inFirst inSecond differ => ?_
    refine Bool.eq_false_iff.mpr fun alike => differ ?_
    rw [← fileStem_lastName first, ← fileStem_lastName second,
      lastName_of_same (moves _ (sorted.subset inFirst)) (moves _ (sorted.subset inSecond)) alike]
  unfold sortedOnce
  rw [dropRepeats_of_pairwise distinct]
  exact sorted

end ReferencePages
