/-
**One path in several spellings.**

A path can be spelled with slashes and inner dots more or less; its components stay the same:

* `components_eq_of_pieces`: the components are told by the names between the slashes, so idle names
  at the end can be left out (`components_join_dropIdleEnd`);
* `components_parent`: **the directory of a path has its components but the last one**, so spellings
  of one path lie in spellings of one directory (`same_parent`) and have one stem
  (`fileStem_of_same`).
-/

import ReferencePages.Proofs.Disk.Paths
import ReferencePages.Proofs.Text.Lines

namespace ReferencePages

open Text

namespace Path

/-! ### The directory of a path -/

theorem pieces_join {names : List Text} (whole : ∀ name ∈ names, '/' ∉ name) (named : names ≠ []) :
    pieces (join ['/'] names) = names :=
  List.splitOn_intercalate '/' whole named

theorem exists_pieces_cons (path : Text) : ∃ first rest, pieces path = first :: rest := by
  obtain ⟨first, rest, split⟩ := List.exists_cons_of_ne_nil (List.splitOnP_ne_nil (· == '/') path)
  exact ⟨first, rest, List.splitOn_eq_splitOnP.trans split⟩

/-- A path starts at the root when its first name is empty and others follow. -/
theorem isAbsolute_iff_pieces {path first : Text} {rest : List Text}
    (split : pieces path = first :: rest) : isAbsolute path = true ↔ first = [] ∧ rest ≠ [] := by
  unfold isAbsolute
  rw [decide_eq_true_iff]
  cases path with
  | nil =>
    cases split
    exact ⟨fun head => (by cases head), fun both => absurd rfl both.2⟩
  | cons c others =>
    by_cases slash : c = '/'
    · subst slash
      have split' : pieces ('/' :: others) = [] :: pieces others := pieces_append [] others
      rw [split'] at split
      cases split
      exact ⟨fun _ => ⟨rfl, List.splitOnP_ne_nil _ _⟩, fun _ => rfl⟩
    · unfold pieces at split
      obtain ⟨name, more, tail⟩ :=
        List.exists_cons_of_ne_nil (List.splitOnP_ne_nil (· == '/') others)
      rw [List.splitOn_eq_splitOnP, List.splitOnP_cons_eq_if_modifyHead, beq_false_of_ne slash,
        tail] at split
      cases split
      exact ⟨fun head => absurd (Option.some.inj head) slash,
        fun both => absurd both.1 (List.cons_ne_nil _ _)⟩

/-- The components of a path are told by its names. -/
theorem components_eq_of_pieces {path other first : Text} {rest rest' : List Text}
    (split : pieces path = first :: rest) (split' : pieces other = first :: rest')
    (inner : rest.filterMap innerComponent? = rest'.filterMap innerComponent?)
    (rooted : first = [] → (rest = [] ↔ rest' = [])) : components path = components other := by
  have absolute : isAbsolute path = isAbsolute other := by
    rw [Bool.eq_iff_iff, isAbsolute_iff_pieces split, isAbsolute_iff_pieces split']
    exact and_congr_right fun empty => not_congr (rooted empty)
  unfold components
  simp only
  rw [absolute, split, split', List.filterMap_cons, List.filterMap_cons, inner, List.head?_cons,
    List.head?_cons]

theorem filterMap_dropWhile_isIdle (names : List Text) :
    (names.reverse.dropWhile isIdle).reverse.filterMap innerComponent? =
      names.filterMap innerComponent? := by
  have idle (dropped : List Text) (all : ∀ name ∈ dropped, isIdle name = true) :
      dropped.filterMap innerComponent? = [] :=
    List.filterMap_eq_nil_iff.mpr fun name member => Option.isNone_iff_eq_none.mp (all name member)
  conv_rhs =>
    rw [← List.reverse_reverse names,
      ← List.takeWhile_append_dropWhile (p := isIdle) (l := names.reverse), List.reverse_append,
      List.filterMap_append]
  rw [idle (names.reverse.takeWhile isIdle).reverse, List.append_nil]
  intro name member
  exact List.mem_takeWhile_imp (List.mem_reverse.mp member)

/-- Idle names at the end can be left out, except behind the slash that a path starts with. -/
theorem components_join_dropIdleEnd {path : Text} (inside : components path ≠ [.root]) :
    components (join ['/'] (dropIdleEnd (pieces path))) = components path := by
  obtain ⟨first, rest, split⟩ := exists_pieces_cons path
  have whole (name : Text) (member : name ∈ dropIdleEnd (pieces path)) : '/' ∉ name := by
    refine not_mem_of_mem_splitOn (t := path) ?_
    change name ∈ pieces path
    rw [split, dropIdleEnd] at member
    rw [split]
    refine List.cons_subset_cons first (fun other inKept => ?_) member
    exact List.mem_reverse.mp ((List.dropWhile_suffix _).subset (List.mem_reverse.mp inKept))
  have kept : dropIdleEnd (pieces path) = first :: (rest.reverse.dropWhile isIdle).reverse := by
    rw [split, dropIdleEnd]
  have joined := pieces_join whole (by rw [kept]; exact List.cons_ne_nil _ _)
  rw [kept] at joined ⊢
  refine components_eq_of_pieces joined split (filterMap_dropWhile_isIdle rest) fun empty => ?_
  refine ⟨fun none => by_contra fun more => inside ?_, fun none => by rw [none]; rfl⟩
  -- a path of the root alone: nothing but idle names behind the first slash
  have absolute := (isAbsolute_iff_pieces split).mpr ⟨empty, more⟩
  have inner : rest.filterMap innerComponent? = [] := by
    rw [← filterMap_dropWhile_isIdle, none]
    rfl
  unfold components
  simp only
  rw [if_pos absolute, split, List.filterMap_cons, inner, empty]
  rfl

/-- The component that a name makes a step with. -/
theorem innerComponent?_of_moves {name : Text} (moves : isIdle name = false) :
    ∃ component, innerComponent? name = some component ∧ component ≠ .root := by
  unfold isIdle at moves
  cases made : innerComponent? name with
  | none => rw [made] at moves; cases moves
  | some component =>
    refine ⟨component, rfl, ?_⟩
    rintro rfl
    unfold innerComponent? at made
    split at made
    · cases made
    · split at made <;> cases made

/-- The last component of a path is the one of its last name. -/
theorem components_append (before : Text) {last : Text} (whole : '/' ∉ last) {component : Component}
    (made : innerComponent? last = some component) :
    components (before ++ '/' :: last) =
      (if before = [] then [.root] else components before) ++ [component] := by
  have split : pieces (before ++ '/' :: last) = pieces before ++ [last] := by
    rw [pieces_append, pieces_of_not_mem whole]
  have inner : (pieces before ++ [last]).filterMap innerComponent? =
      (pieces before).filterMap innerComponent? ++ [component] := by
    rw [List.filterMap_append, List.filterMap_cons, made]
    rfl
  cases before with
  | nil =>
    unfold components
    simp only
    rw [split, inner]
    rfl
  | cons c rest =>
    have absolute : isAbsolute (c :: rest ++ '/' :: last) = isAbsolute (c :: rest) := rfl
    have head : (pieces (c :: rest) ++ [last]).head? = (pieces (c :: rest)).head? :=
      List.head?_append_of_ne_nil _ (List.splitOnP_ne_nil _ _)
    rw [if_neg (List.cons_ne_nil _ _)]
    unfold components
    simp only
    rw [split, inner, absolute, head]
    split_ifs <;> rfl

theorem parent_of_components {path : Text} {above : List Component} {last : Component}
    (split : components path = above ++ [last]) (notRoot : last ≠ .root) :
    parent path = if above = [.root] then ['/']
      else join ['/'] (dropIdleEnd (dropIdleEnd (pieces path)).dropLast) := by
  unfold parent parent?
  rw [split]
  rcases above with - | ⟨first, - | ⟨second, more⟩⟩
  · cases last <;> first | rfl | exact absurd rfl notRoot
  · cases first <;> rfl
  · rw [if_neg fun alike => by cases alike]
    cases more <;> cases first <;> rfl

theorem dropIdleEnd_pieces_append (before : Text) {last : Text} (whole : '/' ∉ last)
    (moves : isIdle last = false) :
    dropIdleEnd (pieces (before ++ '/' :: last)) = pieces before ++ [last] := by
  obtain ⟨first, rest, split⟩ := exists_pieces_cons before
  rw [pieces_append, pieces_of_not_mem whole, split, List.cons_append, dropIdleEnd,
    List.reverse_append, List.reverse_singleton, List.singleton_append,
    List.dropWhile_cons_of_neg (by rw [moves]; exact Bool.false_ne_true), List.reverse_cons,
    List.reverse_reverse]

/-- The directory of a path is what stands before its last name, without idle names at the end. -/
theorem parent_append (before : Text) {last : Text} (whole : '/' ∉ last) (moves : isIdle last = false) :
    parent (before ++ '/' :: last) =
      if before = [] ∨ components before = [.root] then ['/']
      else join ['/'] (dropIdleEnd (pieces before)) := by
  obtain ⟨component, made, notRoot⟩ := innerComponent?_of_moves moves
  rw [parent_of_components (components_append before whole made) notRoot,
    dropIdleEnd_pieces_append before whole moves, List.dropLast_concat]
  by_cases root : before = []
  · rw [if_pos root, if_pos rfl, if_pos (Or.inl root)]
  · simp only [root, if_false, false_or]

/-- A directory that ends with a name is kept as it is spelled. -/
theorem parent_append_append (above : Text) {name last : Text} (whole : '/' ∉ name)
    (moves : isIdle name = false) (whole' : '/' ∉ last) (moves' : isIdle last = false) :
    parent ((above ++ '/' :: name) ++ '/' :: last) = above ++ '/' :: name := by
  obtain ⟨component, made, notRoot⟩ := innerComponent?_of_moves moves
  have below : components (above ++ '/' :: name) ≠ [.root] := by
    rw [components_append above whole made]
    intro alone
    have ends := congrArg List.getLast? alone
    rw [List.getLast?_concat] at ends
    exact notRoot (Option.some.inj ends)
  rw [parent_append _ whole' moves', if_neg (not_or.mpr ⟨by simp, below⟩),
    dropIdleEnd_pieces_append above whole moves, ← pieces_of_not_mem whole, ← pieces_append]
  exact List.intercalate_splitOn ..

/-- The directory of a path has its components but the last one. -/
theorem components_parent {path : Text} (moves : isIdle (lastName path) = false) :
    components (parent path) = (components path).dropLast := by
  obtain ⟨component, made, notRoot⟩ := innerComponent?_of_moves moves
  rcases eq_lastName_or path with ⟨whole, last⟩ | ⟨before, cut, whole⟩
  · -- a name alone lies in the directory that is not named
    rw [last] at moves made
    have single : components path = [] ++ [component] := by
      have relative : ¬ isAbsolute path = true := by
        rw [isAbsolute_iff_pieces (pieces_of_not_mem whole)]
        exact fun both => both.2 rfl
      have notDot : path ≠ ['.'] := by
        rintro rfl
        cases moves
      unfold components
      simp only
      rw [if_neg relative, pieces_of_not_mem whole, List.head?_cons,
        if_neg fun dot => notDot (Option.some.inj dot), List.filterMap_cons, made]
      rfl
    rw [parent_of_components single notRoot, single, pieces_of_not_mem whole]
    rfl
  · have parent_eq := parent_append before whole moves
    have split := components_append before whole made
    rw [← cut] at parent_eq split
    rw [parent_eq, split, List.dropLast_concat]
    by_cases root : before = []
    · rw [if_pos (Or.inl root), if_pos root]
      rfl
    · rw [if_neg root]
      split_ifs with inRoot
      · rw [inRoot.resolve_left root]
        rfl
      · exact components_join_dropIdleEnd fun alone => inRoot (Or.inr alone)

/-- Spellings of one path lie in spellings of one directory. -/
theorem same_parent {first second : Text} (moves : isIdle (lastName first) = false)
    (moves' : isIdle (lastName second) = false) (alike : same first second = true) :
    same (parent first) (parent second) = true := by
  unfold same
  rw [components_parent moves, components_parent moves', of_decide_eq_true alike]
  exact decide_eq_true rfl

theorem fileStem_of_same {first second : Text} (moves : isIdle (lastName first) = false)
    (moves' : isIdle (lastName second) = false) (alike : same first second = true) :
    fileStem first = fileStem second := by
  rw [← fileStem_lastName first, ← fileStem_lastName second, lastName_of_same moves moves' alike]

end Path

end ReferencePages
