/-
**Cuts of texts at marks.**

* `cut?_append`, `unmarked_of_cut?`: a text is cut at its first mark, so no mark stands before the cut;
* `holds_eq_true_iff`: a text holds a mark exactly when the mark is a part of it, so no part of a text
  without the mark holds it (`holds_of_isInfix`);
* `cutAt?_eq_some_iff`, `cutAt?_eq_none_iff`: what a cut at a character makes of a text;
* `cut?_subset`, `cutAt?_subset`, `after?_subset`, `trim_isInfix`: what is cut off is part of the text.
-/

import Mathlib.Data.List.Infix
import ReferencePages.Proofs.Text.Ends

namespace ReferencePages.Text

variable {mark t : Text}

/-! ### Marks -/

/-- A text without the character that a mark opens with moves the mark to the right. -/
theorem cut?_append {c : Char} {mark t : Text} (missing : c ∉ t) (more : Text) :
    cut? (c :: mark) (t ++ more) = (cut? (c :: mark) more).map fun cut => (t ++ cut.1, cut.2) := by
  induction t with
  | nil => simp
  | cons d rest ih =>
    obtain ⟨different, missing⟩ := List.ne_and_not_mem_of_not_mem_cons missing
    have elsewhere : after? (c :: mark) (d :: (rest ++ more)) = none := by
      simp [after?, List.isPrefixOf?, different]
    rw [List.cons_append, cut?, elsewhere]
    simp only
    rw [ih missing, Option.map_map]
    rfl

theorem after?_eq_some_iff {rest : Text} : after? mark t = some rest ↔ t = mark ++ rest :=
  List.isPrefixOf?_eq_some_iff_append_eq.trans eq_comm

theorem isSome_after?_iff : (after? mark t).isSome = true ↔ mark <+: t := by
  rw [Option.isSome_iff_exists]
  constructor
  · rintro ⟨rest, same⟩
    exact ⟨rest, (after?_eq_some_iff.mp same).symm⟩
  · rintro ⟨rest, same⟩
    exact ⟨rest, after?_eq_some_iff.mpr same.symm⟩

/-- **A text holds a mark** exactly when the mark is a part of it. -/
theorem holds_eq_true_iff : holds mark t = true ↔ mark <:+: t := by
  induction t with
  | nil => rw [holds, cut?, Option.isSome_map, isSome_after?_iff, List.infix_nil, List.prefix_nil]
  | cons c rest ih =>
    rw [holds] at ih ⊢
    rw [List.infix_cons_iff, ← ih, ← isSome_after?_iff, cut?]
    cases after? mark (c :: rest) <;> simp

theorem holds_eq_false_iff : holds mark t = false ↔ ¬ mark <:+: t := by
  rw [← holds_eq_true_iff, Bool.not_eq_true]

/-- A part of a text without the mark holds none. -/
theorem holds_of_isInfix {whole : Text} (isPart : t <:+: whole) (unmarked : holds mark whole = false) :
    holds mark t = false :=
  holds_eq_false_iff.mpr fun marked => holds_eq_false_iff.mp unmarked (marked.trans isPart)

/-- What stands before the first mark is the start of the text and holds no mark. -/
theorem unmarked_of_cut? (nonempty : mark ≠ []) {before after : Text}
    (found : cut? mark t = some (before, after)) : before <+: t ∧ ¬ mark <:+: before := by
  induction t generalizing before with
  | nil =>
    obtain ⟨rest, isAfter, -⟩ := Option.map_eq_some_iff.mp found
    have isMark : mark <+: [] := isSome_after?_iff.mp (Option.isSome_of_mem isAfter)
    exact absurd (List.prefix_nil.mp isMark) nonempty
  | cons c rest ih =>
    rw [cut?] at found
    split at found
    · cases found
      exact ⟨List.nil_prefix, fun marked => nonempty (List.infix_nil.mp marked)⟩
    · rename_i elsewhere
      obtain ⟨⟨inner, tail⟩, isCut, same⟩ := Option.map_eq_some_iff.mp found
      cases same
      obtain ⟨starts, unmarked⟩ := ih isCut
      have longer : c :: inner <+: c :: rest := List.cons_prefix_cons.mpr ⟨rfl, starts⟩
      refine ⟨longer, fun marked => ?_⟩
      rcases List.infix_cons_iff.mp marked with atStart | later
      · have here := isSome_after?_iff.mpr (atStart.trans longer)
        rw [elsewhere] at here
        cases here
      · exact unmarked later

/-! ### Characters -/

section

variable {mark : Char} {before after : Text}

theorem cutAt?_cons (mark c : Char) (rest : Text) :
    cutAt? mark (c :: rest) =
      if c == mark then some ([], rest)
      else (cutAt? mark rest).map fun cut => (c :: cut.1, cut.2) := by
  unfold cutAt? cutWhere?
  by_cases here : (c == mark) = true
  · simp [here]
  · simp only [List.dropWhile_cons, List.takeWhile_cons, here, Bool.not_false, if_true, if_false,
      Bool.false_eq_true]
    cases rest.dropWhile (fun c => ! c == mark) <;> rfl

/-- **A text is cut at its first mark.** -/
theorem cutAt?_eq_some_iff :
    cutAt? mark t = some (before, after) ↔ t = before ++ mark :: after ∧ mark ∉ before := by
  induction t generalizing before with
  | nil =>
    refine ⟨fun cut => (by cases cut), ?_⟩
    rintro ⟨whole, -⟩
    exact absurd whole (by simp)
  | cons c rest ih =>
    rw [cutAt?_cons]
    split
    · rename_i here
      obtain rfl := beq_iff_eq.mp here
      constructor
      · intro cut
        cases cut
        exact ⟨rfl, List.not_mem_nil⟩
      · rintro ⟨whole, missing⟩
        cases before with
        | nil =>
          obtain ⟨-, rfl⟩ := List.cons.inj whole
          rfl
        | cons d more =>
          obtain ⟨rfl, -⟩ := List.cons.inj whole
          exact absurd List.mem_cons_self missing
    · rename_i other
      have different : c ≠ mark := by simpa using other
      constructor
      · intro cut
        obtain ⟨⟨inner, last⟩, isCut, shown⟩ := Option.map_eq_some_iff.mp cut
        obtain ⟨rfl, rfl⟩ := Prod.mk.inj shown
        obtain ⟨rfl, missing⟩ := ih.mp isCut
        exact ⟨rfl, by simp [different.symm, missing]⟩
      · rintro ⟨whole, missing⟩
        cases before with
        | nil => exact absurd (List.cons.inj whole).1 different
        | cons d more =>
          obtain ⟨rfl, rfl⟩ := List.cons.inj whole
          rw [ih.mpr ⟨rfl, fun member => missing (List.mem_cons_of_mem _ member)⟩]
          rfl

theorem cutAt?_eq_none_iff : cutAt? mark t = none ↔ mark ∉ t := by
  have ends : cutAt? mark t = none ↔ t.dropWhile (fun c => ! c == mark) = [] := by
    unfold cutAt? cutWhere?
    cases t.dropWhile (fun c => ! c == mark) <;> simp
  rw [ends, List.dropWhile_eq_nil_iff]
  constructor
  · intro others member
    exact absurd (others mark member) (by simp)
  · intro missing c member
    have other : c ≠ mark := fun same => missing (same ▸ member)
    simpa using other

/-- **What stands behind a text** without a mark is cut at its own first one. -/
theorem cutAt?_append (missing : mark ∉ t) (more : Text) :
    cutAt? mark (t ++ more) = (cutAt? mark more).map fun cut => (t ++ cut.1, cut.2) := by
  induction t with
  | nil => simp
  | cons c rest ih =>
    obtain ⟨different, missing⟩ := List.ne_and_not_mem_of_not_mem_cons missing
    rw [List.cons_append, cutAt?_cons, if_neg (by simpa using different.symm), ih missing,
      Option.map_map]
    rfl

end

/-! ### Parts of a text -/

/-- What stands before a mark is part of the text. -/
theorem cut?_subset {mark t before after : Text} (found : cut? mark t = some (before, after)) :
    before ⊆ t := by
  induction t generalizing before after with
  | nil =>
    obtain ⟨rest, -, same⟩ := Option.map_eq_some_iff.mp found
    rw [← (Prod.mk.inj same).1]
    exact List.Subset.refl _
  | cons c rest ih =>
    rw [cut?] at found
    split at found
    · rw [← (Prod.mk.inj (Option.some.inj found)).1]
      exact List.nil_subset _
    · obtain ⟨⟨inner, tail⟩, foundInner, same⟩ := Option.map_eq_some_iff.mp found
      rw [← (Prod.mk.inj same).1]
      exact List.cons_subset_cons c (ih foundInner)

theorem cutAt?_subset {mark : Char} {t before after : Text}
    (found : cutAt? mark t = some (before, after)) : before ⊆ t ∧ after ⊆ t := by
  obtain ⟨rfl, -⟩ := cutAt?_eq_some_iff.mp found
  exact ⟨List.subset_append_left _ _, fun c member =>
    List.mem_append_right _ (List.mem_cons_of_mem _ member)⟩

theorem after?_subset {mark t rest : Text} (found : after? mark t = some rest) : rest ⊆ t := by
  rw [after?_eq_some_iff.mp found]
  exact List.subset_append_right _ _

theorem trimEnd_isPrefix (t : Text) : trimEnd t <+: t := by
  obtain ⟨taken, same⟩ := exists_append_trimEnd t
  exact ⟨taken, same.symm⟩

theorem trim_isInfix (t : Text) : trim t <:+: t :=
  (trimEnd_isPrefix _).isInfix.trans (List.dropWhile_suffix _).isInfix

end ReferencePages.Text
