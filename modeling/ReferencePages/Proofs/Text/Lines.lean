/-
**Lines and the texts they make.**

A text is its lines with a break between each two of them. The lines of joined lines are those lines
again, as long as none holds a break and none ends with a carriage return (`IsLine`):

* `lines_joinLines`, `lines_joinLines_break`: the lines of joined lines, without and with a break
  behind the last one;
* `joinParagraphs_joinLines`: paragraphs are joined lines, with an empty line before each but the
  first;
* `Smooth`: no carriage return of the text stands right before a break. Such a text is made of lines
  (`isLine_of_mem_splitOn`), and a text joined from lines is smooth (`smooth_joinLines`).
-/

import Mathlib.Data.List.Chain
import ReferencePages.Text.Basic

namespace ReferencePages.Text

/-! ### Lines -/

/-- A line that a text can hold: no break in it and no carriage return at its end. -/
structure IsLine (line : Line) : Prop where
  unbroken : '\n' ∉ line
  noReturn : line.getLast? ≠ some '\r'

theorem IsLine.nil : IsLine [] := ⟨List.not_mem_nil, by simp⟩

/-- A line that goes on with a line that is not empty. -/
theorem IsLine.append {first second : Text} (unbroken : '\n' ∉ first) (line : IsLine second)
    (written : second ≠ []) : IsLine (first ++ second) := by
  refine ⟨?_, ?_⟩
  · rw [List.mem_append]
    exact fun member => member.elim unbroken line.unbroken
  · rw [List.getLast?_append_of_ne_nil _ written]
    exact line.noReturn

/-- A line that ends with a given character. -/
theorem IsLine.concat {first : Text} {last : Char} (unbroken : '\n' ∉ first) (noBreak : last ≠ '\n')
    (noReturn : last ≠ '\r') : IsLine (first ++ [last]) := by
  refine IsLine.append unbroken ⟨?_, ?_⟩ (List.cons_ne_nil _ _)
  · rw [List.mem_singleton]
    exact noBreak.symm
  · simpa using noReturn

theorem dropReturn_of_isLine {line : Line} (isLine : IsLine line) : dropReturn line = line := by
  unfold dropReturn
  rw [if_neg isLine.noReturn]

/-! ### Joined lines -/

@[simp] theorem joinLines_nil : joinLines [] = [] := rfl

@[simp] theorem joinLines_singleton (line : Text) : joinLines [line] = line := by
  unfold joinLines join
  exact List.intercalate_singleton

theorem joinLines_cons (line : Text) {rest : List Text} (more : rest ≠ []) :
    joinLines (line :: rest) = line ++ '\n' :: joinLines rest := by
  unfold joinLines join
  rw [List.intercalate_cons_of_ne_nil more]
  simp

theorem joinLines_append {first second : List Text} (nonempty : first ≠ []) (more : second ≠ []) :
    joinLines (first ++ second) = joinLines first ++ '\n' :: joinLines second := by
  induction first with
  | nil => exact absurd rfl nonempty
  | cons line rest ih =>
    by_cases last : rest = []
    · subst last
      rw [List.singleton_append, joinLines_cons line more, joinLines_singleton]
    · rw [List.cons_append, joinLines_cons line (List.append_ne_nil_of_left_ne_nil last _), ih last,
        joinLines_cons line last, List.append_assoc, List.cons_append]

/-- Joined lines end with the last line, and a break stands before it if anything does. -/
theorem joinLines_concat (before : List Text) (last : Text) :
    ∃ above, joinLines (before ++ [last]) = above ++ last ∧
      (above = [] ∨ above.getLast? = some '\n') := by
  by_cases alone : before = []
  · refine ⟨[], ?_, Or.inl rfl⟩
    rw [alone, List.nil_append, joinLines_singleton, List.nil_append]
  · refine ⟨joinLines before ++ ['\n'], ?_, Or.inr List.getLast?_concat⟩
    rw [joinLines_append alone (List.cons_ne_nil _ _), joinLines_singleton, List.append_assoc]
    rfl

/-- A break behind joined lines starts one more line, an empty one. -/
theorem joinLines_break {ls : List Text} (nonempty : ls ≠ []) :
    joinLines ls ++ ['\n'] = joinLines (ls ++ [[]]) := by
  rw [joinLines_append nonempty (List.cons_ne_nil _ _), joinLines_singleton]

@[simp] theorem joinParagraphs_singleton (t : Text) : joinParagraphs [t] = t := by
  unfold joinParagraphs join
  exact List.intercalate_singleton

theorem joinParagraphs_cons (t : Text) {rest : List Text} (more : rest ≠ []) :
    joinParagraphs (t :: rest) = t ++ '\n' :: '\n' :: joinParagraphs rest := by
  unfold joinParagraphs join
  rw [List.intercalate_cons_of_ne_nil more]
  simp

/-- **Paragraphs are lines**: an empty line stands before each paragraph but the first. -/
theorem joinParagraphs_joinLines (first : List Line) (nonempty : first ≠ []) (rest : List (List Line))
    (written : ∀ paragraph ∈ rest, paragraph ≠ []) :
    joinParagraphs (joinLines first :: rest.map joinLines) =
      joinLines (first ++ rest.flatMap ([] :: ·)) := by
  induction rest generalizing first with
  | nil =>
    rw [List.map_nil, List.flatMap_nil, List.append_nil, joinParagraphs_singleton]
  | cons second rest ih =>
    have secondWritten : second ≠ [] := written second List.mem_cons_self
    rw [List.map_cons, joinParagraphs_cons _ (List.cons_ne_nil _ _),
      ih second secondWritten fun paragraph member => written _ (List.mem_cons_of_mem _ member),
      List.flatMap_cons, joinLines_append nonempty (by simp), List.cons_append,
      joinLines_cons [] (List.append_ne_nil_of_left_ne_nil secondWritten _)]
    rfl

/-! ### The lines of a text -/

/-- No piece of a split text holds a character that the text was split at. -/
theorem not_separator_of_mem_splitOnP {p : Char → Bool} {t piece : Text}
    (member : piece ∈ t.splitOnP p) : ∀ c ∈ piece, p c = false := by
  induction t generalizing piece with
  | nil =>
    rw [List.splitOnP_nil, List.mem_singleton] at member
    rw [member]
    exact fun c inside => absurd inside List.not_mem_nil
  | cons first rest ih =>
    obtain ⟨head, tail, split⟩ := List.exists_cons_of_ne_nil (List.splitOnP_ne_nil p rest)
    rw [List.splitOnP_cons_eq_if_modifyHead, split] at member
    by_cases separates : p first = true
    · rw [if_pos separates] at member
      rcases List.mem_cons.mp member with rfl | later
      · exact fun c inside => absurd inside List.not_mem_nil
      · exact ih (split ▸ later)
    · rw [if_neg separates, List.modifyHead_cons] at member
      rcases List.mem_cons.mp member with rfl | later
      · intro c inside
        rcases List.mem_cons.mp inside with rfl | inside
        · simpa using separates
        · exact ih (split ▸ List.mem_cons_self) c inside
      · exact ih (split ▸ List.mem_cons_of_mem _ later)

theorem not_mem_of_mem_splitOn {mark : Char} {t line : Text} (member : line ∈ t.splitOn mark) :
    mark ∉ line := by
  rw [List.splitOn_eq_splitOnP] at member
  intro inside
  have different := not_separator_of_mem_splitOnP member _ inside
  simp at different

theorem not_mem_of_mem_lines {t : Text} {line : Line} (member : line ∈ lines t) : '\n' ∉ line := by
  unfold lines at member
  rcases List.mem_append.mp member with inner | last
  · obtain ⟨piece, inPieces, rfl⟩ := List.mem_map.mp inner
    have unbroken := not_mem_of_mem_splitOn (List.dropLast_subset _ inPieces)
    unfold dropReturn
    split
    · exact fun inside => unbroken (List.dropLast_subset _ inside)
    · exact unbroken
  · obtain ⟨inPieces, -⟩ := List.mem_filter.mp last
    exact not_mem_of_mem_splitOn (List.mem_of_getLast? (Option.mem_toList.mp inPieces))

/-- The lines of a text whose pieces are lines, the last of them not empty. -/
theorem lines_of_splitOn {t : Text} {before : List Line} {last : Line}
    (split : t.splitOn '\n' = before ++ [last]) (clean : ∀ line ∈ before, IsLine line) :
    lines t = before ++ [last].filter (! ·.isEmpty) := by
  unfold lines
  simp only [split, List.dropLast_concat, List.getLast?_concat, Option.toList_some]
  congr 1
  rw [List.map_congr_left fun line member => dropReturn_of_isLine (clean line member), List.map_id']

/-- **The lines of joined lines with a break behind them.** -/
theorem lines_joinLines_break {ls : List Line} (nonempty : ls ≠ []) (clean : ∀ line ∈ ls, IsLine line) :
    lines (joinLines ls ++ ['\n']) = ls := by
  have split : (joinLines ls ++ ['\n']).splitOn '\n' = ls ++ [[]] := by
    rw [joinLines_break nonempty]
    refine List.splitOn_intercalate '\n' (fun line member => ?_) (by simp)
    rcases List.mem_append.mp member with inside | last
    · exact (clean line inside).unbroken
    · rw [List.mem_singleton.mp last]
      exact List.not_mem_nil
  rw [lines_of_splitOn split clean]
  simp

/-- **The lines of joined lines**, the last of them not empty. -/
theorem lines_joinLines {ls : List Line} (clean : ∀ line ∈ ls, IsLine line)
    (written : ls.getLast? ≠ some []) : lines (joinLines ls) = ls := by
  rcases List.eq_nil_or_concat' ls with rfl | ⟨before, last, rfl⟩
  · rfl
  · have split : (joinLines (before ++ [last])).splitOn '\n' = before ++ [last] :=
      List.splitOn_intercalate '\n' (fun line member => (clean line member).unbroken) (by simp)
    rw [lines_of_splitOn split fun line member => clean line (List.mem_append_left _ member)]
    have notEmpty : last.isEmpty = false := by
      rw [List.getLast?_concat] at written
      simpa using written
    simp [notEmpty]

/-! ### Smooth texts -/

/-- No carriage return stands right before a break. -/
def Smooth (t : Text) : Prop := t.IsChain fun c next => ¬ (c = '\r' ∧ next = '\n')

theorem Smooth.left {first second : Text} (smooth : Smooth (first ++ second)) : Smooth first :=
  List.IsChain.left_of_append smooth

theorem Smooth.right {first second : Text} (smooth : Smooth (first ++ second)) : Smooth second :=
  List.IsChain.right_of_append smooth

/-- A text without a break is smooth. -/
theorem smooth_of_not_mem {t : Text} (unbroken : '\n' ∉ t) : Smooth t := by
  induction t with
  | nil => exact .nil
  | cons c rest ih =>
    rw [List.mem_cons, not_or] at unbroken
    refine List.IsChain.cons (ih unbroken.2) fun next head => ?_
    rintro ⟨-, rfl⟩
    exact unbroken.2 (List.mem_of_mem_head? head)

/-- **A text joined from lines is smooth.** -/
theorem smooth_joinLines {ls : List Line} (clean : ∀ line ∈ ls, IsLine line) :
    Smooth (joinLines ls) := by
  induction ls with
  | nil => exact .nil
  | cons line rest ih =>
    have first := clean line List.mem_cons_self
    have others := ih fun other member => clean other (List.mem_cons_of_mem _ member)
    by_cases last : rest = []
    · subst last
      rw [joinLines_singleton]
      exact smooth_of_not_mem first.unbroken
    · rw [joinLines_cons line last]
      refine List.IsChain.append (smooth_of_not_mem first.unbroken) ?_ ?_
      · exact List.IsChain.cons others fun next _ => by simp
      · rintro c inLast next - ⟨rfl, -⟩
        exact first.noReturn inLast

/-- **A smooth text is made of lines.** -/
theorem isLine_of_mem_splitOn {t : Text} (smooth : Smooth t) (last : t.getLast? ≠ some '\r') :
    ∀ line ∈ t.splitOn '\n', IsLine line := by
  have noReturn : ∀ ls : List Line, Smooth (joinLines ls) → (joinLines ls).getLast? ≠ some '\r' →
      ∀ line ∈ ls, line.getLast? ≠ some '\r' := by
    intro ls
    induction ls with
    | nil => exact fun _ _ line member => absurd member List.not_mem_nil
    | cons first rest ih =>
      intro smooth last line member
      by_cases alone : rest = []
      · subst alone
        rw [List.mem_singleton.mp member]
        rwa [joinLines_singleton] at last
      · rw [joinLines_cons first alone] at smooth last
        rcases List.mem_cons.mp member with rfl | member
        · intro ends
          exact (List.isChain_append.mp smooth).2.2 '\r' ends '\n' rfl ⟨rfl, rfl⟩
        · refine ih (List.IsChain.tail smooth.right) (fun ends => last ?_) line member
          rw [List.getLast?_append_of_ne_nil _ (List.cons_ne_nil _ _), List.getLast?_cons, ends]
          rfl
  intro line member
  have joined : joinLines (t.splitOn '\n') = t := List.intercalate_splitOn '\n'
  refine ⟨not_mem_of_mem_splitOn member, noReturn _ ?_ ?_ line member⟩
  · rwa [joined]
  · rwa [joined]

end ReferencePages.Text
