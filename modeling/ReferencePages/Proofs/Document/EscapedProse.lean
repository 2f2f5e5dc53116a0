/-
**Prose below a document.**

Free text is shown with a backslash before its lines that would be headings. The shown text is read again
as part of a document: a carriage return at the end of a line goes with the break then, and so does an
empty last line. Neither is part of a fence or of a heading.

* `escapeLines_eq_shownLines`: which lines get a backslash;
* `lines_append_of_ended`: a document that ends with a break, and the lines of what follows it;
* `fenceAfterAll_lines_escapeText`: the shown text opens and closes the fences that the text does;
* `unmarked_escapeText`: **the shown text holds no heading**, whatever fences it opens, mixes up or
  leaves open;
* `headings_append_escapeText`: so a document has the same headings with it and without it.
-/

import ReferencePages.Proofs.Document.Outline
import ReferencePages.Proofs.Document.Ranges

namespace ReferencePages

open Text Markdown

namespace Document

/-! ### Which lines are escaped -/

/-- The lines, with a backslash before each that starts with `#` where no fence is open. -/
def shownLines (ls : List Line) : List Line :=
  ls.mapIdx fun i line =>
    if fenceAfterAll none (ls.take i) = none ∧ line.head? = some '#' then '\\' :: line else line

theorem escapeLine_eq_ite (fence : Option Fence) (line : Line) :
    escapeLine fence line = if fence = none ∧ line.head? = some '#' then '\\' :: line else line := by
  unfold escapeLine
  by_cases start : line.head? = some '#'
  · cases fence with
    | none => simp [start, isProse, fenceOpened?_of_hash start]
    | some opened => simp [start, isProse]
  · simp [start]

theorem escapeLines_eq_mapIdx (fence : Option Fence) (ls : List Line) :
    escapeLines fence ls = ls.mapIdx fun i line =>
      if fenceAfterAll fence (ls.take i) = none ∧ line.head? = some '#' then '\\' :: line else line := by
  induction ls generalizing fence with
  | nil => rfl
  | cons first rest ih =>
    rw [escapeLines, escapeLine_eq_ite, ih, List.mapIdx_cons]
    rfl

/-- **Which lines get a backslash.** -/
theorem escapeLines_eq_shownLines (ls : List Line) : escapeLines none ls = shownLines ls :=
  escapeLines_eq_mapIdx none ls

theorem escapeLines_append (fence : Option Fence) (first second : List Line) :
    escapeLines fence (first ++ second) =
      escapeLines fence first ++ escapeLines (fenceAfterAll fence first) second := by
  induction first generalizing fence with
  | nil => rfl
  | cons line rest ih =>
    rw [List.cons_append, escapeLines, ih]
    rfl

/-! ### Lines that are read back -/

/-- **A document that ends with a break**, and what follows it. -/
theorem lines_append_of_ended {d : Text} (ended : ∀ c ∈ d.getLast?, c = '\n') (t : Text) :
    lines (d ++ t) = lines d ++ lines t := by
  rcases List.eq_nil_or_concat' d with rfl | ⟨before, c, rfl⟩
  · rfl
  · obtain rfl : c = '\n' := ended c (by rw [List.getLast?_concat]; rfl)
    have pieces := List.splitOn_ne_nil '\n' t
    rw [lines_break, List.append_assoc, List.singleton_append]
    unfold lines brokenLines
    dsimp only
    rw [splitOn_append_break, List.dropLast_append_of_ne_nil pieces, List.map_append, List.append_assoc,
      List.getLast?_append_of_ne_nil _ pieces]

theorem splitOn_escapeText {t : Text} (nonempty : lines t ≠ []) :
    (escapeText t).splitOn '\n' = escapeLines none (lines t) := by
  refine List.splitOn_intercalate '\n'
    (unbroken_escapeLines (fun line => not_mem_of_mem_lines) none) ?_
  obtain ⟨first, rest, isLines⟩ := List.exists_cons_of_ne_nil nonempty
  rw [isLines]
  exact List.cons_ne_nil _ _

theorem escapeText_of_nil {t : Text} (empty : lines t = []) : escapeText t = [] := by
  rw [escapeText, empty]
  rfl

/-- **The shown text opens and closes the fences that the text does.** -/
theorem fenceAfterAll_lines_escapeText (t : Text) :
    fenceAfterAll none (lines (escapeText t)) = fenceAfterAll none (lines t) := by
  by_cases empty : lines t = []
  · rw [escapeText_of_nil empty, empty]
    rfl
  · rw [fenceAfterAll_lines, splitOn_escapeText empty, fenceAfterAll_escapeLines]

/-- **The shown text holds no heading.** -/
theorem unmarked_escapeText (t : Text) : ∀ line ∈ marked (escapeText t), line.heading = none := by
  unfold marked
  rcases List.eq_nil_or_concat' (lines t) with empty | ⟨before, last, isLines⟩
  · rw [escapeText_of_nil empty]
    exact fun line member => absurd member List.not_mem_nil
  · -- every line but the last loses its carriage return when it is read back
    have pieces := splitOn_escapeText (t := t) (by simp [isLines])
    rw [isLines, escapeLines_append] at pieces
    have lastMarks := markLines_escapeLines (fenceAfterAll none before) [last]
    have back : lines (escapeText t) = (escapeLines none before).map dropReturn ++
        (escapeLines (fenceAfterAll none before) [last]).filter (! ·.isEmpty) := by
      unfold lines
      simp only [pieces, escapeLines, List.dropLast_concat, List.getLast?_concat, Option.toList_some]
    rw [back, markLines_append, fenceAfterAll_dropReturn, fenceAfterAll_escapeLines]
    intro line member
    rcases List.mem_append.mp member with above | isLast
    · exact markLines_dropReturn_escapeLines none before line above
    · rw [escapeLines, escapeLines, List.filter_cons, List.filter_nil] at isLast
      split at isLast
      · exact lastMarks line isLast
      · cases isLast

theorem headingsFrom_eq_nil {ls : List MarkedLine} (unmarked : ∀ line ∈ ls, line.heading = none)
    (pos : Nat) : headingsFrom pos ls = [] := by
  induction ls generalizing pos with
  | nil => rfl
  | cons line rest ih =>
    obtain ⟨here, below⟩ := List.forall_mem_cons.mp unmarked
    rw [headingsFrom, here, ih below]
    rfl

/-- **Prose below a document adds no heading to it.** The document is empty or ends with a break, and
closes its fences. The fence that is open behind the prose is the one that the text leaves open. The lines
of the prose are the lines of the text, with a backslash before each that starts with `#` where the text
has no fence open. -/
theorem headings_append_escapeText {d : Text} (ended : ∀ c ∈ d.getLast?, c = '\n')
    (closed : ClosesFences d) (t : Text) :
    headings (d ++ escapeText t) = headings d ∧
      fenceAfterAll none (lines (d ++ escapeText t)) = fenceAfterAll none (lines t) ∧
      escapeText t = joinLines (shownLines (lines t)) ∧
      (lines t ≠ [] → (escapeText t).splitOn '\n' = shownLines (lines t)) := by
  have apart := lines_append_of_ended ended (escapeText t)
  refine ⟨?_, ?_, ?_, fun nonempty => ?_⟩
  · have nothing := headingsFrom_eq_nil (unmarked_escapeText t)
    unfold headings
    unfold marked at nothing ⊢
    rw [apart, markLines_append, closed, headingsFrom_append, nothing, List.append_nil]
  · rw [apart, fenceAfterAll_append, closed, fenceAfterAll_lines_escapeText]
  · rw [← escapeLines_eq_shownLines, escapeText]
  · rw [splitOn_escapeText nonempty, escapeLines_eq_shownLines]

/-- Prose with a fence in the other kind of fence, the outer one left open. -/
def fencedProse : Text := "Intro.\n# One\n  ```\n# two\n~~~\n```\n#three\n~~~ text\n\n# four\n".toList

theorem headings_append_escapeText_sample :
    headings ("# Title\n".toList ++ escapeText fencedProse) = [(⟨1, "Title".toList⟩, 0)] ∧
      fenceAfterAll none (lines ("# Title\n".toList ++ escapeText fencedProse)) = some .tildes ∧
      escapeText fencedProse =
        "Intro.\n\\# One\n  ```\n# two\n~~~\n```\n\\#three\n~~~ text\n\n# four".toList := by
  have ended : ∀ c ∈ "# Title\n".toList.getLast?, c = '\n' := by
    have last : "# Title\n".toList.getLast? = some '\n' := by decide +kernel
    rw [last]
    rintro c ⟨⟩
    rfl
  have closed : ClosesFences "# Title\n".toList := by decide +kernel
  obtain ⟨same, fence, shown, -⟩ := headings_append_escapeText ended closed fencedProse
  refine ⟨same.trans (by decide +kernel), fence.trans (by decide +kernel), ?_⟩
  rw [shown]
  decide +kernel

end Document

end ReferencePages
