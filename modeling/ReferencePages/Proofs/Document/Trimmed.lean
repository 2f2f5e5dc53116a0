/-
**Trimming prose.**

A description is trimmed before it is shown. The blanks around it do not matter to the layout:

* `fenceAfterAll_cons_blank`, `fenceAfterAll_concat_blank`: a blank at either end of a text opens and
  closes no fence, whether it is a break or stands on the first or last line;
* `closesFences_trim`: a text closes its fences when it is trimmed if it does so before;
* `endsWithRule_of_trim`: a text without carriage returns ends with a rule when it is trimmed only if
  it does so before.
-/

import ReferencePages.Proofs.Document.Paragraphs
import ReferencePages.Proofs.Text.Replace

namespace ReferencePages

open Text Markdown

namespace Document

/-! ### Pieces of a text -/

theorem splitOn_cons_break (t : Text) : ('\n' :: t).splitOn '\n' = [] :: t.splitOn '\n' := by
  rw [List.splitOn_eq_splitOnP, List.splitOn_eq_splitOnP, List.splitOnP_cons_eq_if_modifyHead]
  rfl

theorem splitOn_cons {c : Char} (noBreak : c ≠ '\n') (t : Text) :
    (c :: t).splitOn '\n' = (t.splitOn '\n').modifyHead (c :: ·) := by
  rw [List.splitOn_eq_splitOnP, List.splitOn_eq_splitOnP, List.splitOnP_cons_eq_if_modifyHead,
    if_neg (by simpa using noBreak)]

theorem joinLines_concat_append (before : List Text) (last more : Text) :
    joinLines (before ++ [last ++ more]) = joinLines (before ++ [last]) ++ more := by
  by_cases alone : before = []
  · rw [alone, List.nil_append, List.nil_append, joinLines_singleton, joinLines_singleton]
  · rw [joinLines_append alone (by simp), joinLines_append alone (by simp), joinLines_singleton,
      joinLines_singleton]
    simp

/-- A character behind a text goes to the last piece. -/
theorem splitOn_concat {t : Text} {before : List Line} {last : Line}
    (split : t.splitOn '\n' = before ++ [last]) {c : Char} (noBreak : c ≠ '\n') :
    (t ++ [c]).splitOn '\n' = before ++ [last ++ [c]] := by
  have joined : joinLines (before ++ [last]) = t := by
    rw [← split]
    exact List.intercalate_splitOn '\n'
  have whole : t ++ [c] = joinLines (before ++ [last ++ [c]]) := by
    rw [joinLines_concat_append, joined]
  rw [whole]
  refine List.splitOn_intercalate '\n' (fun line member => ?_) (by simp)
  rcases List.mem_append.mp member with inBefore | isLast
  · exact not_mem_of_mem_splitOn (by rw [split]; exact List.mem_append_left _ inBefore)
  · have lastUnbroken : '\n' ∉ last := not_mem_of_mem_splitOn (t := t) (by rw [split]; simp)
    rw [List.mem_singleton.mp isLast]
    simp [lastUnbroken, Ne.symm noBreak]

theorem splitOn_concat_break (t : Text) : (t ++ ['\n']).splitOn '\n' = t.splitOn '\n' ++ [[]] := by
  have whole : t ++ ['\n'] = joinLines (t.splitOn '\n' ++ [[]]) := by
    rw [← joinLines_break (List.splitOn_ne_nil _ _)]
    exact congrArg (· ++ ['\n']) (List.intercalate_splitOn '\n').symm
  rw [whole]
  refine List.splitOn_intercalate '\n' (fun line member => ?_) (by simp)
  rcases List.mem_append.mp member with inside | isLast
  · exact not_mem_of_mem_splitOn inside
  · rw [List.mem_singleton.mp isLast]
    exact List.not_mem_nil

/-! ### Fences -/

theorem fenceAfter_nil (fence : Option Fence) : fenceAfter fence [] = fence := by
  cases fence with
  | none => rfl
  | some opened => cases opened <;> rfl

theorem marks_cons_blank (fence : Fence) {c : Char} (blank : isBlank c = true) (line : Line) :
    fence.marks (c :: line) = fence.marks line := by
  unfold Fence.marks
  have same : trimStart (c :: line) = trimStart line := List.dropWhile_cons_of_pos blank
  rw [same]

/-- The mark of a fence holds no blanks, so a blank behind a line is none of it. -/
theorem marks_concat_blank (fence : Fence) {c : Char} (blank : isBlank c = true) (line : Line) :
    fence.marks (line ++ [c]) = fence.marks line := by
  have written : fence.mark.all (! isBlank ·) = true := by
    cases fence with
    | backticks => decide
    | tildes => decide
  have other : c ∉ fence.mark := by
    intro inside
    have notBlank := List.all_eq_true.mp written c inside
    rw [blank] at notBlank
    cases notBlank
  unfold Fence.marks
  by_cases allBlanks : ∀ d ∈ line, isBlank d = true
  · have none : trimStart line = [] := List.dropWhile_eq_nil_iff.mpr allBlanks
    have start : trimStart (line ++ [c]) = [] := by
      refine List.dropWhile_eq_nil_iff.mpr fun d member => ?_
      rcases List.mem_append.mp member with inLine | isLast
      · exact allBlanks d inLine
      · rwa [List.mem_singleton.mp isLast]
    rw [none, start]
  · have start : trimStart (line ++ [c]) = trimStart line ++ [c] := by
      unfold trimStart
      rw [List.dropWhile_append, if_neg]
      rw [List.isEmpty_iff, List.dropWhile_eq_nil_iff]
      exact allBlanks
    rw [start, opensWith_append_cons other]

/-- Lines with the same marks leave the same fence open. -/
theorem fenceAfter_congr {first second : Line}
    (same : ∀ fence : Fence, fence.marks first = fence.marks second) (fence : Option Fence) :
    fenceAfter fence first = fenceAfter fence second := by
  cases fence with
  | none =>
    unfold fenceAfter fenceOpened?
    rw [same, same]
  | some opened =>
    show (if opened.marks first then none else some opened) =
      if opened.marks second then none else some opened
    rw [same]

/-- Lines that keep their marks open and close the same fences. -/
theorem fenceAfterAll_map {ls : List Line} {change : Line → Line}
    (same : ∀ line ∈ ls, ∀ fence : Fence, fence.marks (change line) = fence.marks line)
    (fence : Option Fence) : fenceAfterAll fence (ls.map change) = fenceAfterAll fence ls := by
  induction ls generalizing fence with
  | nil => rfl
  | cons first rest ih =>
    obtain ⟨sameFirst, sameRest⟩ := List.forall_mem_cons.mp same
    show fenceAfterAll (fenceAfter fence (change first)) (rest.map change) = _
    rw [fenceAfter_congr sameFirst, ih sameRest]
    rfl

/-- **A blank at the start of a text opens no fence.** -/
theorem fenceAfterAll_cons_blank {c : Char} (blank : isBlank c = true) (t : Text) :
    fenceAfterAll none ((c :: t).splitOn '\n') = fenceAfterAll none (t.splitOn '\n') := by
  by_cases isBreak : c = '\n'
  · rw [isBreak, splitOn_cons_break]
    rfl
  · rw [splitOn_cons isBreak]
    obtain ⟨first, rest, split⟩ := List.exists_cons_of_ne_nil (List.splitOn_ne_nil '\n' t)
    rw [split, List.modifyHead_cons]
    show fenceAfterAll (fenceAfter none (c :: first)) rest = fenceAfterAll (fenceAfter none first) rest
    rw [fenceAfter_congr fun fence => marks_cons_blank fence blank first]

/-- **A blank at the end of a text opens no fence.** -/
theorem fenceAfterAll_concat_blank {c : Char} (blank : isBlank c = true) (t : Text) :
    fenceAfterAll none ((t ++ [c]).splitOn '\n') = fenceAfterAll none (t.splitOn '\n') := by
  by_cases isBreak : c = '\n'
  · rw [isBreak, splitOn_concat_break, fenceAfterAll_append]
    exact fenceAfter_nil _
  · obtain ⟨before, last, split⟩ :=
      (List.eq_nil_or_concat' (t.splitOn '\n')).resolve_left (List.splitOn_ne_nil _ _)
    rw [splitOn_concat split isBreak, split, fenceAfterAll_append, fenceAfterAll_append]
    exact fenceAfter_congr (fun fence => marks_concat_blank fence blank last) _

theorem fenceAfterAll_trim (t : Text) :
    fenceAfterAll none ((trim t).splitOn '\n') = fenceAfterAll none (t.splitOn '\n') := by
  have start : ∀ t : Text, fenceAfterAll none ((trimStart t).splitOn '\n') =
      fenceAfterAll none (t.splitOn '\n') := by
    intro t
    induction t with
    | nil => rfl
    | cons c rest ih =>
      by_cases blank : isBlank c = true
      · have same : trimStart (c :: rest) = trimStart rest := List.dropWhile_cons_of_pos blank
        rw [same, ih, fenceAfterAll_cons_blank blank]
      · have same : trimStart (c :: rest) = c :: rest := List.dropWhile_cons_of_neg blank
        rw [same]
  have ends : ∀ t : Text, fenceAfterAll none ((trimEnd t).splitOn '\n') =
      fenceAfterAll none (t.splitOn '\n') := by
    intro t
    induction t using List.reverseRecOn with
    | nil => rfl
    | append_singleton before c ih =>
      by_cases blank : isBlank c = true
      · rw [trimEnd_concat_blank before blank, ih, fenceAfterAll_concat_blank blank]
      · rw [trimEnd_of_endsWritten ⟨before, c, rfl, by simpa using blank⟩]
  unfold trim
  rw [ends, start]

/-! ### Carriage returns -/

theorem marks_dropReturn (fence : Fence) (line : Line) :
    fence.marks (dropReturn line) = fence.marks line := by
  unfold dropReturn
  split
  · rename_i ends
    obtain ⟨before, rfl⟩ := List.getLast?_eq_some_iff.mp ends
    rw [List.dropLast_concat, marks_concat_blank fence isBlank_return]
  · rfl

theorem fenceAfterAll_dropReturn (fence : Option Fence) (ls : List Line) :
    fenceAfterAll fence (ls.map dropReturn) = fenceAfterAll fence ls :=
  fenceAfterAll_map (fun line _ opened => marks_dropReturn opened line) fence

/-- The lines of a text open and close the fences that its pieces do. -/
theorem fenceAfterAll_lines (t : Text) :
    fenceAfterAll none (lines t) = fenceAfterAll none (t.splitOn '\n') := by
  obtain ⟨before, last, split⟩ :=
    (List.eq_nil_or_concat' (t.splitOn '\n')).resolve_left (List.splitOn_ne_nil _ _)
  unfold lines
  simp only [split, List.dropLast_concat, List.getLast?_concat, Option.toList_some]
  rw [fenceAfterAll_append, fenceAfterAll_append, fenceAfterAll_dropReturn]
  cases last with
  | nil => exact (fenceAfter_nil _).symm
  | cons c rest => rfl

/-- **A text closes its fences when it is trimmed** if it does so before. -/
theorem closesFences_trim {t : Text} (closed : ClosesFences t) : ClosesFences (trim t) := by
  unfold ClosesFences at closed ⊢
  rw [fenceAfterAll_lines, fenceAfterAll_trim, ← fenceAfterAll_lines, closed]

/-! ### Texts without carriage returns -/

theorem smooth_of_noReturn {t : Text} (noReturn : '\r' ∉ t) : Smooth t := by
  induction t with
  | nil => exact .nil
  | cons c rest ih =>
    rw [List.mem_cons, not_or] at noReturn
    refine List.IsChain.cons (ih noReturn.2) fun next _ => ?_
    rintro ⟨rfl, -⟩
    exact noReturn.1 rfl

/-- Blanks before a text do not change its last line but for the blanks it starts with. -/
theorem trim_getLast?_splitOn {blanks : Text} (blank : ∀ c ∈ blanks, isBlank c = true) (t : Text) :
    ((blanks ++ t).splitOn '\n').getLast?.map trim = (t.splitOn '\n').getLast?.map trim := by
  induction blanks with
  | nil => rfl
  | cons c rest ih =>
    have here := blank c List.mem_cons_self
    rw [List.cons_append, ← ih fun d member => blank d (List.mem_cons_of_mem _ member)]
    obtain ⟨first, more, split⟩ := List.exists_cons_of_ne_nil (List.splitOn_ne_nil '\n' (rest ++ t))
    by_cases isBreak : c = '\n'
    · rw [isBreak, splitOn_cons_break, List.getLast?_cons_of_ne_nil (List.splitOn_ne_nil _ _)]
    · rw [splitOn_cons isBreak, split, List.modifyHead_cons]
      by_cases alone : more = []
      · have same : trimStart (c :: first) = trimStart first := List.dropWhile_cons_of_pos here
        rw [alone]
        show some (trim (c :: first)) = some (trim first)
        unfold trim
        rw [same]
      · rw [List.getLast?_cons_of_ne_nil alone, List.getLast?_cons_of_ne_nil alone]

/-- **A text ends with a rule when it is trimmed** only if it does so before. -/
theorem endsWithRule_of_trim {t : Text} (noReturn : '\r' ∉ t) (ends : EndsWithRule (trim t)) :
    EndsWithRule t := by
  have pieces : ∀ u : Text, '\r' ∉ u → trimEnd u = u → u ≠ [] → lines u = u.splitOn '\n' :=
    fun u free trimmed nonempty => Tidy.lines_eq ⟨smooth_of_noReturn free, trimmed⟩ nonempty
  obtain ⟨last, isLast, isRule⟩ := ends
  rw [trimEnd_trim] at isLast
  have written : trim t ≠ [] := by
    intro empty
    rw [empty] at isLast
    cases isLast
  have shape : trimEnd t = t.takeWhile isBlank ++ trim t := by
    have whole : t.takeWhile isBlank ++ trimStart t = t := List.takeWhile_append_dropWhile
    have trimmed := trimEnd_append (t.takeWhile isBlank) written
    rwa [whole] at trimmed
  have blank : ∀ c ∈ t.takeWhile isBlank, isBlank c = true :=
    fun c member => List.mem_takeWhile_imp member
  have same := trim_getLast?_splitOn blank (trim t)
  rw [pieces _ (fun inside => noReturn (mem_of_mem_trim inside)) (trimEnd_trim t) written] at isLast
  rw [isLast, ← shape, Option.map_some, isRule] at same
  obtain ⟨shown, isShown, trims⟩ := Option.map_eq_some_iff.mp same
  refine ⟨shown, ?_, trims⟩
  rw [pieces _ (fun inside => noReturn (mem_of_mem_trimEnd inside)) (trimEnd_trimEnd t)]
  · exact isShown
  · rw [shape]
    exact List.append_ne_nil_of_right_ne_nil _ written

end Document

end ReferencePages
