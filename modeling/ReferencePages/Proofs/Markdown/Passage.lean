/-
**Passages: lines without headings.**

The scan for headings carries the fence that is open from line to line. A passage is a run of lines
that holds no heading and closes every fence it opens, so what follows it is scanned as if the
passage were not there:

* `markLines_append`: the scan of two runs of lines, the second from the fence that the first leaves
  open;
* `Passage.append`, `Passage.cons`, `passage_flatMap`: passages put together;
* `fenceAfterAll_escapeLines`, `markLines_escapeLines`: escaped lines open and close the fences that
  the lines open and close, and hold no heading, whatever the lines hold;
* `markLines_heading`: the scan of a heading and what follows it.
-/

import ReferencePages.Markdown.Escape
import ReferencePages.Markdown.Heading
import ReferencePages.Proofs.Text.Ends

namespace ReferencePages.Markdown

open Text

/-! ### The scan of several lines -/

theorem fenceAfterAll_append (fence : Option Fence) (first second : List Line) :
    fenceAfterAll fence (first ++ second) =
      fenceAfterAll (fenceAfterAll fence first) second := List.foldl_append

theorem markLines_append (fence : Option Fence) (first second : List Line) :
    markLines fence (first ++ second) =
      markLines fence first ++ markLines (fenceAfterAll fence first) second := by
  induction first generalizing fence with
  | nil => rfl
  | cons line rest ih =>
    rw [List.cons_append, markLines, ih, markLines, List.cons_append]
    rfl

@[simp] theorem map_text_markLines (fence : Option Fence) (ls : List Line) :
    (markLines fence ls).map (·.text) = ls := by
  induction ls generalizing fence with
  | nil => rfl
  | cons line rest ih => rw [markLines, List.map_cons, ih]

/-! ### Plain lines -/

/-- The line opens no fence and is no heading. -/
def IsPlain (line : Line) : Prop := fenceOpened? line = none ∧ heading? line = none

theorem heading?_of_head? {line : Line} (start : line.head? ≠ some '#') : heading? line = none := by
  have level : line.takeWhile (· == '#') = [] := by
    cases line with
    | nil => rfl
    | cons c rest =>
      rw [List.head?_cons] at start
      simp only [List.takeWhile_cons]
      rw [if_neg (by simpa using start)]
  unfold heading?
  simp [level]

theorem fenceOpened?_cons {c : Char} (rest : Text) (notBlank : isBlank c = false)
    (noBacktick : c ≠ '\x60') (noTilde : c ≠ '~') : fenceOpened? (c :: rest) = none := by
  have start : trimStart (c :: rest) = c :: rest := List.dropWhile_cons_of_neg (by simp [notBlank])
  simp [fenceOpened?, Fence.marks, Fence.mark, start, opensWith, noBacktick.symm, noTilde.symm]

theorem isPlain_nil : IsPlain [] := ⟨rfl, rfl⟩

/-- A line is plain by its first character. -/
theorem isPlain_cons {c : Char} (rest : Text) (notBlank : isBlank c = false) (noBacktick : c ≠ '\x60')
    (noTilde : c ≠ '~') (noHash : c ≠ '#') : IsPlain (c :: rest) :=
  ⟨fenceOpened?_cons rest notBlank noBacktick noTilde,
    heading?_of_head? (by simpa using noHash)⟩

/-! ### Passages -/

/-- Lines of a text that hold no heading and close every fence they open. -/
structure Passage (ls : List Line) : Prop where
  clean : ∀ line ∈ ls, IsLine line
  unmarked : ∀ line ∈ markLines none ls, line.heading = none
  closed : fenceAfterAll none ls = none

theorem Passage.nil : Passage [] :=
  ⟨fun _ member => absurd member List.not_mem_nil, fun _ member => absurd member List.not_mem_nil,
    rfl⟩

/-- **Two passages make one.** -/
theorem Passage.append {first second : List Line} (one : Passage first) (two : Passage second) :
    Passage (first ++ second) := by
  refine ⟨fun line member => ?_, fun line member => ?_, ?_⟩
  · exact (List.mem_append.mp member).elim (one.clean line) (two.clean line)
  · rw [markLines_append, one.closed] at member
    exact (List.mem_append.mp member).elim (one.unmarked line) (two.unmarked line)
  · rw [fenceAfterAll_append, one.closed, two.closed]

theorem passage_singleton {line : Line} (isLine : IsLine line) (plain : IsPlain line) :
    Passage [line] := by
  refine ⟨fun other member => ?_, fun other member => ?_, plain.1⟩
  · rwa [List.mem_singleton.mp member]
  · rw [markLines, markLines, List.mem_singleton] at member
    rw [member]
    simp only [plain.2, ite_self]

theorem Passage.cons {line : Line} {rest : List Line} (isLine : IsLine line) (plain : IsPlain line)
    (passage : Passage rest) : Passage (line :: rest) :=
  (passage_singleton isLine plain).append passage

theorem passage_of_plain {ls : List Line} (clean : ∀ line ∈ ls, IsLine line)
    (plain : ∀ line ∈ ls, IsPlain line) : Passage ls := by
  induction ls with
  | nil => exact Passage.nil
  | cons line rest ih =>
    exact (ih (fun other member => clean other (List.mem_cons_of_mem _ member))
      fun other member => plain other (List.mem_cons_of_mem _ member)).cons
      (clean line List.mem_cons_self) (plain line List.mem_cons_self)

/-- Paragraphs with an empty line before each. -/
theorem passage_flatMap {paragraphs : List (List Line)}
    (passages : ∀ paragraph ∈ paragraphs, Passage paragraph) :
    Passage (paragraphs.flatMap ([] :: ·)) := by
  induction paragraphs with
  | nil => exact Passage.nil
  | cons paragraph rest ih =>
    rw [List.flatMap_cons]
    exact ((passages paragraph List.mem_cons_self).cons IsLine.nil isPlain_nil).append
      (ih fun other member => passages other (List.mem_cons_of_mem _ member))

/-! ### Escaped lines -/

/-- An escaped line is the line, or the line behind a backslash. -/
theorem escapeLine_eq (fence : Option Fence) (line : Line) :
    escapeLine fence line = line ∨ escapeLine fence line = '\\' :: line := by
  unfold escapeLine
  split
  · exact Or.inr rfl
  · exact Or.inl rfl

theorem isPlain_backslash (line : Line) : IsPlain ('\\' :: line) :=
  isPlain_cons line (by decide) (by decide) (by decide) (by decide)

theorem fenceAfter_escapeLine (fence : Option Fence) (line : Line) :
    fenceAfter fence (escapeLine fence line) = fenceAfter fence line := by
  unfold escapeLine
  split
  · rename_i escaped
    simp only [isProse, Bool.and_eq_true, Option.isNone_iff_eq_none] at escaped
    obtain ⟨⟨noFence, noMark⟩, -⟩ := escaped
    rw [noFence, fenceAfter, fenceAfter, noMark, (isPlain_backslash line).1]
  · rfl

theorem fenceAfterAll_escapeLines (fence : Option Fence) (ls : List Line) :
    fenceAfterAll fence (escapeLines fence ls) = fenceAfterAll fence ls := by
  induction ls generalizing fence with
  | nil => rfl
  | cons line rest ih =>
    show fenceAfterAll (fenceAfter fence (escapeLine fence line))
      (escapeLines (fenceAfter fence line) rest) = fenceAfterAll (fenceAfter fence line) rest
    rw [fenceAfter_escapeLine, ih]

/-- **Escaped lines hold no heading.** -/
theorem markLines_escapeLines (fence : Option Fence) (ls : List Line) :
    ∀ line ∈ markLines fence (escapeLines fence ls), line.heading = none := by
  induction ls generalizing fence with
  | nil => exact fun line member => absurd member List.not_mem_nil
  | cons first rest ih =>
    rw [escapeLines, markLines, fenceAfter_escapeLine]
    intro line member
    rcases List.mem_cons.mp member with rfl | later
    · unfold escapeLine
      split
      · simp only [(isPlain_backslash first).2, ite_self]
      · rename_i notEscaped
        simp only [Bool.and_eq_true, decide_eq_true_eq, not_and] at notEscaped
        by_cases prose : isProse fence first = true
        · rw [if_pos prose]
          exact heading?_of_head? (notEscaped prose)
        · rw [if_neg prose]
    · exact ih _ line later

theorem isLine_escapeLines {ls : List Line} (clean : ∀ line ∈ ls, IsLine line)
    (fence : Option Fence) : ∀ line ∈ escapeLines fence ls, IsLine line := by
  induction ls generalizing fence with
  | nil => exact fun line member => absurd member List.not_mem_nil
  | cons first rest ih =>
    intro line member
    rw [escapeLines] at member
    rcases List.mem_cons.mp member with rfl | later
    · have isLine := clean first List.mem_cons_self
      rcases escapeLine_eq fence first with same | escaped
      · rwa [same]
      · rw [escaped]
        by_cases empty : first = []
        · subst empty
          exact IsLine.concat List.not_mem_nil (by decide) (by decide)
        · exact IsLine.append (by decide : '\n' ∉ ['\\']) isLine empty
    · exact ih (fun other inside => clean other (List.mem_cons_of_mem _ inside)) _ line later

/-- **Escaped lines that close their fences make a passage.** -/
theorem passage_escapeLines {ls : List Line} (clean : ∀ line ∈ ls, IsLine line)
    (closed : fenceAfterAll none ls = none) : Passage (escapeLines none ls) :=
  ⟨isLine_escapeLines clean none, markLines_escapeLines none ls, by
    rw [fenceAfterAll_escapeLines, closed]⟩

/-- The last of several escaped lines is the last line, perhaps behind a backslash. -/
theorem getLast?_escapeLines {ls : List Line} {last : Line} (ends : ls.getLast? = some last)
    (fence : Option Fence) :
    (escapeLines fence ls).getLast? = some last ∨
      (escapeLines fence ls).getLast? = some ('\\' :: last) := by
  induction ls generalizing fence with
  | nil => cases ends
  | cons first rest ih =>
    rw [escapeLines]
    by_cases alone : rest = []
    · subst alone
      cases ends
      rw [escapeLines, List.getLast?_singleton]
      rcases escapeLine_eq fence first with same | escaped
      · rw [same]
        exact Or.inl rfl
      · rw [escaped]
        exact Or.inr rfl
    · rw [List.getLast?_cons_of_ne_nil alone] at ends
      have more : escapeLines (fenceAfter fence first) rest ≠ [] := by
        cases rest with
        | nil => exact absurd rfl alone
        | cons second rest => exact List.cons_ne_nil _ _
      rw [List.getLast?_cons_of_ne_nil more]
      exact ih ends _

/-! ### Headings -/

theorem fenceOpened?_of_hash {line : Line} (start : line.head? = some '#') :
    fenceOpened? line = none := by
  cases line with
  | nil => cases start
  | cons c rest =>
    rw [List.head?_cons, Option.some.injEq] at start
    rw [start]
    exact fenceOpened?_cons rest (by decide) (by decide) (by decide)

/-- **The scan of a heading**, and of what follows it. -/
theorem markLines_heading {line : Line} {heading : Heading} (start : line.head? = some '#')
    (isHeading : heading? line = some heading) (rest : List Line) :
    markLines none (line :: rest) = ⟨line, some heading⟩ :: markLines none rest := by
  have noMark := fenceOpened?_of_hash start
  rw [markLines, fenceAfter, noMark]
  simp [isProse, noMark, isHeading]

theorem fenceAfterAll_heading {line : Line} (start : line.head? = some '#') (rest : List Line) :
    fenceAfterAll none (line :: rest) = fenceAfterAll none rest := by
  show fenceAfterAll (fenceOpened? line) rest = _
  rw [fenceOpened?_of_hash start]

/-- The heading that a line of one to six `#`, a space and a text is. -/
theorem heading?_replicate {level : Nat} (positive : 0 < level) (small : level ≤ maxLevel)
    (t : Text) : heading? (List.replicate level '#' ++ ' ' :: t) = some ⟨level, trim (' ' :: t)⟩ := by
  have hashes : (List.replicate level '#' ++ ' ' :: t).takeWhile (· == '#') =
      List.replicate level '#' := by
    rw [List.takeWhile_append_of_pos (by simp)]
    simp
  unfold heading?
  simp only [hashes, List.length_replicate]
  rw [if_neg (by simp; omega), List.drop_left' List.length_replicate]
  rfl

end ReferencePages.Markdown
