/-
**How a text is cut at top level.**

The nesting after a text is a fold over its characters, so a text that leaves nothing open can be
followed by any other. A mark is a character that neither opens nor closes anything.

* `Lacks`: a text holds no mark at top level; `lacks_append`, `lacks_trim`;
* `Closed`: a text leaves nothing open; `closed_trim`;
* `cutTopFrom?_eq_some_iff`: where a text is cut;
* `splitTop_eq_iff`: **the parts of a text are those that join to it, hold no separator and leave
  nothing open, the last one apart**.
-/

import ReferencePages.Declaration.Nesting
import ReferencePages.Proofs.Text.Ends

namespace ReferencePages.Declaration

open Text

/-! ### Nesting along a text -/

namespace Nesting

/-- The nesting after a text. -/
def after (nesting : Nesting) (t : Text) : Nesting := t.foldl step nesting

@[simp] theorem after_nil (nesting : Nesting) : nesting.after [] = nesting := rfl

@[simp] theorem after_cons (nesting : Nesting) (c : Char) (rest : Text) :
    nesting.after (c :: rest) = (nesting.step c).after rest := rfl

@[simp] theorem after_append (nesting : Nesting) (first second : Text) :
    nesting.after (first ++ second) = (nesting.after first).after second := List.foldl_append

/-- What opened a literal is a quote. -/
def Sound : Nesting → Prop
  | code _ => True
  | literal _ quote => isQuote quote = true
  | escaped _ quote => isQuote quote = true

theorem Sound.step {nesting : Nesting} (sound : nesting.Sound) (c : Char) : (nesting.step c).Sound := by
  cases nesting with
  | code depth =>
    rw [Nesting.step]
    split
    · assumption
    · split
      · trivial
      · split <;> trivial
  | literal depth quote =>
    rw [Nesting.step]
    split
    · exact sound
    · split
      · trivial
      · exact sound
  | escaped depth quote => exact sound

theorem Sound.after {nesting : Nesting} (sound : nesting.Sound) (t : Text) :
    (nesting.after t).Sound := by
  induction t generalizing nesting with
  | nil => exact sound
  | cons c rest ih => exact ih (sound.step c)

end Nesting

/-! ### Marks -/

/-- The character neither opens nor closes a bracket or a literal. -/
structure IsMark (c : Char) : Prop where
  notQuote : isQuote c = false
  notOpening : isOpening c = false
  notClosing : isClosing c = false

theorem isMark_comma : IsMark ',' := ⟨by decide, by decide, by decide⟩

theorem isMark_equals : IsMark '=' := ⟨by decide, by decide, by decide⟩

theorem isMark_colon : IsMark ':' := ⟨by decide, by decide, by decide⟩

theorem beq_of_isBlank {c d : Char} (blank : isBlank c = true) (written : isBlank d = false) :
    (c == d) = false := by
  rw [beq_eq_false_iff_ne]
  rintro rfl
  rw [blank] at written
  cases written

theorem isMark_of_isBlank {c : Char} (blank : isBlank c = true) : IsMark c := by
  have other : ∀ d : Char, isBlank d = false → (c == d) = false := fun _ => beq_of_isBlank blank
  refine ⟨?_, ?_, ?_⟩
  · rw [isQuote, other _ (by decide), other _ (by decide)]
    rfl
  · rw [isOpening, other _ (by decide), other _ (by decide), other _ (by decide)]
    rfl
  · rw [isClosing, other _ (by decide), other _ (by decide), other _ (by decide)]
    rfl

theorem IsMark.step_code {c : Char} (mark : IsMark c) (depth : Nat) :
    (Nesting.code depth).step c = .code depth := by
  simp [Nesting.step, mark.notQuote, mark.notOpening, mark.notClosing]

theorem IsMark.isTop_iff {c : Char} (mark : IsMark c) {nesting : Nesting} :
    nesting.isTop c = true ↔ nesting = .initial := by
  cases nesting <;>
    simp [Nesting.isTop, Nesting.initial, mark.notQuote, mark.notOpening, mark.notClosing]

/-- Blanks change nothing outside literals. -/
theorem after_blanks {t : Text} (blank : allBlank t = true) (depth : Nat) :
    (Nesting.code depth).after t = .code depth := by
  induction t with
  | nil => rfl
  | cons c rest ih =>
    obtain ⟨first, others⟩ := Bool.and_eq_true_iff.mp blank
    rw [Nesting.after_cons, (isMark_of_isBlank first).step_code]
    exact ih others

/-- Blanks do not close a literal. -/
theorem code_of_after_blanks {nesting : Nesting} (sound : nesting.Sound) {t : Text}
    (blank : allBlank t = true) {depth : Nat} (ends : nesting.after t = .code depth) :
    nesting = .code depth := by
  induction t generalizing nesting with
  | nil => exact ends
  | cons c rest ih =>
    obtain ⟨first, others⟩ := Bool.and_eq_true_iff.mp blank
    have next := ih (sound.step c) others ends
    cases nesting with
    | code opened =>
      rw [(isMark_of_isBlank first).step_code] at next
      exact next
    | literal opened quote =>
      have notQuote : (c == quote) = false := by
        rw [beq_eq_false_iff_ne]
        rintro rfl
        have isQuote : isQuote c = true := sound
        rw [(isMark_of_isBlank first).notQuote] at isQuote
        cases isQuote
      rw [Nesting.step, notQuote] at next
      split at next <;> cases next
    | escaped opened quote => cases next

/-! ### Texts without a mark -/

/-- No mark stands at top level in a text that starts at the given nesting. -/
def Lacks (mark : Char) (nesting : Nesting) (t : Text) : Prop := cutTopFrom? mark nesting t = none

theorem lacks_nil (mark : Char) (nesting : Nesting) : Lacks mark nesting [] := rfl

theorem lacks_cons {mark c : Char} {nesting : Nesting} {rest : Text} :
    Lacks mark nesting (c :: rest) ↔
      (nesting.isTop c && c == mark) = false ∧ Lacks mark (nesting.step c) rest := by
  unfold Lacks
  rw [cutTopFrom?]
  cases nesting.isTop c && c == mark <;> simp

theorem lacks_append {mark : Char} {nesting : Nesting} {first second : Text} :
    Lacks mark nesting (first ++ second) ↔
      Lacks mark nesting first ∧ Lacks mark (nesting.after first) second := by
  induction first generalizing nesting with
  | nil => exact ⟨fun lacks => ⟨lacks_nil _ _, lacks⟩, fun lacks => lacks.2⟩
  | cons c rest ih =>
    rw [List.cons_append, lacks_cons, lacks_cons, ih, Nesting.after_cons, and_assoc]

/-- Another mark may stand where there is none of the given kind. -/
theorem lacks_cons_of_ne {mark other : Char} (different : other ≠ mark) (isMark : IsMark other)
    {rest : Text} (lacks : Lacks mark .initial rest) : Lacks mark .initial (other :: rest) := by
  rw [lacks_cons]
  refine ⟨?_, ?_⟩
  · rw [beq_eq_false_iff_ne.mpr different, Bool.and_false]
  · unfold Nesting.initial
    rw [isMark.step_code]
    exact lacks

/-- **A text is cut at its first mark outside brackets and literals.** -/
theorem cutTopFrom?_eq_some_iff {mark : Char} (isMark : IsMark mark) {nesting : Nesting}
    {t before rest : Text} :
    cutTopFrom? mark nesting t = some (before, rest) ↔
      t = before ++ mark :: rest ∧ Lacks mark nesting before ∧ nesting.after before = .initial := by
  induction t generalizing nesting before with
  | nil =>
    rw [cutTopFrom?]
    constructor
    · intro impossible
      cases impossible
    · rintro ⟨whole, -⟩
      exact absurd (congrArg List.length whole) (by simp)
  | cons c tail ih =>
    rw [cutTopFrom?]
    split
    · rename_i here
      obtain ⟨top, isSame⟩ := Bool.and_eq_true_iff.mp here
      obtain rfl := beq_iff_eq.mp isSame
      constructor
      · intro cut
        cases cut
        exact ⟨rfl, lacks_nil _ _, isMark.isTop_iff.mp top⟩
      · rintro ⟨whole, lacks, -⟩
        cases before with
        | nil => rw [(List.cons.inj whole).2]
        | cons d more =>
          obtain rfl := (List.cons.inj whole).1
          rw [lacks_cons, here] at lacks
          exact absurd lacks.1 (by decide)
    · rename_i elsewhere
      rw [Option.map_eq_some_iff]
      constructor
      · rintro ⟨⟨more, rest'⟩, cut, shown⟩
        cases shown
        obtain ⟨rfl, lacks, ends⟩ := ih.mp cut
        exact ⟨rfl, lacks_cons.mpr ⟨Bool.not_eq_true _ ▸ elsewhere, lacks⟩, ends⟩
      · rintro ⟨whole, lacks, ends⟩
        cases before with
        | nil =>
          obtain rfl := (List.cons.inj whole).1
          refine absurd ?_ elsewhere
          rw [Bool.and_eq_true, beq_self_eq_true, isMark.isTop_iff]
          exact ⟨ends, rfl⟩
        | cons d more =>
          obtain ⟨rfl, rfl⟩ := List.cons.inj whole
          exact ⟨(more, rest), ih.mpr ⟨rfl, (lacks_cons.mp lacks).2, ends⟩, rfl⟩

/-! ### Texts that leave nothing open -/

/-- The text leaves no bracket and no literal open. -/
def Closed (t : Text) : Prop := Nesting.initial.after t = .initial

theorem Closed.append {first second : Text} (closed : Closed first) :
    Closed (first ++ second) ↔ Closed second := by
  unfold Closed at *
  rw [Nesting.after_append, closed]

theorem IsMark.closed_cons {mark : Char} (isMark : IsMark mark) {rest : Text} :
    Closed (mark :: rest) ↔ Closed rest := by
  unfold Closed
  rw [Nesting.after_cons, Nesting.initial, isMark.step_code]

theorem IsMark.lacks_rest {mark other : Char} (isMark : IsMark other) {before rest : Text}
    (closed : Closed before) (lacks : Lacks mark .initial (before ++ other :: rest)) :
    Lacks mark .initial before ∧ Lacks mark .initial rest := by
  obtain ⟨first, second⟩ := lacks_append.mp lacks
  rw [closed, lacks_cons, Nesting.initial, isMark.step_code] at second
  exact ⟨first, second.2⟩

/-- A trimmed text with the blanks around it. -/
theorem exists_blanks_trim (t : Text) :
    ∃ lead tail, allBlank lead = true ∧ allBlank tail = true ∧ t = lead ++ (trim t ++ tail) := by
  obtain ⟨tail, blank, split⟩ : ∃ tail, allBlank tail = true ∧ trimStart t = trim t ++ tail := by
    refine ⟨((trimStart t).reverse.takeWhile isBlank).reverse, ?_, ?_⟩
    · unfold allBlank
      rw [List.all_reverse]
      exact List.all_takeWhile
    · unfold trim trimEnd dropEndWhile
      rw [← List.reverse_append, List.takeWhile_append_dropWhile, List.reverse_reverse]
  refine ⟨t.takeWhile isBlank, tail, List.all_takeWhile, blank, ?_⟩
  rw [← split]
  exact List.takeWhile_append_dropWhile.symm

theorem lacks_trim {mark : Char} {t : Text} (lacks : Lacks mark .initial t) :
    Lacks mark .initial (trim t) := by
  obtain ⟨lead, tail, leadBlank, -, split⟩ := exists_blanks_trim t
  rw [split, lacks_append, Nesting.initial, after_blanks leadBlank, lacks_append] at lacks
  exact lacks.2.1

theorem closed_trim {t : Text} (closed : Closed t) : Closed (trim t) := by
  obtain ⟨lead, tail, leadBlank, tailBlank, split⟩ := exists_blanks_trim t
  unfold Closed at *
  rw [split, Nesting.after_append, Nesting.initial, after_blanks leadBlank,
    Nesting.after_append] at closed
  have sound : (Nesting.code 0).Sound := trivial
  exact code_of_after_blanks (sound.after _) tailBlank closed

/-! ### Parts -/

/-- What a separator cuts a text into: parts that hold none of it, each of them but the last leaving
nothing open. -/
structure AreParts (separator : Char) (parts : List Text) : Prop where
  nonempty : parts ≠ []
  closed : parts.Pairwise fun part _ => Closed part
  whole : ∀ part ∈ parts, Lacks separator .initial part

theorem areParts_singleton {separator : Char} {t : Text} (lacks : Lacks separator .initial t) :
    AreParts separator [t] where
  nonempty := List.cons_ne_nil _ _
  closed := List.pairwise_singleton _ _
  whole := fun _ member => List.mem_singleton.mp member ▸ lacks

theorem areParts_cons_iff {separator : Char} {first : Text} {rest : List Text} (more : rest ≠ []) :
    AreParts separator (first :: rest) ↔
      Closed first ∧ Lacks separator .initial first ∧ AreParts separator rest := by
  constructor
  · rintro ⟨-, closed, whole⟩
    obtain ⟨here, below⟩ := List.pairwise_cons.mp closed
    obtain ⟨later, member⟩ := List.exists_mem_of_ne_nil rest more
    exact ⟨here later member, whole first List.mem_cons_self, more, below,
      fun part inside => whole part (List.mem_cons_of_mem _ inside)⟩
  · rintro ⟨closed, lacks, parts⟩
    refine ⟨List.cons_ne_nil _ _, List.pairwise_cons.mpr ⟨fun _ _ => closed, parts.closed⟩, ?_⟩
    rintro part (- | ⟨_, inside⟩)
    · exact lacks
    · exact parts.whole part inside

theorem join_cons (mark first : Text) {rest : List Text} (more : rest ≠ []) :
    join mark (first :: rest) = first ++ mark ++ join mark rest := by
  unfold join
  rw [List.intercalate_cons_of_ne_nil more]

/-- A text is split into what stands before the first separator and the parts of what follows. -/
theorem splitTopFrom_eq {separator : Char} (isMark : IsMark separator) (nesting : Nesting) (t : Text) :
    splitTopFrom separator nesting t =
      match cutTopFrom? separator nesting t with
      | some (before, rest) => before :: splitTop separator rest
      | none => [t] := by
  induction t generalizing nesting with
  | nil => rfl
  | cons c rest ih =>
    rw [splitTopFrom, cutTopFrom?]
    simp only
    split
    · rename_i here
      obtain ⟨top, isSame⟩ := Bool.and_eq_true_iff.mp here
      obtain rfl := beq_iff_eq.mp isSame
      obtain rfl := isMark.isTop_iff.mp top
      unfold splitTop Nesting.initial
      rw [isMark.step_code]
    · rw [ih]
      cases cutTopFrom? separator (nesting.step c) rest <;> rfl

theorem splitTop_of_lacks {separator : Char} (isMark : IsMark separator) {t : Text}
    (lacks : Lacks separator .initial t) : splitTop separator t = [t] := by
  unfold splitTop
  rw [splitTopFrom_eq isMark, lacks]

theorem splitTop_append {separator : Char} (isMark : IsMark separator) {before : Text}
    (closed : Closed before) (lacks : Lacks separator .initial before) (rest : Text) :
    splitTop separator (before ++ separator :: rest) = before :: splitTop separator rest := by
  have cut : cutTopFrom? separator .initial (before ++ separator :: rest) = some (before, rest) :=
    (cutTopFrom?_eq_some_iff isMark).mpr ⟨rfl, lacks, closed⟩
  rw [splitTop, splitTopFrom_eq isMark, cut]

/-- **The parts of a text.** -/
theorem splitTop_eq_iff {separator : Char} (isMark : IsMark separator) {t : Text}
    {parts : List Text} :
    splitTop separator t = parts ↔ AreParts separator parts ∧ join [separator] parts = t := by
  constructor
  · -- what follows a separator is shorter, and is split in its turn
    induction hlen : t.length using Nat.strong_induction_on generalizing t parts with
    | _ length ih =>
      rintro rfl
      cases cut : cutTopFrom? separator .initial t with
      | none =>
        rw [splitTop_of_lacks isMark cut]
        exact ⟨areParts_singleton cut, List.intercalate_singleton⟩
      | some pair =>
        obtain ⟨before, rest⟩ := pair
        obtain ⟨rfl, lacks, closed⟩ := (cutTopFrom?_eq_some_iff isMark).mp cut
        rw [List.length_append, List.length_cons] at hlen
        obtain ⟨parts, joined⟩ := ih rest.length (by omega) rfl rfl
        rw [splitTop_append isMark closed lacks]
        refine ⟨(areParts_cons_iff parts.nonempty).mpr ⟨closed, lacks, parts⟩, ?_⟩
        rw [join_cons _ _ parts.nonempty, joined, List.append_assoc, List.singleton_append]
  · rintro ⟨isParts, rfl⟩
    induction parts with
    | nil => exact absurd rfl isParts.nonempty
    | cons first rest ih =>
      by_cases alone : rest = []
      · subst alone
        rw [show join [separator] [first] = first from List.intercalate_singleton]
        exact splitTop_of_lacks isMark (isParts.whole first List.mem_cons_self)
      · obtain ⟨closed, lacks, below⟩ := (areParts_cons_iff alone).mp isParts
        rw [join_cons _ _ alone, List.append_assoc, List.singleton_append,
          splitTop_append isMark closed lacks, ih below]

end ReferencePages.Declaration
