/-
**Readers of string literals.**

Three readers follow the literals of a text: the reader of a signature (`Reading`), the top level of a
parameter text (`Nesting`) and the cut before a comment (`splitComment`). The first two let a backslash
escape the next character of a literal, the third does not.

* `literals`: the string literals of a text, as they are written;
* `uncommented`: the text before the first comment mark that stands outside literals;
* `Reading.step_cases`: one character is read alike by the first two readers, up to a comment or the
  closing parenthesis; `Reading.kept_eq_uncommented`, `Reading.exists_closing`: so is a line;
* `quote?_step`: one character is read alike by the third one, unless it is the quote of the literal
  under way and escaped;
* `stripComment_agrees`: **comments are cut off where the signature reader cuts them off, wherever they
  start, exactly when no literal has its own quote escaped** (`escaped_quote_ends_literal`).
-/

import ReferencePages.Proofs.Declaration.SignatureLayout
import ReferencePages.Source.ModuleVariable

namespace ReferencePages.Declaration

open Text

namespace Nesting

/-- Outside literals. -/
def isCode : Nesting → Bool
  | code _ => true
  | _ => false

/-- The quote that the literal under way was opened with. -/
def quote? : Nesting → Option Char
  | code _ => none
  | literal _ quote => some quote
  | escaped _ quote => some quote

/-- The same place with respect to literals, outside brackets. -/
def flat : Nesting → Nesting
  | code _ => code 0
  | literal _ quote => literal 0 quote
  | escaped _ quote => escaped 0 quote

/-- The character is the quote of the literal under way, right after a backslash. -/
def escapes : Nesting → Char → Bool
  | escaped _ quote, c => c == quote
  | _, _ => false

theorem sound_initial : initial.Sound := trivial

end Nesting

/-! ### Literals and comments of a text -/

/-- The literals in what follows at the given nesting; the literal under way comes first. -/
def literalsFrom : Nesting → Text → List Text
  | _, [] => []
  | nesting, c :: rest =>
    let later := literalsFrom (nesting.step c) rest
    if nesting.isCode then
      if isQuote c then consFirst c later else later
    else if (nesting.step c).isCode then [c] :: later
    else consFirst c later

/-- The string literals of a text, each with its quotes. -/
def literals (t : Text) : List Text := literalsFrom .initial t

example : literals "a=\"x\\\"#\", b=['', '\"']".toList =
    ["\"x\\\"#\"".toList, "''".toList, "'\"'".toList] := by decide

/-- What follows at the given nesting, up to the first comment mark outside literals. -/
def uncommentedFrom : Nesting → Text → Text
  | _, [] => []
  | nesting, c :: rest =>
    if nesting.isCode && c == '#' then [] else c :: uncommentedFrom (nesting.step c) rest

/-- The text before the first comment mark outside literals, all of it when there is none. -/
def uncommented (t : Text) : Text := uncommentedFrom .initial t

/-- Some literal in what follows at the given nesting has its own quote escaped. -/
def escapesQuoteFrom : Nesting → Text → Bool
  | _, [] => false
  | nesting, c :: rest => nesting.escapes c || escapesQuoteFrom (nesting.step c) rest

/-- Some literal of the text has its own quote escaped. -/
def escapesQuote (t : Text) : Bool := escapesQuoteFrom .initial t

/-- What follows holds no comment mark outside literals. -/
theorem uncommentedFrom_append {nesting : Nesting} {first : Text}
    (whole : uncommentedFrom nesting first = first) (second : Text) :
    uncommentedFrom nesting (first ++ second) =
      first ++ uncommentedFrom (nesting.after first) second := by
  induction first generalizing nesting with
  | nil => rfl
  | cons c rest ih =>
    rw [uncommentedFrom] at whole
    rw [List.cons_append, uncommentedFrom]
    split at whole
    · cases whole
    · rename_i other
      rw [if_neg other, ih (List.cons.inj whole).2]
      rfl

/-- **Where a text is cut**: nothing of it stands behind, or a comment mark outside literals does. -/
theorem uncommentedFrom_cases (nesting : Nesting) (t : Text) :
    uncommentedFrom nesting (uncommentedFrom nesting t) = uncommentedFrom nesting t ∧
      (t = uncommentedFrom nesting t ∨
        ∃ comment, t = uncommentedFrom nesting t ++ '#' :: comment ∧
          (nesting.after (uncommentedFrom nesting t)).isCode = true) := by
  induction t generalizing nesting with
  | nil => exact ⟨rfl, Or.inl rfl⟩
  | cons c rest ih =>
    rw [uncommentedFrom]
    split
    · rename_i here
      obtain ⟨isCode, isHash⟩ := Bool.and_eq_true_iff.mp here
      rw [beq_iff_eq.mp isHash]
      exact ⟨rfl, Or.inr ⟨rest, rfl, isCode⟩⟩
    · rename_i other
      obtain ⟨again, whole⟩ := ih (nesting.step c)
      refine ⟨by rw [uncommentedFrom, if_neg other, again], ?_⟩
      rcases whole with whole | ⟨comment, whole, isCode⟩
      · exact Or.inl (congrArg (c :: ·) whole)
      · exact Or.inr ⟨comment, congrArg (c :: ·) whole, isCode⟩

/-- Brackets do not change what a literal is. -/
theorem flat_step (nesting : Nesting) (c : Char) : (nesting.flat.step c).flat = (nesting.step c).flat := by
  cases nesting with
  | code depth =>
    rw [show (Nesting.code depth).flat = .code 0 from rfl, Nesting.step, Nesting.step]
    split_ifs <;> rfl
  | literal depth quote =>
    rw [show (Nesting.literal depth quote).flat = .literal 0 quote from rfl, Nesting.step, Nesting.step]
    split_ifs <;> rfl
  | escaped depth quote => rfl

theorem uncommentedFrom_flat (nesting : Nesting) (t : Text) :
    uncommentedFrom nesting.flat t = uncommentedFrom nesting t := by
  induction t generalizing nesting with
  | nil => rfl
  | cons c rest ih =>
    have same : nesting.flat.isCode = nesting.isCode := by cases nesting <;> rfl
    rw [uncommentedFrom, uncommentedFrom, same, ← ih (nesting.flat.step c), flat_step, ih]

/-! ### The signature reader -/

namespace Reading

/-- The nesting inside the outer parentheses, where the reading is in no comment. -/
def nesting? : Reading → Option Nesting
  | params inner => some (.code inner)
  | literal inner quote => some (.literal inner quote)
  | escaped inner quote => some (.escaped inner quote)
  | _ => none

variable {reading : Reading} {nesting : Nesting}

/-- **One character inside the parentheses** belongs to the parameter text and is read alike by both
readers, or it opens a comment, or it closes the outer parentheses. -/
theorem step_cases (same : reading.nesting? = some nesting) (c : Char) :
    (reading.keeps c = true ∧ (nesting.isCode && c == '#') = false ∧
        (reading.step c).nesting? = some (nesting.step c)) ∨
      (reading.keeps c = false ∧ (nesting.isCode && c == '#') = true ∧
        ∃ inner, reading.step c = .comment inner) ∨
      (isClosing c = true ∧ reading = .params 0 ∧ reading.step c = .past) := by
  cases reading with
  | params inner =>
    cases same
    simp only [Reading.step, Nesting.step, Nesting.isCode, Bool.true_and]
    by_cases isHash : c = '#'
    · subst isHash
      exact Or.inr (Or.inl ⟨rfl, rfl, inner, rfl⟩)
    have notHash : (c == '#') = false := beq_false_of_ne isHash
    by_cases quoted : isQuote c = true
    · have notClosing : isClosing c = false := by
        rcases Bool.or_eq_true_iff.mp quoted with isQuote | isQuote <;>
          rw [beq_iff_eq.mp isQuote] <;> decide
      rw [if_pos quoted, if_pos quoted]
      exact Or.inl ⟨by simp [keeps, isHash, notClosing], by simp [isHash], rfl⟩
    rw [if_neg quoted, if_neg quoted]
    by_cases opening : isOpening c = true
    · have notClosing : isClosing c = false := by
        simp only [isOpening, Bool.or_eq_true, beq_iff_eq] at opening
        rcases opening with (rfl | rfl) | rfl <;> decide
      rw [if_pos opening, if_pos opening]
      exact Or.inl ⟨by simp [keeps, isHash, notClosing], by simp [isHash], rfl⟩
    rw [if_neg opening, if_neg opening]
    by_cases closing : isClosing c = true
    · rw [if_pos closing, if_pos closing]
      cases inner with
      | zero => exact Or.inr (Or.inr ⟨closing, rfl, rfl⟩)
      | succ fewer => exact Or.inl ⟨by simp [keeps, isHash], by simp [isHash], rfl⟩
    · rw [if_neg closing, if_neg closing, if_neg (by simp [isHash])]
      exact Or.inl ⟨by simp [keeps, isHash, closing], by simp [isHash], rfl⟩
  | literal inner quote =>
    cases same
    refine Or.inl ⟨rfl, rfl, ?_⟩
    rw [Reading.step, Nesting.step]
    split
    · rfl
    · split <;> rfl
  | escaped inner quote =>
    cases same
    exact Or.inl ⟨rfl, rfl, rfl⟩
  | comment inner => cases same
  | past => cases same
  | pastComment => cases same
  | ended => cases same

/-- **A line that does not close the parentheses is kept up to its comment.** -/
theorem kept_eq_uncommented (same : reading.nesting? = some nesting) {t : Text}
    (staysOpen : (reading.after t).isOpen = true) : reading.kept t = uncommentedFrom nesting t := by
  induction t generalizing reading nesting with
  | nil => rfl
  | cons c rest ih =>
    rw [after_cons] at staysOpen
    rw [kept, uncommentedFrom]
    rcases step_cases same c with ⟨keeps, notMark, next⟩ | ⟨drops, isMark, inner, hidden⟩ |
      ⟨-, -, isPast⟩
    · rw [if_pos keeps, notMark, ih next staysOpen]
      rfl
    · rw [if_neg (by simp [drops]), if_pos isMark, hidden, kept_comment]
    · rw [isPast, (kept_of_not_isOpen rfl rest).2] at staysOpen
      cases staysOpen

/-- **A header that ends on the line closes its parentheses there**, and what is kept of the line is the
text before the closing one. -/
theorem exists_closing (same : reading.nesting? = some nesting) {t : Text}
    (ends : reading.after t = .ended) :
    ∃ inside close tail, t = inside ++ close :: tail ∧ isClosing close = true ∧
      reading.after inside = .params 0 ∧ nesting.after inside = .code 0 ∧ reading.kept t = inside := by
  induction t generalizing reading nesting with
  | nil =>
    rw [after_nil] at ends
    rw [ends] at same
    cases same
  | cons c rest ih =>
    rw [after_cons] at ends
    rcases step_cases same c with ⟨keeps, -, next⟩ | ⟨-, -, inner, hidden⟩ | ⟨closes, rfl, isPast⟩
    · obtain ⟨inside, close, tail, whole, closes, opened, closed, isKept⟩ := ih next ends
      refine ⟨c :: inside, close, tail, congrArg (c :: ·) whole, closes, opened, closed, ?_⟩
      rw [kept, if_pos keeps, isKept]
    · rw [hidden, after_comment] at ends
      cases ends
    · cases same
      refine ⟨[], c, rest, rfl, closes, rfl, rfl, ?_⟩
      rw [kept, isPast, (kept_of_not_isOpen rfl rest).1, if_neg (by simp [keeps, closes])]

end Reading

/-! ### The cut before a comment -/

/-- The quote of the literal under way after one more character, when a backslash is a character like
any other. -/
def plainStep : Option Char → Char → Option Char
  | some quote, c => if c == quote then none else some quote
  | none, c => if isQuote c then some c else none

theorem fst_splitCommentFrom_cons (quote : Option Char) (c : Char) (rest : Text) :
    (splitCommentFrom quote (c :: rest)).1 =
      if quote.isNone && c == '#' then [] else c :: (splitCommentFrom (plainStep quote c) rest).1 := by
  cases quote with
  | some quote => rfl
  | none =>
    rw [splitCommentFrom]
    simp only [Option.isNone_none, Bool.true_and]
    split <;> rfl

/-- **One character is read alike**, unless it is the quote of the literal under way and escaped. -/
theorem quote?_step {nesting : Nesting} (sound : nesting.Sound) {c : Char}
    (plain : nesting.escapes c = false) : (nesting.step c).quote? = plainStep nesting.quote? c := by
  cases nesting with
  | code depth =>
    rw [Nesting.step, Nesting.quote?, plainStep]
    split
    · rfl
    · split
      · rfl
      · split <;> rfl
  | literal depth quote =>
    rw [Nesting.step, Nesting.quote?, plainStep]
    split
    · rename_i isBackslash
      have other : (c == quote) = false := by
        rw [beq_eq_false_iff_ne]
        rintro rfl
        have isQuote : isQuote c = true := sound
        rw [beq_iff_eq.mp isBackslash] at isQuote
        cases isQuote
      rw [other]
      rfl
    · split <;> rfl
  | escaped depth quote =>
    have other : (c == quote) = false := plain
    rw [Nesting.quote?, plainStep, other]
    rfl

theorem isNone_quote? (nesting : Nesting) : nesting.quote?.isNone = nesting.isCode := by
  cases nesting <;> rfl

/-- Up to a place before which no literal has its own quote escaped, both readers are at one. -/
theorem splitCommentFrom_append {nesting : Nesting} (sound : nesting.Sound) {first : Text}
    (whole : uncommentedFrom nesting first = first) (plain : escapesQuoteFrom nesting first = false)
    (second : Text) :
    (splitCommentFrom nesting.quote? (first ++ second)).1 =
      first ++ (splitCommentFrom (nesting.after first).quote? second).1 := by
  induction first generalizing nesting with
  | nil => rfl
  | cons c rest ih =>
    obtain ⟨here, later⟩ := Bool.or_eq_false_iff.mp plain
    rw [uncommentedFrom] at whole
    rw [List.cons_append, fst_splitCommentFrom_cons, isNone_quote?]
    split at whole
    · cases whole
    · rename_i other
      rw [if_neg other, ← quote?_step sound here, ih (sound.step c) (List.cons.inj whole).2 later]
      rfl

/-- The comment is cut off where it starts when no literal before it has its own quote escaped. -/
theorem stripComment_eq {t : Text} (plain : escapesQuote (uncommented t) = false) :
    stripComment t = uncommented t := by
  obtain ⟨whole, rest⟩ := uncommentedFrom_cases .initial t
  have upTo := splitCommentFrom_append Nesting.sound_initial whole plain
  unfold stripComment splitComment uncommented
  rcases rest with same | ⟨comment, same, isCode⟩
  · have all := upTo []
    rw [List.append_nil, ← same] at all
    rw [← same]
    exact all.trans (List.append_nil t)
  · have all := upTo ('#' :: comment)
    rw [← same, fst_splitCommentFrom_cons, isNone_quote?, isCode] at all
    exact all.trans (List.append_nil _)

/-! ### Where the readers part -/

/-- The first place at which a literal has its own quote escaped. -/
theorem exists_escapes {nesting : Nesting} {t : Text} (escaped : escapesQuoteFrom nesting t = true) :
    ∃ first c rest, t = first ++ c :: rest ∧ escapesQuoteFrom nesting first = false ∧
      (nesting.after first).escapes c = true := by
  induction t generalizing nesting with
  | nil => cases escaped
  | cons c rest ih =>
    by_cases here : nesting.escapes c = true
    · exact ⟨[], c, rest, rfl, rfl, here⟩
    · rw [escapesQuoteFrom, Bool.or_eq_true, or_iff_right here] at escaped
      obtain ⟨first, d, more, rfl, plain, escapes⟩ := ih escaped
      refine ⟨c :: first, d, more, rfl, ?_, escapes⟩
      rw [escapesQuoteFrom, plain, Bool.or_false]
      exact Bool.eq_false_iff.mpr here

theorem uncommentedFrom_of_append {nesting : Nesting} {first second : Text}
    (whole : uncommentedFrom nesting (first ++ second) = first ++ second) :
    uncommentedFrom nesting first = first := by
  induction first generalizing nesting with
  | nil => rfl
  | cons c rest ih =>
    rw [List.cons_append, uncommentedFrom] at whole
    rw [uncommentedFrom]
    split at whole
    · cases whole
    · rename_i other
      rw [if_neg other, ih (List.cons.inj whole).2]

/-- A comment mark is no quote, so a text with one behind it escapes no more quotes than before. -/
theorem escapesQuoteFrom_concat {nesting : Nesting} (sound : nesting.Sound) {before more : Text}
    (plain : escapesQuoteFrom nesting (uncommentedFrom nesting (before ++ more)) = false) :
    escapesQuoteFrom nesting (uncommentedFrom nesting (before ++ ['#'])) = false := by
  induction before generalizing nesting with
  | nil =>
    have notQuote : nesting.escapes '#' = false := by
      cases nesting with
      | code depth => rfl
      | literal depth quote => rfl
      | escaped depth quote =>
        refine beq_false_of_ne ?_
        rintro rfl
        cases sound
    rw [List.nil_append, uncommentedFrom]
    split
    · rfl
    · rw [escapesQuoteFrom, notQuote]
      rfl
  | cons c rest ih =>
    rw [List.cons_append, uncommentedFrom] at plain ⊢
    split
    · rfl
    · rename_i other
      rw [if_neg other] at plain
      obtain ⟨here, later⟩ := Bool.or_eq_false_iff.mp plain
      rw [escapesQuoteFrom, here, ih (sound.step c) later]
      rfl

/-- An escaped quote ends a literal for one reader alone: a comment mark behind it is taken for the
start of a comment inside the literal. -/
theorem stripComment_ne {first rest : Text} {c : Char}
    (whole : uncommented (first ++ c :: rest) = first ++ c :: rest)
    (plain : escapesQuote first = false) (escapes : (Nesting.initial.after first).escapes c = true) :
    stripComment ((first ++ [c]) ++ ['#']) ≠ uncommented ((first ++ [c]) ++ ['#']) := by
  have upTo := uncommentedFrom_of_append whole
  obtain ⟨depth, isEscaped⟩ : ∃ depth, Nesting.initial.after first = .escaped depth c := by
    generalize Nesting.initial.after first = nesting at escapes
    cases nesting with
    | code depth => cases escapes
    | literal depth quote => cases escapes
    | escaped depth quote => exact ⟨depth, by rw [beq_iff_eq.mp escapes]⟩
  have cut := splitCommentFrom_append Nesting.sound_initial upTo plain [c, '#']
  have shown := uncommentedFrom_append upTo [c, '#']
  have ends : (splitCommentFrom (some c) [c, '#']).1 = [c] := by
    rw [fst_splitCommentFrom_cons, plainStep, beq_self_eq_true]
    rfl
  rw [isEscaped, Nesting.quote?, ends] at cut
  rw [isEscaped] at shown
  rw [List.append_assoc, List.singleton_append]
  unfold stripComment splitComment uncommented
  intro same
  have lengths := congrArg List.length ((cut.symm.trans same).trans shown)
  rw [List.length_append, List.length_append] at lengths
  simp [uncommentedFrom, Nesting.isCode, Nesting.step] at lengths

/-- **Comments and literals.** A text none of whose literals has its own quote escaped is cut before the
first comment mark outside literals. Wherever a comment mark is put into a text, it is taken alike by
the cut and by the reader of literals, exactly when no literal has its own quote escaped. And the text
before that mark is what the signature reader keeps of a line, unless the line closes the parentheses. -/
theorem stripComment_agrees (t : Text) :
    (escapesQuote (uncommented t) = false → stripComment t = uncommented t) ∧
      ((∀ before, before <+: t →
          stripComment (before ++ ['#']) = uncommented (before ++ ['#'])) ↔
        escapesQuote (uncommented t) = false) ∧
      ∀ inner, ((Reading.params inner).after t).isOpen = true →
        (Reading.params inner).kept t = uncommented t := by
  refine ⟨stripComment_eq, ⟨fun agrees => ?_, fun plain before isBefore => ?_⟩, fun inner staysOpen => ?_⟩
  · by_contra escaped
    obtain ⟨first, c, rest, split, plain, escapes⟩ := exists_escapes (Bool.of_not_eq_false escaped)
    obtain ⟨whole, isStart⟩ := uncommentedFrom_cases .initial t
    change uncommented (uncommented t) = uncommented t at whole
    rw [split] at whole
    refine stripComment_ne whole plain escapes (agrees _ ?_)
    have start : first ++ [c] <+: uncommented t := ⟨rest, by rw [split]; simp⟩
    rcases isStart with same | ⟨comment, same, -⟩
    · rw [same]
      exact start
    · rw [same]
      exact start.trans (List.prefix_append _ _)
  · obtain ⟨more, rfl⟩ := isBefore
    exact stripComment_eq (escapesQuoteFrom_concat Nesting.sound_initial plain)
  · rw [Reading.kept_eq_uncommented rfl staysOpen]
    exact (uncommentedFrom_flat (.code inner) t).symm

/-- Literals with the other quote in them, and with a backslash escaped. -/
theorem stripComment_agrees_sample :
    escapesQuote (uncommented "'#\"', \"\\\\\" # \"note\\\"".toList) = false ∧
      stripComment "'#\"', \"\\\\\" # \"note\\\"".toList = "'#\"', \"\\\\\" ".toList := by
  have plain : escapesQuote (uncommented "'#\"', \"\\\\\" # \"note\\\"".toList) = false := by decide
  have cut : uncommented "'#\"', \"\\\\\" # \"note\\\"".toList = "'#\"', \"\\\\\" ".toList := by
    decide
  exact ⟨plain, ((stripComment_agrees _).1 plain).trans cut⟩

/-- A literal with its own quote escaped is cut at a comment mark inside it, and hides the comment
behind it. -/
theorem escaped_quote_ends_literal :
    uncommented "\"a\\\"#b\"".toList = "\"a\\\"#b\"".toList ∧
      stripComment "\"a\\\"#b\"".toList = "\"a\\\"".toList ∧
      uncommented "\"a\\\"b\" # note".toList = "\"a\\\"b\" ".toList ∧
      stripComment "\"a\\\"b\" # note".toList = "\"a\\\"b\" # note".toList ∧
      (moduleVariable? "# Name.".toList "NAME = \"a\\\"#b\"".toList).map (·.value) =
        some "\"a\\\"".toList ∧
      (moduleVariable? "# Name.".toList "NAME = \"a\\\"b\" # note".toList).map (·.value) =
        some "\"a\\\"b\" # note".toList := by
  decide +kernel

end ReferencePages.Declaration
