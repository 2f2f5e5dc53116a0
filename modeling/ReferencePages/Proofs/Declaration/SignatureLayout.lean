/-
**A signature may be laid out over several lines.**

Reading a header is a fold over the characters of a line, and outside literals a blank changes nothing
but the distance between words. A `Layout` is the text of a header after its opening parenthesis with
breaks in it: each break stands at a blank, may be preceded by blanks and a comment, and may be
followed by lines that hold blanks or a comment only and by an indentation.

* `Reading.readLine_eq`, `Reading.kept_append`: reading a line in parts;
* `LineEnd.leaves`: what stands between a break and the next piece adds blanks at most;
* `signatureFrom_lines`: **the lines of a layout are read to the words of its text on one line**;
* `readSignature_lines`: so the parameter text is the same, and the header ends as many lines further
  down as there are lines more.
-/

import ReferencePages.Proofs.Declaration.Nesting

namespace ReferencePages

open Text

namespace Text

/-! ### Words -/

/-- A blank ends a word. -/
theorem words_append_cons (first : Text) {c : Char} (blank : isBlank c = true) (second : Text) :
    words (first ++ c :: second) = words first ++ words second := by
  unfold words
  rw [List.splitOnP_append_cons first second blank, List.filter_append]

theorem words_blanks_append {blanks : Text} (blank : allBlank blanks = true) (t : Text) :
    words (blanks ++ t) = words t := by
  induction blanks with
  | nil => rfl
  | cons c rest ih =>
    obtain ⟨first, others⟩ := Bool.and_eq_true_iff.mp blank
    rw [← ih others]
    exact words_append_cons [] first (rest ++ t)

/-- Blanks between two texts keep their words apart, however many there are. -/
theorem words_append_blanks (first : Text) {blanks : Text} (blank : allBlank blanks = true)
    (nonempty : blanks ≠ []) (second : Text) :
    words (first ++ (blanks ++ second)) = words first ++ words second := by
  obtain ⟨c, rest, rfl⟩ := List.exists_cons_of_ne_nil nonempty
  obtain ⟨here, others⟩ := Bool.and_eq_true_iff.mp blank
  rw [List.cons_append, words_append_cons first here, words_blanks_append others]

theorem words_append_of_allBlank (t : Text) {blanks : Text} (blank : allBlank blanks = true) :
    words (t ++ blanks) = words t := by
  by_cases empty : blanks = []
  · rw [empty, List.append_nil]
  · have apart := words_append_blanks t blank empty []
    rwa [List.append_nil, show words [] = [] from rfl, List.append_nil] at apart

theorem allBlank_append {first second : Text} (blank : allBlank first = true)
    (blank' : allBlank second = true) : allBlank (first ++ second) = true := by
  unfold allBlank at *
  rw [List.all_append, blank, blank']
  rfl

end Text

namespace Declaration

/-! ### Reading in parts -/

namespace Reading

/-- The reading after a text on one line. -/
def after (reading : Reading) (t : Text) : Reading := t.foldl step reading

/-- What belongs to the parameter text of a text on one line. -/
def kept : Reading → Text → Text
  | _, [] => []
  | reading, c :: rest =>
    if reading.keeps c then c :: (reading.step c).kept rest else (reading.step c).kept rest

theorem readLine_eq (reading : Reading) (t : Text) :
    reading.readLine t = (reading.kept t, reading.after t) := by
  induction t generalizing reading with
  | nil => rfl
  | cons c rest ih =>
    rw [readLine, ih]
    rfl

@[simp] theorem after_nil (reading : Reading) : reading.after [] = reading := rfl

@[simp] theorem after_cons (reading : Reading) (c : Char) (rest : Text) :
    reading.after (c :: rest) = (reading.step c).after rest := rfl

@[simp] theorem after_append (reading : Reading) (first second : Text) :
    reading.after (first ++ second) = (reading.after first).after second := List.foldl_append

@[simp] theorem kept_append (reading : Reading) (first second : Text) :
    reading.kept (first ++ second) = reading.kept first ++ (reading.after first).kept second := by
  induction first generalizing reading with
  | nil => rfl
  | cons c rest ih =>
    rw [List.cons_append, kept, kept, ih, after_cons]
    split <;> rfl

/-! ### Where a line can be broken -/

/-- Outside literals and before the colon that ends the header. -/
def allowsBreak : Reading → Bool
  | literal _ _ => false
  | escaped _ _ => false
  | ended => false
  | _ => true

/-- Outside literals and comments and before the colon that ends the header. -/
inductive IsLoose : Reading → Prop
  | params (inner : Nat) : IsLoose (.params inner)
  | past : IsLoose .past

theorem after_ended (t : Text) : ended.after t = ended := by
  induction t with
  | nil => rfl
  | cons c rest ih => exact ih

theorem after_comment (inner : Nat) (t : Text) : (comment inner).after t = comment inner := by
  induction t with
  | nil => rfl
  | cons c rest ih => exact ih

theorem after_pastComment (t : Text) : pastComment.after t = pastComment := by
  induction t with
  | nil => rfl
  | cons c rest ih => exact ih

theorem kept_comment (inner : Nat) (t : Text) : (comment inner).kept t = [] := by
  induction t with
  | nil => rfl
  | cons c rest ih => exact ih

/-- After the closing parenthesis nothing belongs to the parameter text any more. -/
theorem kept_of_not_isOpen {reading : Reading} (past : reading.isOpen = false) (t : Text) :
    reading.kept t = [] ∧ (reading.after t).isOpen = false := by
  induction t generalizing reading with
  | nil => exact ⟨rfl, past⟩
  | cons c rest ih =>
    have step : reading.keeps c = false ∧ (reading.step c).isOpen = false := by
      cases reading with
      | past =>
        refine ⟨rfl, ?_⟩
        rw [Reading.step]
        split
        · rfl
        · split <;> rfl
      | pastComment => exact ⟨rfl, rfl⟩
      | ended => exact ⟨rfl, rfl⟩
      | params inner => cases past
      | literal inner quote => cases past
      | escaped inner quote => cases past
      | comment inner => cases past
    rw [kept, step.1]
    exact ih step.2

/-- A comment does not end before its line does, so a header that ends on the line is not in one. -/
theorem isLoose_of_allowsBreak {reading : Reading} (allows : reading.allowsBreak = true) {t : Text}
    (ends : reading.after t = .ended) : reading.IsLoose := by
  cases reading with
  | params inner => exact .params inner
  | past => exact .past
  | comment inner =>
    rw [after_comment] at ends
    cases ends
  | pastComment =>
    rw [after_pastComment] at ends
    cases ends
  | literal inner quote => cases allows
  | escaped inner quote => cases allows
  | ended => cases allows

/-- A blank outside literals changes nothing. -/
theorem IsLoose.step_blank {reading : Reading} (loose : reading.IsLoose) {c : Char}
    (blank : isBlank c = true) : reading.step c = reading := by
  have notHash : (c == '#') = false := beq_of_isBlank blank (by decide)
  cases loose with
  | params inner =>
    have mark := isMark_of_isBlank blank
    simp [step, mark.notQuote, mark.notOpening, mark.notClosing, notHash]
  | past =>
    have notColon : (c == ':') = false := beq_of_isBlank blank (by decide)
    simp [step, notColon, notHash]

theorem IsLoose.after_blanks {reading : Reading} (loose : reading.IsLoose) {t : Text}
    (blank : allBlank t = true) : reading.after t = reading := by
  induction t with
  | nil => rfl
  | cons c rest ih =>
    obtain ⟨first, others⟩ := Bool.and_eq_true_iff.mp blank
    rw [after_cons, loose.step_blank first]
    exact ih others

/-- Of blanks, blanks are kept. -/
theorem IsLoose.allBlank_kept {reading : Reading} (loose : reading.IsLoose) {t : Text}
    (blank : allBlank t = true) : allBlank (reading.kept t) = true := by
  induction t with
  | nil => rfl
  | cons c rest ih =>
    obtain ⟨first, others⟩ := Bool.and_eq_true_iff.mp blank
    rw [kept, loose.step_blank first]
    split
    · exact Bool.and_eq_true_iff.mpr ⟨first, ih others⟩
    · exact ih others

/-- Between the parentheses a blank belongs to the parameter text. -/
theorem kept_blank (inner : Nat) {c : Char} (blank : isBlank c = true) (rest : Text) :
    (params inner).kept (c :: rest) = c :: (params inner).kept rest := by
  have mark := isMark_of_isBlank blank
  have notHash : c ≠ '#' := beq_eq_false_iff_ne.mp (beq_of_isBlank blank (by decide))
  rw [kept, (IsLoose.params inner).step_blank blank, if_pos]
  simp [keeps, mark.notClosing, notHash]

end Reading

/-! ### Layouts -/

/-- How a line ends: blanks, and perhaps a comment. -/
structure LineEnd where
  blanks : Text
  comment : Option Text
  allBlank_blanks : allBlank blanks = true := by decide

/-- The end of a line as it is written. -/
def LineEnd.text (ending : LineEnd) : Text :=
  ending.blanks ++ match ending.comment with
    | some comment => '#' :: comment
    | none => []

/-- A break of a line at a blank: how the line ends, the lines that hold nothing but such an end, and
the indentation of the line that follows. -/
structure LineBreak where
  /-- The blank that the break stands for. -/
  place : Char
  ending : LineEnd
  between : List LineEnd
  indent : Text
  isBlank_place : isBlank place = true := by decide
  allBlank_indent : allBlank indent = true := by decide

/-- A text in pieces, with a break before each piece but the first. -/
structure Layout where
  first : Text
  rest : List (LineBreak × Text)
  ending : LineEnd

namespace Layout

/-- The pieces on one line, a blank where each break is. -/
def textFrom (first : Text) (rest : List (LineBreak × Text)) : Text :=
  first ++ rest.flatMap fun (lineBreak, piece) => lineBreak.place :: piece

/-- The text on one line. -/
def text (layout : Layout) : Text := textFrom layout.first layout.rest

/-- The pieces on lines of their own. -/
def linesFrom (ending : LineEnd) : Text → List (LineBreak × Text) → List Line
  | piece, [] => [piece ++ ending.text]
  | piece, (lineBreak, next) :: rest =>
    (piece ++ lineBreak.ending.text) ::
      (lineBreak.between.map (·.text) ++ linesFrom ending (lineBreak.indent ++ next) rest)

/-- The lines of the layout below what stands before it on its first line. -/
def lines (layout : Layout) (lead : Text) : List Line :=
  linesFrom layout.ending (lead ++ layout.first) layout.rest

/-- Every break stands outside literals and before the colon that ends the header. -/
def fitsFrom : Reading → Text → List (LineBreak × Text) → Bool
  | _, _, [] => true
  | reading, piece, (lineBreak, next) :: rest =>
    (reading.after piece).allowsBreak &&
      fitsFrom (reading.after (piece ++ [lineBreak.place])) next rest

/-- Every break stands outside literals and before the colon that ends the header. -/
def fits (layout : Layout) : Bool := fitsFrom (.params 0) layout.first layout.rest

/-- The number of lines that the breaks add. -/
def added (layout : Layout) : Nat := (layout.lines []).length - 1

theorem textFrom_cons (first : Text) (lineBreak : LineBreak) (piece : Text)
    (rest : List (LineBreak × Text)) :
    textFrom first ((lineBreak, piece) :: rest) =
      first ++ lineBreak.place :: textFrom piece rest := by
  simp [textFrom]

theorem textFrom_append (lead first : Text) (rest : List (LineBreak × Text)) :
    textFrom (lead ++ first) rest = lead ++ textFrom first rest := List.append_assoc _ _ _

theorem fitsFrom_append (reading : Reading) (lead first : Text) (rest : List (LineBreak × Text)) :
    fitsFrom reading (lead ++ first) rest = fitsFrom (reading.after lead) first rest := by
  cases rest with
  | nil => rfl
  | cons pair rest =>
    obtain ⟨lineBreak, piece⟩ := pair
    rw [fitsFrom, fitsFrom, List.append_assoc, Reading.after_append, Reading.after_append]

/-- What stands before a layout on its first line changes that line alone. -/
theorem lines_eq (layout : Layout) :
    ∃ first more, (∀ lead, layout.lines lead = (lead ++ first) :: more) ∧ more.length = layout.added := by
  obtain ⟨first, rest, ending⟩ := layout
  cases rest with
  | nil => exact ⟨first ++ ending.text, [], fun lead => by simp [lines, linesFrom], rfl⟩
  | cons pair rest =>
    obtain ⟨lineBreak, piece⟩ := pair
    refine ⟨first ++ lineBreak.ending.text, _, fun lead => ?_, rfl⟩
    rw [lines, linesFrom, List.append_assoc]

end Layout

/-! ### Reading a layout -/

/-- What a line break adds to the parameter text. -/
def lineGap (reading : Reading) : Text := if reading.isOpen then [' '] else []

theorem allBlank_lineGap (reading : Reading) : allBlank (lineGap reading) = true := by
  unfold lineGap
  split <;> decide

/-- The text that is read before a line break, with what is read below it. -/
def proceed (reading : Reading) (text : Text) (below : Text × Nat) : Text × Nat :=
  (text ++ (lineGap reading ++ below.1), below.2)

/-- **The end of a line adds blanks at most**, and leaves the reading as it was. -/
theorem LineEnd.leaves (ending : LineEnd) {reading : Reading} (loose : reading.IsLoose) :
    allBlank (reading.kept ending.text) = true ∧ reading.after ending.text ≠ .ended ∧
      (reading.after ending.text).nextLine = reading ∧
      (reading.after ending.text).isOpen = reading.isOpen := by
  obtain ⟨blanks, comment, blank⟩ := ending
  have same := loose.after_blanks blank
  have keeps := loose.allBlank_kept blank
  unfold LineEnd.text
  cases comment with
  | none =>
    rw [List.append_nil, same]
    cases loose with
    | params inner => exact ⟨keeps, by simp, rfl, rfl⟩
    | past => exact ⟨keeps, by simp, rfl, rfl⟩
  | some comment =>
    simp only [Reading.kept_append, Reading.after_append, same]
    cases loose with
    | params inner =>
      have hidden : (Reading.params inner).after ('#' :: comment) = .comment inner :=
        Reading.after_comment inner comment
      have nothing : (Reading.params inner).kept ('#' :: comment) = [] :=
        Reading.kept_comment inner comment
      rw [hidden, nothing, List.append_nil]
      exact ⟨keeps, by simp, rfl, rfl⟩
    | past =>
      have hidden : Reading.past.after ('#' :: comment) = .pastComment :=
        Reading.after_pastComment comment
      have nothing : Reading.past.kept ('#' :: comment) = [] :=
        (Reading.kept_of_not_isOpen rfl _).1
      rw [hidden, nothing, List.append_nil]
      exact ⟨keeps, by simp, rfl, rfl⟩

theorem signatureFrom_cons {reading : Reading} {pos : Nat} {line : Line} {rest : List Line}
    (goesOn : reading.after line ≠ .ended) :
    signatureFrom reading pos (line :: rest) =
      (signatureFrom (reading.after line).nextLine (pos + 1) rest).map
        (proceed (reading.after line) (reading.kept line)) := by
  rw [signatureFrom, Reading.readLine_eq]
  simp only
  rw [if_neg goesOn]
  congr 1
  funext below
  rw [proceed, lineGap]
  split <;> rfl

theorem signatureFrom_ended {reading : Reading} {line : Line} (ends : reading.after line = .ended)
    (pos : Nat) (rest : List Line) :
    signatureFrom reading pos (line :: rest) = some (reading.kept line, pos + 1) := by
  rw [signatureFrom, Reading.readLine_eq]
  simp only
  rw [if_pos ends]

/-- A line that goes on after a piece of the header. -/
theorem signatureFrom_piece {reading : Reading} (piece : Text) (loose : (reading.after piece).IsLoose)
    (ending : LineEnd) (pos : Nat) (rest : List Line) :
    signatureFrom reading pos ((piece ++ ending.text) :: rest) =
      (signatureFrom (reading.after piece) (pos + 1) rest).map
        (proceed (reading.after piece)
          (reading.kept piece ++ (reading.after piece).kept ending.text)) := by
  obtain ⟨-, goesOn, next, same⟩ := ending.leaves loose
  rw [signatureFrom_cons (by rwa [Reading.after_append]), Reading.after_append, next,
    Reading.kept_append]
  unfold proceed lineGap
  rw [same]

theorem isOpen_nextLine (reading : Reading) : reading.nextLine.isOpen = reading.isOpen := by
  cases reading <;> rfl

/-- Nothing is read after the closing parenthesis. -/
theorem signatureFrom_past {reading : Reading} (past : reading.isOpen = false) {pos next : Nat}
    {ls : List Line} {params : Text} (same : signatureFrom reading pos ls = some (params, next)) :
    params = [] := by
  induction ls generalizing reading pos next params with
  | nil => cases same
  | cons line rest ih =>
    obtain ⟨nothing, stays⟩ := Reading.kept_of_not_isOpen past line
    by_cases ends : reading.after line = .ended
    · rw [signatureFrom_ended ends, nothing] at same
      cases same
      rfl
    · rw [signatureFrom_cons ends, nothing] at same
      obtain ⟨⟨more, last⟩, isMore, shown⟩ := Option.map_eq_some_iff.mp same
      have empty := ih (by rwa [isOpen_nextLine]) isMore
      rw [proceed, lineGap, stays, empty] at shown
      exact (Prod.mk.inj shown).1.symm

/-- Lines that hold blanks and comments only add blanks at most. -/
theorem signatureFrom_between {reading : Reading} (loose : reading.IsLoose) (between : List LineEnd)
    (pos : Nat) (rest : List Line) :
    ∃ blanks, allBlank blanks = true ∧
      signatureFrom reading pos (between.map (·.text) ++ rest) =
        (signatureFrom reading (pos + between.length) rest).map fun below =>
          (blanks ++ below.1, below.2) := by
  induction between generalizing pos with
  | nil => exact ⟨[], rfl, Option.map_id'.symm⟩
  | cons ending between ih =>
    obtain ⟨blanks, blank, below⟩ := ih (pos + 1)
    obtain ⟨keeps, -⟩ := ending.leaves loose
    have here := signatureFrom_piece [] loose ending pos (between.map (·.text) ++ rest)
    refine ⟨reading.kept ending.text ++ (lineGap reading ++ blanks), ?_, ?_⟩
    · exact allBlank_append keeps (allBlank_append (allBlank_lineGap reading) blank)
    · rw [List.map_cons, List.cons_append, ← List.nil_append ending.text, here]
      show (signatureFrom reading (pos + 1) _).map (proceed reading (reading.kept ending.text)) = _
      rw [below, Option.map_map, List.length_cons, Nat.add_comm between.length, ← Nat.add_assoc]
      congr 1
      funext result
      simp only [Function.comp_apply, proceed, List.append_assoc, List.nil_append]

/-- A broken line and the lines below it that hold nothing: blanks stand for the break, and between the
parentheses there are some. -/
theorem signatureFrom_break {reading : Reading} (piece : Text) (loose : (reading.after piece).IsLoose)
    (lineBreak : LineBreak) (pos : Nat) (rest : List Line) :
    ∃ gap, allBlank gap = true ∧ ((reading.after piece).isOpen = true → gap ≠ []) ∧
      signatureFrom reading pos
          ((piece ++ lineBreak.ending.text) :: (lineBreak.between.map (·.text) ++ rest)) =
        (signatureFrom (reading.after piece) (pos + 1 + lineBreak.between.length) rest).map
          fun below => (reading.kept piece ++ (gap ++ below.1), below.2) := by
  obtain ⟨keeps, -⟩ := lineBreak.ending.leaves loose
  obtain ⟨blanks, blank, below⟩ := signatureFrom_between loose lineBreak.between (pos + 1) rest
  refine ⟨(reading.after piece).kept lineBreak.ending.text ++
    (lineGap (reading.after piece) ++ blanks), ?_, ?_, ?_⟩
  · exact allBlank_append keeps (allBlank_append (allBlank_lineGap _) blank)
  · intro isOpen
    simp [lineGap, isOpen]
  · rw [signatureFrom_piece piece loose, below, Option.map_map]
    congr 1
    funext result
    simp only [Function.comp_apply, proceed, List.append_assoc]

/-- The blanks of a break keep the same words apart as the blank that the break stands for. -/
theorem words_break {outside : Reading} (loose : outside.IsLoose) (before : Text) {gap : Text}
    (blank : allBlank gap = true) (nonempty : outside.isOpen = true → gap ≠ []) {place : Char}
    (isBlank_place : isBlank place = true) {text params : Text} {pos next : Nat} {ls : List Line}
    (isParams : signatureFrom outside pos ls = some (params, next))
    (sameWords : words params = words (outside.kept text)) :
    words (before ++ (gap ++ params)) = words (before ++ outside.kept (place :: text)) := by
  cases loose with
  | params inner =>
    rw [words_append_blanks _ blank (nonempty rfl), sameWords, Reading.kept_blank inner isBlank_place,
      words_append_cons _ isBlank_place]
  | past =>
    have nothing : Reading.past.kept (place :: text) = [] := (Reading.kept_of_not_isOpen rfl _).1
    rw [signatureFrom_past rfl isParams, List.append_nil, words_append_of_allBlank _ blank, nothing,
      List.append_nil]

/-- **The lines of a layout are read to the words of its text on one line**, and to its last line. -/
theorem signatureFrom_lines {reading : Reading} {first : Text} {rest : List (LineBreak × Text)}
    (fits : Layout.fitsFrom reading first rest = true)
    (ends : reading.after (Layout.textFrom first rest) = .ended) (ending : LineEnd) (pos : Nat)
    (below : List Line) :
    ∃ params, signatureFrom reading pos (Layout.linesFrom ending first rest ++ below) =
        some (params, pos + (Layout.linesFrom ending first rest).length) ∧
      words params = words (reading.kept (Layout.textFrom first rest)) := by
  -- the reading after a piece is the reading before the next one, as blanks leave it alone
  induction rest generalizing reading first pos with
  | nil =>
    rw [Layout.textFrom, List.flatMap_nil, List.append_nil] at ends ⊢
    have whole : reading.after (first ++ ending.text) = .ended := by
      rw [Reading.after_append, ends, Reading.after_ended]
    have nothing : Reading.ended.kept ending.text = [] := (Reading.kept_of_not_isOpen rfl _).1
    refine ⟨_, signatureFrom_ended whole pos below, ?_⟩
    rw [Reading.kept_append, ends, nothing, List.append_nil]
  | cons pair rest ih =>
    obtain ⟨lineBreak, piece⟩ := pair
    obtain ⟨allows, later⟩ := Bool.and_eq_true_iff.mp fits
    rw [Layout.textFrom_cons, Reading.after_append] at ends
    rw [Layout.textFrom_cons, Reading.kept_append]
    have loose := Reading.isLoose_of_allowsBreak allows ends
    have place := loose.step_blank lineBreak.isBlank_place
    have indent := loose.after_blanks lineBreak.allBlank_indent
    have fitsBelow : Layout.fitsFrom (reading.after first) (lineBreak.indent ++ piece) rest = true := by
      rw [Layout.fitsFrom_append, indent]
      rwa [Reading.after_append, Reading.after_cons, Reading.after_nil, place] at later
    have endsBelow : (reading.after first).after
        (Layout.textFrom (lineBreak.indent ++ piece) rest) = .ended := by
      rw [Layout.textFrom_append, Reading.after_append, indent]
      rwa [Reading.after_cons, place] at ends
    obtain ⟨params, isParams, sameWords⟩ := ih fitsBelow endsBelow (pos + 1 + lineBreak.between.length)
    obtain ⟨gap, blank, nonempty, isBreak⟩ := signatureFrom_break first loose lineBreak pos
      (Layout.linesFrom ending (lineBreak.indent ++ piece) rest ++ below)
    rw [Layout.textFrom_append, Reading.kept_append, indent,
      words_blanks_append (loose.allBlank_kept lineBreak.allBlank_indent)] at sameWords
    refine ⟨reading.kept first ++ (gap ++ params), ?_,
      words_break loose _ blank nonempty lineBreak.isBlank_place isParams sameWords⟩
    rw [Layout.linesFrom, List.cons_append, List.append_assoc, isBreak, isParams, Option.map_some,
      List.length_cons, List.length_append, List.length_map]
    congr 2
    omega

/-- **The signature is the same on one line and over several**, and it ends where the lines end. -/
theorem readSignature_lines {layout : Layout} (fits : layout.fits = true)
    (ends : (Reading.params 0).after layout.text = .ended) {first : Line} {more : List Line}
    (isLines : layout.lines [] = first :: more) (pos : Nat) (name : Text) (below : List Line) :
    ∃ params, readSignature pos name layout.text below = .ok (params, pos + 1) ∧
      readSignature pos name first (more ++ below) = .ok (params, pos + 1 + more.length) := by
  obtain ⟨raw, isRaw, sameWords⟩ := signatureFrom_lines fits ends layout.ending pos below
  refine ⟨squeeze ((Reading.params 0).kept layout.text), ?_, ?_⟩
  · rw [readSignature, signatureFrom_ended ends]
  · rw [show Layout.linesFrom layout.ending layout.first layout.rest = first :: more from isLines,
      List.length_cons, Nat.add_comm more.length, ← Nat.add_assoc, List.cons_append] at isRaw
    rw [readSignature, isRaw]
    simp only
    rw [squeeze, sameWords]
    rfl

end Declaration

end ReferencePages
