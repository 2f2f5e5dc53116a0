/-
**Paragraphs.**

A document puts its prose, its tables and its calls below headings, an empty line before each. Such
a text is a paragraph: its lines are a passage whose last line is neither blank nor a rule.

* `paragraph_of_line`, `paragraph_table`, `paragraph_escapeText`: single lines, tables and prose that
  closes its fences and does not end with a rule;
* `headed_joinParagraphs`: a heading with paragraphs below it is a headed text;
* `sleek_joinParagraphs`, `smooth_joinSections`: no carriage return gets before a break when texts
  are put together.
-/

import ReferencePages.Proofs.Document.ReadBack

namespace ReferencePages

open Text Markdown

namespace Document

/-! ### Lines that count -/

/-- A line that starts with a written character other than `*` is no rule. -/
theorem isBlankOrRule_cons {c : Char} (rest : Text) (notBlank : isBlank c = false)
    (noStar : c ≠ '*') : isBlankOrRule (c :: rest) = false := by
  have written : allBlank (c :: rest) = false := by simp [allBlank, notBlank]
  have start : trimStart (c :: rest) = c :: rest := List.dropWhile_cons_of_neg (by simp [notBlank])
  have notRule : trim (c :: rest) ≠ rule := by
    intro isRule
    obtain ⟨taken, same⟩ := exists_append_trimEnd (c :: rest)
    unfold trim at isRule
    rw [start] at isRule
    rw [isRule] at same
    exact noStar (List.cons.inj same).1
  unfold isBlankOrRule
  rw [written, decide_eq_false notRule]
  rfl

theorem isBlankOrRule_of_endsWritten {line : Line} (written : EndsWritten line)
    (notRule : trim line ≠ rule) : isBlankOrRule line = false := by
  unfold isBlankOrRule
  rw [written.not_allBlank, decide_eq_false notRule]
  rfl

theorem isBlankOrRule_signatureLine (signature : Text) :
    isBlankOrRule (signatureLine signature) = false := by
  have written : EndsWritten (signatureLine signature) :=
    ⟨"**`".toList ++ signature ++ "`*".toList, '*', by simp [signatureLine], by decide⟩
  refine isBlankOrRule_of_endsWritten written fun isRule => ?_
  have start : trimStart (signatureLine signature) = signatureLine signature := rfl
  unfold trim at isRule
  rw [start, trimEnd_of_endsWritten written] at isRule
  have third := congrArg (·[2]?) isRule
  simp [signatureLine, rule] at third

/-! ### Paragraphs -/

/-- Lines without headings, the last of them neither blank nor a rule. -/
structure Paragraph (t : Text) : Prop where
  laid : Laid t
  nonempty : lines t ≠ []
  passage : Passage (lines t)
  written : ∀ last ∈ (lines t).getLast?, isBlankOrRule last = false

theorem Paragraph.smooth {t : Text} (paragraph : Paragraph t) : Smooth t := by
  rw [← paragraph.laid.joined]
  exact smooth_joinLines paragraph.laid.clean

/-- A text of one line. -/
theorem lines_of_isLine {line : Line} (isLine : IsLine line) (nonempty : line ≠ []) :
    lines line = [line] := by
  have clean : ∀ other ∈ [line], IsLine other := by simpa using isLine
  have same := lines_joinLines clean (by simpa using nonempty)
  rwa [joinLines_singleton] at same

theorem paragraph_of_line {line : Line} (isLine : IsLine line) (plain : IsPlain line)
    (counts : isBlankOrRule line = false) : Paragraph line := by
  have nonempty : line ≠ [] := by
    rintro rfl
    cases counts
  have same := lines_of_isLine isLine nonempty
  refine ⟨⟨?_, ?_⟩, ?_, ?_, ?_⟩
  · rw [same, joinLines_singleton]
  · rw [same]
    simpa using isLine
  · rw [same]
    exact List.cons_ne_nil _ _
  · rw [same]
    exact passage_singleton isLine plain
  · rw [same]
    simpa using counts

theorem paragraph_joinLines {ls : List Line} (nonempty : ls ≠ []) (passage : Passage ls)
    (written : ∀ last ∈ ls.getLast?, isBlankOrRule last = false) : Paragraph (joinLines ls) := by
  have lastWritten : ls.getLast? ≠ some [] := by
    intro ends
    have counts := written [] ends
    cases counts
  have same := lines_joinLines passage.clean lastWritten
  exact ⟨laid_joinLines passage.clean lastWritten, by rwa [same], by rwa [same], by rwa [same]⟩

/-! ### Tables -/

theorem unbroken_row {cells : List Text} (unbroken : ∀ c ∈ cells, '\n' ∉ c) : '\n' ∉ row cells := by
  have inner : '\n' ∉ join [' ', '|', ' '] cells := by
    intro member
    rcases mem_join member with inMark | ⟨c, inCells, inside⟩
    · exact absurd inMark (by decide)
    · exact unbroken c inCells inside
  unfold row
  simp [inner]

theorem endsWritten_row (cells : List Text) : EndsWritten (row cells) :=
  ⟨['|', ' '] ++ join [' ', '|', ' '] cells ++ [' '], '|', by simp [row], by decide⟩

theorem isPlain_row (cells : List Text) : IsPlain (row cells) :=
  isPlain_cons _ (by decide) (by decide) (by decide) (by decide)

theorem isBlankOrRule_row (cells : List Text) : isBlankOrRule (row cells) = false :=
  isBlankOrRule_cons _ (by decide) (by decide)

theorem unbroken_code {t : Text} (unbroken : '\n' ∉ t) : '\n' ∉ code t := by
  unfold code
  simp [unbroken]

theorem unbroken_cell (t : Text) : '\n' ∉ cell t :=
  not_mem_escapeChar (by decide) (not_mem_squeeze t)

/-- A table of rows on one line each. -/
theorem paragraph_table {columns : List String} (heads : ∀ column ∈ columns, '\n' ∉ column.toList)
    {rows : List (List Text)} (unbroken : ∀ cells ∈ rows, ∀ c ∈ cells, '\n' ∉ c) :
    Paragraph (table columns (rows.map row)) ∧ EndsWritten (table columns (rows.map row)) := by
  have asRows : ∃ all : List (List Text),
      row (columns.map (·.toList)) :: row (columns.map fun _ => "---".toList) :: rows.map row =
        all.map row ∧ all ≠ [] ∧ ∀ cells ∈ all, ∀ c ∈ cells, '\n' ∉ c := by
    refine ⟨columns.map (·.toList) :: (columns.map fun _ => "---".toList) :: rows, rfl,
      List.cons_ne_nil _ _, fun cells member c inside => ?_⟩
    rcases List.mem_cons.mp member with rfl | member
    · obtain ⟨column, inColumns, rfl⟩ := List.mem_map.mp inside
      exact heads column inColumns
    rcases List.mem_cons.mp member with rfl | member
    · obtain ⟨column, -, rfl⟩ := List.mem_map.mp inside
      decide
    · exact unbroken cells member c inside
  obtain ⟨all, same, nonempty, clean⟩ := asRows
  obtain ⟨before, last, split⟩ := (List.eq_nil_or_concat' all).resolve_left nonempty
  have ends : (all.map row).getLast? = some (row last) := by
    rw [split, List.map_append, List.map_singleton, List.getLast?_concat]
  unfold table
  rw [same]
  refine ⟨paragraph_joinLines (by simpa using nonempty) (passage_of_plain ?_ ?_) ?_,
    endsWritten_joinLines ends (endsWritten_row last)⟩
  · intro line member
    obtain ⟨cells, inside, rfl⟩ := List.mem_map.mp member
    exact (endsWritten_row cells).isLine (unbroken_row (clean cells inside))
  · intro line member
    obtain ⟨cells, -, rfl⟩ := List.mem_map.mp member
    exact isPlain_row cells
  · intro line member
    obtain ⟨cells, -, rfl⟩ := List.mem_map.mp (List.mem_of_getLast? member)
    exact isBlankOrRule_row cells

/-! ### Prose -/

/-- The last line of the text, blanks at its end apart, is a rule. -/
def EndsWithRule (t : Text) : Prop := ∃ last ∈ (lines (trimEnd t)).getLast?, trim last = rule

instance (t : Text) : Decidable (EndsWithRule t) :=
  decidable_of_iff ((lines (trimEnd t)).getLast?.any (trim · = rule) = true) <| by
    unfold EndsWithRule
    cases (lines (trimEnd t)).getLast? <;> simp

/-- Every fence that the text opens is closed in it. -/
def ClosesFences (t : Text) : Prop := fenceAfterAll none (lines t) = none

instance (t : Text) : Decidable (ClosesFences t) :=
  inferInstanceAs (Decidable (fenceAfterAll none (lines t) = none))

/-- The last line of escaped prose. -/
theorem getLast?_escapeText {t : Text} (tidy : Tidy t) (nonempty : t ≠ []) :
    ∃ last shown, (lines t).getLast? = some last ∧ EndsWritten last ∧
      (escapeLines none (lines t)).getLast? = some shown ∧ (shown = last ∨ shown = '\\' :: last) := by
  obtain ⟨last, ends, written⟩ := tidy.getLast?_lines nonempty
  rcases getLast?_escapeLines ends none with same | escaped
  · exact ⟨last, last, ends, written, same, Or.inl rfl⟩
  · exact ⟨last, '\\' :: last, ends, written, escaped, Or.inr rfl⟩

theorem endsWritten_escapeText {t : Text} (tidy : Tidy t) (nonempty : t ≠ []) :
    EndsWritten (escapeText t) := by
  obtain ⟨last, shown, -, written, ends, same⟩ := getLast?_escapeText tidy nonempty
  refine endsWritten_joinLines ends ?_
  rcases same with rfl | rfl
  · exact written
  · exact written.append ['\\']

/-- **Prose that closes its fences and does not end with a rule is a paragraph.** -/
theorem paragraph_escapeText {t : Text} (tidy : Tidy t) (nonempty : t ≠ [])
    (closed : ClosesFences t) (noRule : ¬ EndsWithRule t) : Paragraph (escapeText t) := by
  obtain ⟨last, shown, isLast, written, ends, same⟩ := getLast?_escapeText tidy nonempty
  refine paragraph_joinLines ?_ (passage_escapeLines tidy.isLine closed) fun other member => ?_
  · intro empty
    rw [empty] at ends
    cases ends
  · rw [← Option.some.inj (ends.symm.trans member)]
    rcases same with rfl | rfl
    · refine isBlankOrRule_of_endsWritten written fun isRule => noRule ⟨shown, ?_, isRule⟩
      rwa [tidy.trimmed]
    · exact isBlankOrRule_cons _ (by decide) (by decide)

/-! ### Paragraphs below a heading -/

/-- Laid out texts with an empty line between each two are laid out lines. -/
theorem joinParagraphs_eq {first : Line} {parts : List Text}
    (laid : ∀ part ∈ parts, Laid part ∧ lines part ≠ []) :
    joinParagraphs (first :: parts) =
      joinLines (first :: parts.flatMap fun part => [] :: lines part) := by
  have same : parts.map id = (parts.map lines).map joinLines := by
    rw [List.map_map]
    exact List.map_congr_left fun part member => (laid part member).1.joined.symm
  have written : ∀ paragraph ∈ parts.map lines, paragraph ≠ [] := by
    intro paragraph member
    obtain ⟨part, inside, rfl⟩ := List.mem_map.mp member
    exact (laid part inside).2
  have joined := joinParagraphs_joinLines [first] (List.cons_ne_nil _ _) (parts.map lines) written
  rw [List.map_id] at same
  rw [joinLines_singleton, ← same, List.flatMap_map] at joined
  exact joined

theorem isLine_of_joinParagraphs {first : Line} {parts : List Text} (isLine : IsLine first)
    (laid : ∀ part ∈ parts, Laid part ∧ lines part ≠ []) :
    ∀ line ∈ first :: parts.flatMap fun part => [] :: lines part, IsLine line := by
  intro line member
  rcases List.mem_cons.mp member with rfl | inParts
  · exact isLine
  · obtain ⟨part, inside, inPart⟩ := List.mem_flatMap.mp inParts
    rcases List.mem_cons.mp inPart with rfl | inLines
    · exact IsLine.nil
    · exact (laid part inside).1.clean line inLines

/-- **A heading with paragraphs below it is a headed text.** -/
theorem headed_joinParagraphs {heading : Heading} {line : Line} (isLine : IsLine line)
    (start : line.head? = some '#') (isHeading : heading? line = some heading) {parts : List Text}
    (paragraphs : ∀ part ∈ parts, Paragraph part) :
    Headed heading (joinParagraphs (line :: parts)) := by
  have laid : ∀ part ∈ parts, Laid part ∧ lines part ≠ [] :=
    fun part member => ⟨(paragraphs part member).laid, (paragraphs part member).nonempty⟩
  have clean := isLine_of_joinParagraphs isLine laid
  have passage : Passage (parts.flatMap fun part => [] :: lines part) := by
    have each : ∀ paragraph ∈ parts.map lines, Passage paragraph := by
      intro paragraph member
      obtain ⟨part, inside, rfl⟩ := List.mem_map.mp member
      exact (paragraphs part inside).passage
    have below := passage_flatMap each
    rwa [List.flatMap_map] at below
  have counts : isBlankOrRule line = false := by
    cases line with
    | nil => cases start
    | cons c rest =>
      rw [List.head?_cons, Option.some.injEq] at start
      rw [start]
      exact isBlankOrRule_cons rest (by decide) (by decide)
  have written : ∀ last ∈ (line :: parts.flatMap fun part => [] :: lines part).getLast?,
      isBlankOrRule last = false := by
    intro last member
    rw [← List.singleton_append, List.getLast?_append, Option.mem_def,
      Option.or_eq_some_iff] at member
    rcases member with inParts | ⟨-, alone⟩
    · have each : ∀ part ∈ parts, ∀ other ∈ ([] :: lines part).getLast?,
          isBlankOrRule other = false := by
        intro part inside other isLast
        rw [List.getLast?_cons_of_ne_nil (paragraphs part inside).nonempty] at isLast
        exact (paragraphs part inside).written other isLast
      exact forall_getLast?_flatMap each last inParts
    · rw [← Option.some.inj alone]
      exact counts
  have lastWritten : (line :: parts.flatMap fun part => [] :: lines part).getLast? ≠ some [] := by
    intro ends
    have counts := written [] ends
    cases counts
  have same := lines_joinLines clean lastWritten
  rw [joinParagraphs_eq laid]
  exact ⟨laid_joinLines clean lastWritten, ⟨line, _, same, start, isHeading, passage⟩, by rwa [same]⟩

/-! ### Smooth texts put together -/

theorem smooth_append {first second : Text} (one : Smooth first) (two : Smooth second)
    (noReturn : first.getLast? ≠ some '\r') : Smooth (first ++ second) := by
  refine List.IsChain.append one two ?_
  rintro c inLast next - ⟨rfl, -⟩
  exact noReturn inLast

theorem smooth_break {t : Text} (smooth : Smooth t) : Smooth ('\n' :: t) :=
  List.IsChain.cons smooth fun next _ => by simp

/-- What trimming leaves of a smooth text, with whatever smooth text behind it. -/
theorem smooth_trimEnd_append {first second : Text} (one : Smooth first) (two : Smooth second) :
    Smooth (trimEnd first ++ second) := by
  obtain ⟨taken, same⟩ := exists_append_trimEnd first
  have left : Smooth (trimEnd first) := by
    rw [same] at one
    exact one.left
  refine smooth_append left two ?_
  rcases endsWritten_trimEnd first with empty | written
  · rw [empty]
    simp
  · exact written.noReturn

/-- The rule between two sections, with the breaks around it. -/
theorem smooth_rule : Smooth ("\n\n".toList ++ rule ++ "\n\n".toList) := by
  have clean : ∀ line ∈ [[], [], rule, [], []], IsLine line := by
    intro line member
    simp only [List.mem_cons, List.not_mem_nil, or_false] at member
    rcases member with rfl | rfl | rfl | rfl | rfl <;> exact ⟨by decide, by decide⟩
  exact smooth_joinLines clean

theorem smooth_joinSections {preamble : Text} {sections : List Text} (smooth : Smooth preamble)
    (each : ∀ s ∈ sections, Smooth s) : Smooth (joinSections preamble sections) := by
  have rest : Smooth ((sections.flatMap fun s =>
      "\n\n".toList ++ rule ++ "\n\n".toList ++ trimEnd s) ++ ['\n']) := by
    induction sections with
    | nil => exact smooth_break .nil
    | cons s later ih =>
      have below := smooth_trimEnd_append (each s List.mem_cons_self)
        (ih fun other member => each other (List.mem_cons_of_mem _ member))
      rw [List.flatMap_cons, List.append_assoc, List.append_assoc]
      exact smooth_append smooth_rule below (by decide)
  unfold joinSections
  rw [List.append_assoc]
  exact smooth_trimEnd_append smooth rest

/-- No carriage return stands before a break or at the end of the text. -/
def Sleek (t : Text) : Prop := Smooth (t ++ ['\n'])

theorem Sleek.smooth {t : Text} (sleek : Sleek t) : Smooth t := Smooth.left sleek

theorem sleek_of_endsWritten {t : Text} (smooth : Smooth t) (written : EndsWritten t) : Sleek t :=
  smooth_append smooth (smooth_break .nil) written.noReturn

theorem sleek_of_isLine {line : Line} (isLine : IsLine line) : Sleek line :=
  smooth_append (smooth_of_not_mem isLine.unbroken) (smooth_break .nil) isLine.noReturn

theorem sleek_joinParagraphs {parts : List Text} (each : ∀ part ∈ parts, Sleek part) :
    Sleek (joinParagraphs parts) := by
  induction parts with
  | nil => exact smooth_break .nil
  | cons first rest ih =>
    have here := each first List.mem_cons_self
    have others := ih fun other member => each other (List.mem_cons_of_mem _ member)
    by_cases alone : rest = []
    · rw [alone, joinParagraphs_singleton]
      exact here
    · have same : joinParagraphs (first :: rest) ++ ['\n'] =
          (first ++ ['\n']) ++ '\n' :: (joinParagraphs rest ++ ['\n']) := by
        rw [joinParagraphs_cons first alone]
        simp
      unfold Sleek
      rw [same]
      exact smooth_append here (smooth_break others) (by simp)

theorem smooth_titled {title body : Text} (isTitle : Part.IsTitle title) (smooth : Smooth body) :
    Smooth (titled title body) := by
  have same : titled title body = ("## ".toList ++ title) ++ '\n' :: '\n' :: body := by
    simp [titled]
  rw [same]
  exact smooth_append (smooth_of_not_mem isTitle.isLine.unbroken) (smooth_break (smooth_break smooth))
    isTitle.isLine.noReturn

/-! ### Trimmed paragraphs -/

/-- Paragraphs end with the last of them. -/
theorem joinParagraphs_concat (before : List Text) :
    ∃ above, ∀ last, joinParagraphs (before ++ [last]) = above ++ last := by
  induction before with
  | nil =>
    refine ⟨[], fun last => ?_⟩
    rw [List.nil_append, joinParagraphs_singleton, List.nil_append]
  | cons first rest ih =>
    obtain ⟨above, joined⟩ := ih
    refine ⟨first ++ '\n' :: '\n' :: above, fun last => ?_⟩
    rw [List.cons_append, joinParagraphs_cons first (by simp), joined]
    simp

theorem trimEnd_joinParagraphs (before : List Text) {last : Text} (left : trimEnd last ≠ []) :
    trimEnd (joinParagraphs (before ++ [last])) = joinParagraphs (before ++ [trimEnd last]) := by
  obtain ⟨above, joined⟩ := joinParagraphs_concat before
  rw [joined, joined, trimEnd_append above left]

end Document

end ReferencePages
