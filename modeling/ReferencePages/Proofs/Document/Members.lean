/-
**The members of a neat class.**

What is written for a member of a neat class has the form in which the reader looks for it, as long
as its prose closes its fences and does not end with a rule:

* `isRow_variableRow`, `isBullet_fieldItem`: rows and bullets;
* `headed_functionBlock`, `headed_trimEnd_functionBlock`: function blocks, also without the blanks
  that an empty return description leaves at the end;
* `headed_preamble`: the preamble.

Without any condition on the prose, the texts are smooth (`tidy_fieldItem`, `sleek_functionBlock`,
`smooth_preamble`).
-/

import ReferencePages.Proofs.Document.Paragraphs
import ReferencePages.Proofs.Source.Records

namespace ReferencePages

open Text Markdown

namespace Document

/-! ### Rows -/

/-- The name behind a mark and before a backtick is the one shown. -/
theorem shownName?_append (mark : String) {name : Text} (noBacktick : '\x60' ∉ name) (rest : Text) :
    shownName? mark (mark.toList ++ (name ++ '\x60' :: rest)) = some name := by
  have opens : after? mark.toList (mark.toList ++ (name ++ '\x60' :: rest)) =
      some (name ++ '\x60' :: rest) := after?_eq_some_iff.mpr rfl
  have passes : ∀ c ∈ name, (! c == '\x60') = true := by
    intro c member
    have other : c ≠ '\x60' := fun same => noBacktick (same ▸ member)
    simpa using other
  have cut : cutAt? '\x60' (name ++ '\x60' :: rest) = some (name, rest) := by
    unfold cutAt? cutWhere?
    rw [List.dropWhile_append_of_pos passes, List.takeWhile_append_of_pos passes]
    simp
  unfold shownName?
  rw [opens]
  show (cutAt? '\x60' (name ++ '\x60' :: rest)).bind (fun pair => some pair.1) = some name
  rw [cut]
  rfl

theorem isRow_variableRow {v : ClassVariable} (isName : IsName v.name) :
    IsRow ⟨v.name, variableRow v⟩ := by
  refine ⟨unbroken_row ?_, endsWritten_row _, ?_⟩
  · intro c member
    simp only [List.mem_cons, List.not_mem_nil, or_false] at member
    rcases member with rfl | rfl | rfl | rfl
    · exact unbroken_code isName.unbroken
    · exact unbroken_cell _
    · exact unbroken_cell _
    · exact unbroken_cell _
  · have shape : ∃ tail, variableRow v = "| `".toList ++ (v.name ++ '\x60' :: tail) := by
      unfold variableRow row join code
      rw [List.intercalate_cons_of_ne_nil (List.cons_ne_nil _ _)]
      simp only [List.append_assoc]
      exact ⟨_, rfl⟩
    obtain ⟨tail, same⟩ := shape
    rw [same]
    exact shownName?_append "| `" isName.noBacktick tail

/-! ### Bullets -/

/-- The lines of the bullet of a field. -/
def fieldLines (f : Field) : List Line :=
  match lines f.description with
  | [] => [['-', ' '] ++ code f.name]
  | first :: rest => (['-', ' '] ++ code f.name ++ " — ".toList ++ first) :: rest.map continuation

theorem append_joinLines (start first : Text) (rest : List Text) :
    start ++ joinLines (first :: rest) = joinLines ((start ++ first) :: rest) := by
  cases rest with
  | nil => simp
  | cons second rest =>
    rw [joinLines_cons first (List.cons_ne_nil _ _), joinLines_cons (start ++ first)
      (List.cons_ne_nil _ _), List.append_assoc]

theorem fieldItem_eq (f : Field) : fieldItem f = joinLines (fieldLines f) := by
  unfold fieldItem fieldLines
  cases lines f.description with
  | nil => simp
  | cons first rest =>
    simp only
    rw [← append_joinLines]
    simp only [List.append_assoc]

/-- A further line of a bullet is empty or indented. -/
theorem continuation_eq (line : Line) :
    continuation line = [] ∨ continuation line = ' ' :: ' ' :: line := by
  unfold continuation
  split
  · exact Or.inl rfl
  · exact Or.inr rfl

theorem isLine_continuation {line : Line} (isLine : IsLine line) : IsLine (continuation line) := by
  unfold continuation
  split
  · exact IsLine.nil
  · rename_i nonempty
    exact IsLine.append (by decide : '\n' ∉ [' ', ' ']) isLine (by simpa using nonempty)

/-- The first line of a bullet. -/
theorem fieldLines_cons (f : Field) :
    ∃ tail rest, fieldLines f = ("- `".toList ++ (f.name ++ '\x60' :: tail)) :: rest ∧
      ∀ line ∈ rest, ∃ source ∈ lines f.description, line = continuation source := by
  unfold fieldLines
  cases lines f.description with
  | nil => exact ⟨[], [], by simp [code], by simp⟩
  | cons first rest =>
    refine ⟨" — ".toList ++ first, rest.map continuation, by simp [code], fun line member => ?_⟩
    obtain ⟨source, inside, rfl⟩ := List.mem_map.mp member
    exact ⟨source, List.mem_cons_of_mem _ inside, rfl⟩

theorem isLine_fieldLines {f : Field} (neat : f.Neat) : ∀ line ∈ fieldLines f, IsLine line := by
  have clean := neat.description.isLine
  have start : '\n' ∉ ['-', ' '] ++ code f.name ++ " —".toList := by
    simp [unbroken_code neat.name.unbroken]
  have written : EndsWritten (['-', ' '] ++ code f.name) :=
    ⟨['-', ' ', '\x60'] ++ f.name, '\x60', by simp [code], by decide⟩
  unfold fieldLines
  cases same : lines f.description with
  | nil =>
    intro line member
    rw [List.mem_singleton.mp member]
    exact written.isLine (by simp [unbroken_code neat.name.unbroken])
  | cons first rest =>
    rw [same] at clean
    intro line member
    rcases List.mem_cons.mp member with rfl | inRest
    · by_cases empty : first = []
      · have same : ['-', ' '] ++ code f.name ++ " — ".toList ++ first =
            (['-', ' '] ++ code f.name ++ " —".toList) ++ [' '] := by simp [empty]
        rw [same]
        exact IsLine.concat start (by decide) (by decide)
      · have same : ['-', ' '] ++ code f.name ++ " — ".toList ++ first =
            (['-', ' '] ++ code f.name ++ " —".toList ++ [' ']) ++ first := by simp
        rw [same]
        exact IsLine.append (by simpa using start) (clean first List.mem_cons_self) empty
    · obtain ⟨source, inside, rfl⟩ := List.mem_map.mp inRest
      exact isLine_continuation (clean source (List.mem_cons_of_mem _ inside))

/-- The last line of a bullet shows the name, or the last line of the description, indented. -/
theorem getLast?_fieldLines {f : Field} (neat : f.Neat) :
    ∃ last, (fieldLines f).getLast? = some last ∧ EndsWritten last ∧
      ((∃ tail, last = '-' :: tail) ∨
        ∃ source ∈ (lines f.description).getLast?, last = ' ' :: ' ' :: source) := by
  by_cases empty : f.description = []
  · refine ⟨['-', ' '] ++ code f.name, ?_, ?_, Or.inl ⟨_, rfl⟩⟩
    · unfold fieldLines
      rw [empty]
      rfl
    · exact ⟨['-', ' ', '\x60'] ++ f.name, '\x60', by simp [code], by decide⟩
  · obtain ⟨source, ends, written⟩ := neat.description.getLast?_lines empty
    unfold fieldLines
    cases same : lines f.description with
    | nil => exact absurd same (neat.description.lines_ne_nil empty)
    | cons first rest =>
      rw [same] at ends
      rcases List.eq_nil_or_concat' rest with rfl | ⟨before, last, rfl⟩
      · rw [List.getLast?_singleton, Option.some.injEq] at ends
        rw [ends]
        exact ⟨_, rfl, written.append _, Or.inl ⟨_, rfl⟩⟩
      · rw [← List.cons_append, List.getLast?_concat, Option.some.injEq] at ends
        have shown : continuation last = ' ' :: ' ' :: source := by
          unfold continuation
          rw [ends, if_neg (by simpa using written.ne_nil)]
        refine ⟨' ' :: ' ' :: source, ?_, written.append [' ', ' '], Or.inr ⟨source, ?_, rfl⟩⟩
        · show (_ :: List.map continuation (before ++ [last])).getLast? = _
          rw [List.map_append, List.map_singleton, ← List.cons_append, List.getLast?_concat, shown]
        · rw [← List.cons_append, List.getLast?_concat, ends]
          rfl

theorem tidy_fieldItem {f : Field} (neat : f.Neat) : Tidy (fieldItem f) := by
  obtain ⟨last, ends, written, -⟩ := getLast?_fieldLines neat
  rw [fieldItem_eq]
  exact ⟨smooth_joinLines (isLine_fieldLines neat),
    trimEnd_of_endsWritten (endsWritten_joinLines ends written)⟩

theorem lines_fieldItem {f : Field} (neat : f.Neat) : lines (fieldItem f) = fieldLines f := by
  obtain ⟨last, ends, written, -⟩ := getLast?_fieldLines neat
  rw [fieldItem_eq]
  refine lines_joinLines (isLine_fieldLines neat) fun empty => ?_
  exact written.ne_nil (Option.some.inj (ends.symm.trans empty))

/-- **The bullet of a field** whose description opens no fence and does not end with a rule. -/
theorem isBullet_fieldItem {f : Field} (neat : f.Neat)
    (noFence : ∀ line ∈ lines f.description, fenceOpened? line = none)
    (noRule : ¬ EndsWithRule f.description) : IsBullet ⟨f.name, fieldItem f⟩ := by
  have same := lines_fieldItem neat
  obtain ⟨tail, rest, shape, further⟩ := fieldLines_cons f
  refine ⟨tidy_fieldItem neat, ?_, ?_, ?_⟩
  · intro line member
    rw [same, shape] at member
    rcases List.mem_cons.mp member with rfl | inRest
    · exact isPlain_cons _ (by decide) (by decide) (by decide) (by decide)
    · obtain ⟨source, inside, rfl⟩ := further line inRest
      rcases continuation_eq source with empty | indented
      · rw [empty]
        exact isPlain_nil
      · rw [indented]
        exact ⟨noFence source inside, heading?_of_head? (by simp)⟩
  · refine ⟨_, rest, same.trans shape, shownName?_append "- `" neat.name.noBacktick tail, ?_⟩
    intro line inRest
    obtain ⟨source, -, rfl⟩ := further line inRest
    rcases continuation_eq source with empty | indented
    · rw [empty]
      rfl
    · rw [indented]
      rfl
  · obtain ⟨last, ends, written, start⟩ := getLast?_fieldLines neat
    intro other isLast
    rw [same] at isLast
    rw [← Option.some.inj (ends.symm.trans isLast)]
    rcases start with ⟨tail, rfl⟩ | ⟨source, isSource, rfl⟩
    · exact isBlankOrRule_cons _ (by decide) (by decide)
    · refine isBlankOrRule_of_endsWritten written fun isRule => noRule ⟨source, ?_, isRule⟩
      rwa [neat.description.trimmed]

/-! ### Function blocks -/

/-- The line that tells what a function returns. -/
def returnsLine (returns : Text) : Line := "_Returns:_ ".toList ++ escapeText returns

/-- The paragraphs of a function below its heading, `closing` being the last. -/
def functionParts (f : FunctionRecord) (closing : Option Line) : List Text :=
  f.signatures.map signatureLine ++ part f.body (escapeText f.body) ++
    (if f.parameters.isEmpty then []
      else [table parameterColumns (f.parameters.map parameterRow)]) ++ closing.toList

theorem functionBlock_eq (f : FunctionRecord) :
    functionBlock f =
      joinParagraphs (functionHeading f.name :: functionParts f (f.returns.map returnsLine)) := by
  have closing : (f.returns.map returnsLine).toList = f.returns.toList.map returnsLine := by
    cases f.returns <;> rfl
  unfold functionBlock functionParts
  rw [closing]
  simp only [List.append_assoc, List.singleton_append]
  rfl

theorem mem_part {t shown other : Text} (member : other ∈ part t shown) : t ≠ [] ∧ other = shown := by
  unfold part at member
  split at member
  · exact absurd member List.not_mem_nil
  · rename_i nonempty
    exact ⟨by simpa using nonempty, List.mem_singleton.mp member⟩

theorem isLine_signatureLine {signature : Text} (unbroken : '\n' ∉ signature) :
    IsLine (signatureLine signature) := by
  have same : signatureLine signature = ("**`".toList ++ signature ++ "`*".toList) ++ ['*'] := by
    simp [signatureLine]
  rw [same]
  exact IsLine.concat (by simp [unbroken]) (by decide) (by decide)

theorem endsWritten_signatureLine (signature : Text) : EndsWritten (signatureLine signature) :=
  ⟨"**`".toList ++ signature ++ "`*".toList, '*', by simp [signatureLine], by decide⟩

theorem paragraph_signatureLine {signature : Text} (unbroken : '\n' ∉ signature) :
    Paragraph (signatureLine signature) :=
  paragraph_of_line (isLine_signatureLine unbroken)
    (isPlain_cons _ (by decide) (by decide) (by decide) (by decide))
    (isBlankOrRule_signatureLine signature)

theorem paragraph_parameters {f : FunctionRecord} (neat : f.Neat) :
    Paragraph (table parameterColumns (f.parameters.map parameterRow)) ∧
      EndsWritten (table parameterColumns (f.parameters.map parameterRow)) := by
  have rows : f.parameters.map parameterRow = (f.parameters.map fun p =>
      [code p.name, cell p.declaredType, cell (p.default.getD []), cell p.description]).map row := by
    rw [List.map_map]
    rfl
  rw [rows]
  refine paragraph_table (by decide) fun cells member c inside => ?_
  obtain ⟨p, inParameters, rfl⟩ := List.mem_map.mp member
  simp only [List.mem_cons, List.not_mem_nil, or_false] at inside
  rcases inside with rfl | rfl | rfl | rfl
  · exact unbroken_code (neat.parameters p inParameters)
  · exact unbroken_cell _
  · exact unbroken_cell _
  · exact unbroken_cell _

/-- A line that starts with an underscore. -/
def IsClosing (line : Line) : Prop := IsLine line ∧ ∃ tail, line = '_' :: tail

theorem IsClosing.paragraph {line : Line} (closing : IsClosing line) : Paragraph line := by
  obtain ⟨isLine, tail, rfl⟩ := closing
  exact paragraph_of_line isLine (isPlain_cons _ (by decide) (by decide) (by decide) (by decide))
    (isBlankOrRule_cons _ (by decide) (by decide))

/-- A description on one line is escaped by at most a backslash before it. -/
theorem escapeText_of_line {t : Text} (isLine : IsLine t) (nonempty : t ≠ []) :
    escapeText t = t ∨ escapeText t = '\\' :: t := by
  unfold escapeText
  rw [lines_of_isLine isLine nonempty, escapeLines, escapeLines, joinLines_singleton]
  exact escapeLine_eq none t

theorem endsWritten_returnsLine {t : Text} (unbroken : '\n' ∉ t) (trimmed : trimEnd t = t)
    (nonempty : t ≠ []) : EndsWritten (returnsLine t) := by
  have written := endsWritten_of_trimEnd trimmed nonempty
  refine EndsWritten.append ?_ _
  rcases escapeText_of_line (written.isLine unbroken) nonempty with same | escaped
  · rwa [same]
  · rw [escaped]
    exact written.append ['\\']

theorem unbroken_returnsLine {t : Text} (unbroken : '\n' ∉ t) (trimmed : trimEnd t = t) :
    '\n' ∉ returnsLine t := by
  unfold returnsLine
  by_cases empty : t = []
  · subst empty
    decide
  · have isLine := isLine_of_trimmed unbroken trimmed
    rcases escapeText_of_line isLine empty with same | escaped
    · rw [same]
      simp [unbroken]
    · rw [escaped]
      simp [unbroken]

theorem isClosing_returnsLine {t : Text} (unbroken : '\n' ∉ t) (trimmed : trimEnd t = t) :
    IsClosing (returnsLine t) := by
  refine ⟨⟨unbroken_returnsLine unbroken trimmed, ?_⟩, _, rfl⟩
  by_cases empty : t = []
  · subst empty
    decide
  · exact (endsWritten_returnsLine unbroken trimmed empty).noReturn

/-- The line without the blank that an empty description leaves at its end. -/
theorem isClosing_trimEnd_returnsLine {t : Text} (unbroken : '\n' ∉ t) (trimmed : trimEnd t = t) :
    IsClosing (trimEnd (returnsLine t)) := by
  by_cases empty : t = []
  · subst empty
    exact ⟨⟨by decide, by decide⟩, "Returns:_".toList, by decide⟩
  · rw [trimEnd_of_endsWritten (endsWritten_returnsLine unbroken trimmed empty)]
    exact isClosing_returnsLine unbroken trimmed

theorem isLine_functionHeading {name : Text} (isName : IsName name) :
    IsLine (functionHeading name) := by
  refine ((endsWritten_escapeChar isName.endsWritten).append _).isLine ?_
  have unbroken : '\n' ∉ escapeChar '_' name :=
    not_mem_escapeChar (by decide) isName.unbroken
  simp [unbroken]

/-- **A function block**, whatever line closes it. -/
theorem headed_functionParts {f : FunctionRecord} (neat : f.Neat) (closed : ClosesFences f.body)
    (noRule : ¬ EndsWithRule f.body) {closing : Option Line}
    (closes : ∀ line ∈ closing, IsClosing line) :
    Headed ⟨4, trim (' ' :: escapeHeading f.name)⟩
      (joinParagraphs (functionHeading f.name :: functionParts f closing)) := by
  have isHeading : heading? (List.replicate 4 '#' ++ ' ' :: escapeHeading f.name) =
      some ⟨4, trim (' ' :: escapeHeading f.name)⟩ := heading?_replicate (by decide) (by decide) _
  refine headed_joinParagraphs (isLine_functionHeading neat.name) rfl isHeading fun shown member => ?_
  unfold functionParts at member
  rcases List.mem_append.mp member with member | inClosing
  · rcases List.mem_append.mp member with member | inTable
    · rcases List.mem_append.mp member with inSignatures | inBody
      · obtain ⟨signature, inside, rfl⟩ := List.mem_map.mp inSignatures
        exact paragraph_signatureLine (neat.signatures signature inside)
      · obtain ⟨nonempty, rfl⟩ := mem_part inBody
        exact paragraph_escapeText neat.body nonempty closed noRule
    · split at inTable
      · exact absurd inTable List.not_mem_nil
      · rw [List.mem_singleton.mp inTable]
        exact (paragraph_parameters neat).1
  · exact (closes shown (Option.mem_toList.mp inClosing)).paragraph

/-- The paragraphs of a function but the closing one end with written characters. -/
theorem endsWritten_functionParts {f : FunctionRecord} (neat : f.Neat) :
    ∀ shown ∈ functionHeading f.name :: functionParts f none, Smooth shown ∧ EndsWritten shown := by
  intro shown member
  rcases List.mem_cons.mp member with rfl | member
  · exact ⟨smooth_of_not_mem (isLine_functionHeading neat.name).unbroken,
      (endsWritten_escapeChar neat.name.endsWritten).append _⟩
  unfold functionParts at member
  rw [Option.toList_none, List.append_nil] at member
  rcases List.mem_append.mp member with member | inTable
  · rcases List.mem_append.mp member with inSignatures | inBody
    · obtain ⟨signature, inside, rfl⟩ := List.mem_map.mp inSignatures
      exact ⟨smooth_of_not_mem (isLine_signatureLine (neat.signatures signature inside)).unbroken,
        endsWritten_signatureLine signature⟩
    · obtain ⟨nonempty, rfl⟩ := mem_part inBody
      exact ⟨smooth_joinLines (isLine_escapeLines neat.body.isLine none),
        endsWritten_escapeText neat.body nonempty⟩
  · split at inTable
    · exact absurd inTable List.not_mem_nil
    · rw [List.mem_singleton.mp inTable]
      exact ⟨(paragraph_parameters neat).1.smooth, (paragraph_parameters neat).2⟩

theorem functionParts_some (f : FunctionRecord) (closing : Line) :
    functionHeading f.name :: functionParts f (some closing) =
      (functionHeading f.name :: functionParts f none) ++ [closing] := by
  unfold functionParts
  rw [Option.toList_none, List.append_nil, Option.toList_some, List.cons_append]

theorem sleek_functionBlock {f : FunctionRecord} (neat : f.Neat) : Sleek (functionBlock f) := by
  rw [functionBlock_eq]
  refine sleek_joinParagraphs fun shown member => ?_
  cases same : f.returns with
  | none =>
    rw [same] at member
    have spec := endsWritten_functionParts neat shown member
    exact sleek_of_endsWritten spec.1 spec.2
  | some returns =>
    rw [same, Option.map_some, functionParts_some] at member
    rcases List.mem_append.mp member with inside | isClosing
    · have spec := endsWritten_functionParts neat shown inside
      exact sleek_of_endsWritten spec.1 spec.2
    · have spec := neat.returns returns same
      rw [List.mem_singleton.mp isClosing]
      exact sleek_of_isLine (isClosing_returnsLine spec.1 spec.2).1

/-- Only an empty return description leaves a blank at the end of a function block. -/
theorem endsWritten_functionBlock {f : FunctionRecord} (neat : f.Neat) (returns : f.returns ≠ some []) :
    EndsWritten (functionBlock f) := by
  rw [functionBlock_eq]
  cases same : f.returns with
  | none =>
    obtain ⟨before, last, split⟩ :=
      (List.eq_nil_or_concat' (functionHeading f.name :: functionParts f none)).resolve_left
        (List.cons_ne_nil _ _)
    have written := (endsWritten_functionParts neat last (by rw [split]; simp)).2
    exact endsWritten_joinParagraphs (by rw [Option.map_none, split, List.getLast?_concat]) written
  | some shown =>
    have spec := neat.returns shown same
    have nonempty : shown ≠ [] := fun empty => returns (by rw [same, empty])
    rw [Option.map_some, functionParts_some]
    exact endsWritten_joinParagraphs List.getLast?_concat
      (endsWritten_returnsLine spec.1 spec.2 nonempty)

theorem trimEnd_functionBlock {f : FunctionRecord} (neat : f.Neat) :
    trimEnd (functionBlock f) = joinParagraphs (functionHeading f.name ::
      functionParts f ((f.returns.map returnsLine).map trimEnd)) := by
  cases same : f.returns with
  | none =>
    rw [trimEnd_of_endsWritten (endsWritten_functionBlock neat (by simp [same])), functionBlock_eq,
      same]
    rfl
  | some returns =>
    have left : trimEnd (returnsLine returns) ≠ [] := trimEnd_cons_ne_nil (by decide) _
    rw [functionBlock_eq, same, Option.map_some, Option.map_some, functionParts_some,
      functionParts_some, trimEnd_joinParagraphs _ left]

/-- **The block of a function** whose body closes its fences and does not end with a rule. -/
theorem headed_functionBlock {f : FunctionRecord} (neat : f.Neat) (closed : ClosesFences f.body)
    (noRule : ¬ EndsWithRule f.body) :
    Headed ⟨4, trim (' ' :: escapeHeading f.name)⟩ (functionBlock f) := by
  rw [functionBlock_eq]
  refine headed_functionParts neat closed noRule fun line member => ?_
  obtain ⟨returns, inside, rfl⟩ := Option.map_eq_some_iff.mp member
  have spec := neat.returns returns inside
  exact isClosing_returnsLine spec.1 spec.2

theorem headed_trimEnd_functionBlock {f : FunctionRecord} (neat : f.Neat)
    (closed : ClosesFences f.body) (noRule : ¬ EndsWithRule f.body) :
    Headed ⟨4, trim (' ' :: escapeHeading f.name)⟩ (trimEnd (functionBlock f)) := by
  rw [trimEnd_functionBlock neat]
  refine headed_functionParts neat closed noRule fun line member => ?_
  obtain ⟨shown, isShown, rfl⟩ := Option.map_eq_some_iff.mp member
  obtain ⟨returns, inside, rfl⟩ := Option.map_eq_some_iff.mp isShown
  have spec := neat.returns returns inside
  exact isClosing_trimEnd_returnsLine spec.1 spec.2

/-! ### The preamble -/

/-- The paragraphs of a preamble below its heading. -/
def preambleParts (c : ClassRecord) (importPath : Option Text) : List Text :=
  (importPath.toList.map fun path => importLine path c.name) ++
    part c.description (escapeText c.description) ++
    (if c.enumValues.isEmpty then [] else [table enumColumns (c.enumValues.map enumRow)])

theorem preamble_eq (c : ClassRecord) (importPath : Option Text) :
    Markdown.preamble c importPath =
      joinParagraphs (("# ".toList ++ c.name) :: preambleParts c importPath) := by
  unfold Markdown.preamble preambleParts
  simp only [List.append_assoc, List.cons_append, List.nil_append]

theorem paragraph_importLine {path name : Text} (singleLine : '\n' ∉ path) (isName : IsName name) :
    Paragraph (importLine path name) ∧ EndsWritten (importLine path name) := by
  have written : EndsWritten (importLine path name) :=
    ⟨'\x60' :: ("from ".toList ++ path ++ " import ".toList ++ name), '\x60', by
      simp [importLine, code], by decide⟩
  have unbroken : '\n' ∉ importLine path name := by
    simp [importLine, code, singleLine, isName.unbroken]
  have plain : IsPlain (importLine path name) :=
    ⟨rfl, heading?_of_head? (by simp [importLine, code])⟩
  refine ⟨paragraph_of_line (written.isLine unbroken) plain ?_, written⟩
  exact isBlankOrRule_cons _ (by decide) (by decide)

theorem paragraph_enumValues {c : ClassRecord} (neat : c.Neat) :
    Paragraph (table enumColumns (c.enumValues.map enumRow)) ∧
      EndsWritten (table enumColumns (c.enumValues.map enumRow)) := by
  have rows : c.enumValues.map enumRow = (c.enumValues.map fun v =>
      [code v.name, code (cell v.value), cell v.description]).map row := by
    rw [List.map_map]
    rfl
  rw [rows]
  refine paragraph_table (by decide) fun cells member d inside => ?_
  obtain ⟨v, inValues, rfl⟩ := List.mem_map.mp member
  simp only [List.mem_cons, List.not_mem_nil, or_false] at inside
  rcases inside with rfl | rfl | rfl
  · exact unbroken_code (neat.enumValues v inValues).unbroken
  · exact unbroken_code (unbroken_cell _)
  · exact unbroken_cell _

/-- Every paragraph of a preamble but the description is a paragraph by itself. -/
theorem mem_preambleParts {c : ClassRecord} (neat : c.Neat) {importPath : Option Text}
    (singleLine : ∀ path ∈ importPath, '\n' ∉ path) {shown : Text}
    (member : shown ∈ preambleParts c importPath) :
    (c.description ≠ [] ∧ shown = escapeText c.description) ∨
      (Paragraph shown ∧ EndsWritten shown) := by
  unfold preambleParts at member
  rcases List.mem_append.mp member with member | inTable
  · rcases List.mem_append.mp member with inImport | inDescription
    · obtain ⟨path, inside, rfl⟩ := List.mem_map.mp inImport
      exact Or.inr (paragraph_importLine (singleLine path (Option.mem_toList.mp inside)) neat.name)
    · exact Or.inl (mem_part inDescription)
  · split at inTable
    · exact absurd inTable List.not_mem_nil
    · rw [List.mem_singleton.mp inTable]
      exact Or.inr (paragraph_enumValues neat)

theorem isLine_title {name : Text} (isName : IsName name) : IsLine ("# ".toList ++ name) :=
  (isName.endsWritten.append _).isLine (by simp [isName.unbroken])

theorem smooth_preambleParts {c : ClassRecord} (neat : c.Neat) {importPath : Option Text}
    (singleLine : ∀ path ∈ importPath, '\n' ∉ path) :
    ∀ shown ∈ ("# ".toList ++ c.name) :: preambleParts c importPath,
      Smooth shown ∧ EndsWritten shown := by
  intro shown member
  rcases List.mem_cons.mp member with rfl | member
  · exact ⟨smooth_of_not_mem (isLine_title neat.name).unbroken, neat.name.endsWritten.append _⟩
  · rcases mem_preambleParts neat singleLine member with ⟨nonempty, rfl⟩ | ⟨paragraph, written⟩
    · exact ⟨smooth_joinLines (isLine_escapeLines neat.description.isLine none),
        endsWritten_escapeText neat.description nonempty⟩
    · exact ⟨paragraph.smooth, written⟩

theorem smooth_preamble {c : ClassRecord} (neat : c.Neat) {importPath : Option Text}
    (singleLine : ∀ path ∈ importPath, '\n' ∉ path) : Smooth (Markdown.preamble c importPath) := by
  rw [preamble_eq]
  refine Sleek.smooth (sleek_joinParagraphs fun shown member => ?_)
  have spec := smooth_preambleParts neat singleLine shown member
  exact sleek_of_endsWritten spec.1 spec.2

theorem endsWritten_preamble {c : ClassRecord} (neat : c.Neat) {importPath : Option Text}
    (singleLine : ∀ path ∈ importPath, '\n' ∉ path) : EndsWritten (Markdown.preamble c importPath) := by
  obtain ⟨before, last, split⟩ :=
    (List.eq_nil_or_concat' (("# ".toList ++ c.name) :: preambleParts c importPath)).resolve_left
      (List.cons_ne_nil _ _)
  have written := (smooth_preambleParts neat singleLine last (by rw [split]; simp)).2
  rw [preamble_eq]
  exact endsWritten_joinParagraphs (by rw [split, List.getLast?_concat]) written

theorem heading?_title {name : Text} (isName : IsName name) :
    heading? ("# ".toList ++ name) = some ⟨1, name⟩ := by
  have level : heading? (List.replicate 1 '#' ++ ' ' :: name) = some ⟨1, trim (' ' :: name)⟩ :=
    heading?_replicate (by decide) (by decide) name
  rwa [isName.trim_space] at level

/-- **The preamble of a class** whose description closes its fences and does not end with a rule. -/
theorem headed_preamble {c : ClassRecord} (neat : c.Neat) {importPath : Option Text}
    (singleLine : ∀ path ∈ importPath, '\n' ∉ path) (closed : ClosesFences c.description)
    (noRule : ¬ EndsWithRule c.description) : Headed ⟨1, c.name⟩ (Markdown.preamble c importPath) := by
  rw [preamble_eq]
  refine headed_joinParagraphs (isLine_title neat.name) rfl (heading?_title neat.name)
    fun shown member => ?_
  rcases mem_preambleParts neat singleLine member with ⟨nonempty, rfl⟩ | ⟨paragraph, -⟩
  · exact paragraph_escapeText neat.description nonempty closed noRule
  · exact paragraph

end Document

end ReferencePages
