/-
**Reading back what was written.**

A document is written as an opening, a section for each kind of member it has, a rule before each
section, and perhaps a trailer. For a well laid document the reader finds just these lines:

* `readRows_rowLines`, `readBullets_bullets`: members are read back from their sections;
* `sections_eq`, `render_eq`: a well laid document as lines;
* `foldl_parts`: its sections are read as its rows, fields and functions;
* `parse_render`: **a well laid document is read back from its text**.
-/

import ReferencePages.Proofs.Document.WellLaid

namespace ReferencePages

open Text Markdown

namespace Document

/-! ### Rows -/

/-- The two lines above the rows of class variables. -/
def tableHead : List Line :=
  [row (variableColumns.map (·.toList)), row (variableColumns.map fun _ => "---".toList)]

/-- The lines of the section of class variables below its heading. -/
def rowLines (rows : List Member) : List Line := [] :: (tableHead ++ rows.map (·.text))

/-- A mark that a line opens with. -/
theorem exists_append_of_shownName? {mark : String} {line : Line} {name : Text}
    (shown : shownName? mark line = some name) : ∃ rest, line = mark.toList ++ rest := by
  unfold shownName? at shown
  cases opens : after? mark.toList line with
  | none =>
    rw [opens] at shown
    cases shown
  | some rest =>
    exact ⟨rest, (List.isPrefixOf?_eq_some_iff_append_eq.mp opens).symm⟩

theorem IsRow.isPlain {row : Member} (isRow : IsRow row) : IsPlain row.text := by
  obtain ⟨rest, same⟩ := exists_append_of_shownName? isRow.shown
  rw [same]
  exact isPlain_cons _ (by decide) (by decide) (by decide) (by decide)

/-- A row shows its name, so it is no rule. -/
theorem IsRow.written_line {row : Member} (isRow : IsRow row) : isBlankOrRule row.text = false := by
  obtain ⟨rest, same⟩ := exists_append_of_shownName? isRow.shown
  have notRule : trim row.text ≠ rule := by
    intro isRule
    have start : trimStart row.text = row.text := by
      rw [same]
      rfl
    unfold trim at isRule
    rw [start, trimEnd_of_endsWritten isRow.written, same] at isRule
    cases isRule
  unfold isBlankOrRule
  rw [isRow.written.not_allBlank, decide_eq_false notRule]
  rfl

theorem readRows_rowLines {rows : List Member} (isRow : ∀ row ∈ rows, IsRow row) :
    readRows (tableHead ++ rows.map (·.text)) = rows := by
  have head : readRows tableHead = [] := by decide
  have read : readRows (rows.map (·.text)) = rows := by
    unfold readRows
    rw [List.filterMap_map]
    refine (List.filterMap_congr fun row member => ?_).trans List.filterMap_some
    simp only [Function.comp_apply, (isRow row member).shown]
    rfl
  unfold readRows at head read ⊢
  rw [List.filterMap_append, head, read]
  rfl

/-! ### Bullets -/

/-- The lines of the section of fields below its heading. -/
def bulletLines (fields : List Member) : List Line := [] :: fields.flatMap (lines ·.text)

/-- **Bullets are read back from their lines.** -/
theorem readBullets_bullets {fields : List Member} (isBullet : ∀ bullet ∈ fields, IsBullet bullet) :
    readBullets (fields.flatMap (lines ·.text)) = fields := by
  have found : ∃ bullets, groups (shownName? "- `") (fields.flatMap (lines ·.text)) = ([], bullets) ∧
      (bullets.map fun bullet => (⟨bullet.key, trimEnd (joinLines bullet.all)⟩ : Member)) =
        fields := by
    induction fields with
    | nil => exact ⟨[], rfl, rfl⟩
    | cons bullet rest ih =>
      obtain ⟨bullets, split, reads⟩ :=
        ih fun other member => isBullet other (List.mem_cons_of_mem _ member)
      have here := isBullet bullet List.mem_cons_self
      obtain ⟨first, below, same, shown, hidden⟩ := here.shown
      refine ⟨⟨bullet.name, first, below⟩ :: bullets, ?_, ?_⟩
      · rw [List.flatMap_cons, same, List.cons_append, groups_cons shown, groups_append hidden, split,
          List.append_nil]
      · have text : trimEnd (joinLines (first :: below)) = bullet.text := by
          rw [← same, here.tidy.joinLines_lines, here.tidy.trimmed]
        rw [List.map_cons, reads, Group.all, text]
  obtain ⟨bullets, split, reads⟩ := found
  unfold readBullets
  rw [split]
  exact reads

/-- What holds of the last element of each part holds of the last element of all. -/
theorem forall_getLast?_flatMap {α β : Type} {parts : List α} {f : α → List β} {P : β → Prop}
    (each : ∀ part ∈ parts, ∀ last ∈ (f part).getLast?, P last) :
    ∀ last ∈ (parts.flatMap f).getLast?, P last := by
  induction parts with
  | nil => exact fun last member => absurd member (by simp)
  | cons part rest ih =>
    intro last member
    rw [List.flatMap_cons, List.getLast?_append, Option.mem_def, Option.or_eq_some_iff] at member
    rcases member with inRest | ⟨-, inPart⟩
    · exact ih (fun other inside => each other (List.mem_cons_of_mem _ inside)) last inRest
    · exact each part List.mem_cons_self last inPart

theorem IsBullet.lines_ne_nil {bullet : Member} (isBullet : IsBullet bullet) :
    lines bullet.text ≠ [] := by
  obtain ⟨first, below, same, -, -⟩ := isBullet.shown
  rw [same]
  exact List.cons_ne_nil _ _

theorem trimLines_bulletLines {fields : List Member}
    (isBullet : ∀ bullet ∈ fields, IsBullet bullet) :
    trimLines (bulletLines fields) = fields.flatMap (lines ·.text) := by
  have written := forall_getLast?_flatMap fun bullet member => (isBullet bullet member).written
  unfold bulletLines
  rw [trimLines_cons_blank rfl]
  cases fields with
  | nil => rfl
  | cons bullet rest =>
    obtain ⟨first, below, same, shown, -⟩ := (isBullet bullet List.mem_cons_self).shown
    obtain ⟨tail, opens⟩ := exists_append_of_shownName? shown
    rw [List.flatMap_cons, same, List.cons_append] at written ⊢
    refine trimLines_of_written ?_ written
    rw [opens]
    rfl

/-! ### Sections as lines -/

/-- A section: the text of its heading and the lines below. -/
structure Part where
  title : Text
  body : List Line

namespace Part

/-- The heading of a section as it is written. -/
def headLine (part : Part) : Line := "## ".toList ++ part.title

/-- The lines of a section. -/
def lines (part : Part) : List Line := part.headLine :: part.body

/-- The marked lines of a section. -/
def group (part : Part) : Group MarkedLine Heading :=
  ⟨⟨2, part.title⟩, ⟨part.headLine, some ⟨2, part.title⟩⟩, markLines none part.body⟩

/-- A text without outer blanks that a heading can show. -/
structure IsTitle (title : Text) : Prop where
  trimmed : trim (' ' :: title) = title
  isLine : IsLine ("## ".toList ++ title)

/-- A section that is read back as a section. -/
structure Sound (part : Part) : Prop where
  title : IsTitle part.title
  clean : ∀ line ∈ part.body, IsLine line
  closed : fenceAfterAll none part.body = none
  below : ∀ line ∈ markLines none part.body, line.headingAt? 1 = none ∧ line.headingAt? 2 = none
  written : EndsWritten (joinLines part.lines)

theorem Sound.isSection {part : Part} (sound : part.Sound) : IsSection part.group :=
  ⟨rfl, rfl, sound.below⟩

theorem Sound.closed_lines {part : Part} (sound : part.Sound) :
    fenceAfterAll none part.lines = none := by
  unfold lines
  rw [fenceAfterAll_heading rfl, sound.closed]

theorem Sound.markLines_lines {part : Part} (sound : part.Sound) :
    markLines none part.lines = part.group.all := by
  have isHeading : heading? part.headLine = some ⟨2, part.title⟩ := by
    have level : heading? (List.replicate 2 '#' ++ ' ' :: part.title) =
        some ⟨2, trim (' ' :: part.title)⟩ := heading?_replicate (by decide) (by decide) part.title
    rwa [sound.title.trimmed] at level
  unfold lines
  rw [markLines_heading rfl isHeading]
  rfl

end Part

/-- The lines between two sections. -/
def separatorLines : List Line := [[], rule, []]

theorem markLines_separatorLines : markLines none separatorLines = separator := by decide

theorem closed_separatorLines : fenceAfterAll none separatorLines = none := by decide

theorem clean_separatorLines : ∀ line ∈ separatorLines, IsLine line := by
  intro line member
  simp only [separatorLines, List.mem_cons, List.not_mem_nil, or_false] at member
  rcases member with rfl | rfl | rfl
  · exact IsLine.nil
  · exact ⟨by decide, by decide⟩
  · exact IsLine.nil

/-- The lines of sections, a separator before each. -/
def separatedLines (parts : List Part) : List Line :=
  parts.flatMap fun part => separatorLines ++ part.lines

theorem separatedLines_cons (part : Part) (rest : List Part) :
    separatedLines (part :: rest) = separatorLines ++ (part.lines ++ separatedLines rest) := by
  unfold separatedLines
  rw [List.flatMap_cons, List.append_assoc]

theorem closed_separatedLines {parts : List Part} (sound : ∀ part ∈ parts, part.Sound) :
    fenceAfterAll none (separatedLines parts) = none := by
  induction parts with
  | nil => rfl
  | cons part rest ih =>
    rw [separatedLines_cons, fenceAfterAll_append, closed_separatorLines, fenceAfterAll_append,
      (sound part List.mem_cons_self).closed_lines,
      ih fun other member => sound other (List.mem_cons_of_mem _ member)]

theorem markLines_separatedLines {parts : List Part} (sound : ∀ part ∈ parts, part.Sound) :
    markLines none (separatedLines parts) = separated (parts.map Part.group) := by
  induction parts with
  | nil => rfl
  | cons part rest ih =>
    have here := sound part List.mem_cons_self
    rw [separatedLines_cons, markLines_append, closed_separatorLines, markLines_separatorLines,
      markLines_append, here.closed_lines, here.markLines_lines,
      ih fun other member => sound other (List.mem_cons_of_mem _ member), List.map_cons]
    simp only [separated, List.flatMap_cons, List.append_assoc]

theorem clean_separatedLines {parts : List Part} (sound : ∀ part ∈ parts, part.Sound) :
    ∀ line ∈ separatedLines parts, IsLine line := by
  intro line member
  obtain ⟨part, inside, member⟩ := List.mem_flatMap.mp member
  rcases List.mem_append.mp member with inSeparator | inPart
  · exact clean_separatorLines line inSeparator
  · rcases List.mem_cons.mp inPart with rfl | inBody
    · exact (sound part inside).title.isLine
    · exact (sound part inside).clean line inBody

/-- Sections joined to a document are joined lines. -/
theorem joinSections_parts {opening : List Line} (nonempty : opening ≠ [])
    (trimmed : trimEnd (joinLines opening) = joinLines opening) {parts : List Part}
    (sound : ∀ part ∈ parts, part.Sound) :
    joinSections (joinLines opening) (parts.map (joinLines ·.lines)) =
      joinLines (opening ++ separatedLines parts) ++ ['\n'] := by
  have joined : joinLines opening ++ ((parts.map (joinLines ·.lines)).flatMap fun s =>
      "\n\n".toList ++ rule ++ "\n\n".toList ++ trimEnd s) =
        joinLines (opening ++ separatedLines parts) := by
    clear trimmed
    induction parts generalizing opening with
    | nil =>
      rw [separatedLines, List.flatMap_nil, List.append_nil, List.map_nil, List.flatMap_nil,
        List.append_nil]
    | cons part rest ih =>
      have here : joinLines opening ++ ("\n\n".toList ++ rule ++ "\n\n".toList ++
          trimEnd (joinLines part.lines)) = joinLines (opening ++ (separatorLines ++ part.lines)) := by
        have more : part.lines ≠ [] := List.cons_ne_nil _ _
        rw [trimEnd_of_endsWritten (sound part List.mem_cons_self).written,
          joinLines_append nonempty (by simp [separatorLines])]
        simp only [separatorLines, List.cons_append, List.nil_append]
        rw [joinLines_cons [] (by simp), joinLines_cons rule (by simp), joinLines_cons [] more]
        simp
      rw [List.map_cons, List.flatMap_cons, ← List.append_assoc, here,
        ih (List.append_ne_nil_of_left_ne_nil nonempty _)
          fun other member => sound other (List.mem_cons_of_mem _ member),
        separatedLines_cons, List.append_assoc, List.append_assoc]
  unfold joinSections
  rw [trimmed, joined]

/-! ### The sections of a document -/

/-- The section of some members, when there are any. -/
def partOf {α : Type} (title : Text) (members : List α) (body : List α → List Line) : List Part :=
  if members.isEmpty then [] else [⟨title, body members⟩]

/-- The sections of a document as lines. -/
def parts (document : Document) : List Part :=
  partOf variablesTitle document.rows rowLines ++ partOf fieldsTitle document.fields bulletLines ++
    partOf functionsTitle document.functions entryLines

theorem titled_joinLines (title : Text) {body : List Line} (nonempty : body ≠ []) :
    titled title (joinLines body) = joinLines (Part.lines ⟨title, [] :: body⟩) := by
  unfold Part.lines
  rw [joinLines_cons _ (List.cons_ne_nil _ _), joinLines_cons [] nonempty]
  simp [titled, Part.headLine]

theorem isTitle_variablesTitle : Part.IsTitle variablesTitle := ⟨by decide, by decide, by decide⟩

theorem isTitle_fieldsTitle : Part.IsTitle fieldsTitle := ⟨by decide, by decide, by decide⟩

theorem isTitle_functionsTitle : Part.IsTitle functionsTitle := ⟨by decide, by decide, by decide⟩

theorem isPlain_tableHead : ∀ line ∈ tableHead, IsPlain line := by
  intro line member
  simp only [tableHead, List.mem_cons, List.not_mem_nil, or_false] at member
  rcases member with rfl | rfl
  · exact ⟨by decide, by decide⟩
  · exact ⟨by decide, by decide⟩

theorem isLine_tableHead : ∀ line ∈ tableHead, IsLine line := by
  intro line member
  simp only [tableHead, List.mem_cons, List.not_mem_nil, or_false] at member
  rcases member with rfl | rfl
  · exact ⟨by decide, by decide⟩
  · exact ⟨by decide, by decide⟩

/-- The rows and the lines above them hold no heading. -/
theorem passage_rowLines {rows : List Member} (isRow : ∀ row ∈ rows, IsRow row) :
    Passage (rowLines rows) := by
  refine Passage.cons IsLine.nil isPlain_nil (passage_of_plain (fun line member => ?_)
    fun line member => ?_)
  · rcases List.mem_append.mp member with inHead | inRows
    · exact isLine_tableHead line inHead
    · obtain ⟨row, inside, rfl⟩ := List.mem_map.mp inRows
      exact (isRow row inside).written.isLine (isRow row inside).unbroken
  · rcases List.mem_append.mp member with inHead | inRows
    · exact isPlain_tableHead line inHead
    · obtain ⟨row, inside, rfl⟩ := List.mem_map.mp inRows
      exact (isRow row inside).isPlain

theorem passage_bulletLines {fields : List Member}
    (isBullet : ∀ bullet ∈ fields, IsBullet bullet) : Passage (bulletLines fields) := by
  refine Passage.cons IsLine.nil isPlain_nil (passage_of_plain (fun line member => ?_)
    fun line member => ?_)
  · obtain ⟨bullet, inside, inText⟩ := List.mem_flatMap.mp member
    exact (isBullet bullet inside).tidy.isLine line inText
  · obtain ⟨bullet, inside, inText⟩ := List.mem_flatMap.mp member
    exact (isBullet bullet inside).plain line inText

/-- A section whose lines below the heading are a passage. -/
theorem Part.sound_of_passage {part : Part} (title : Part.IsTitle part.title)
    (passage : Passage part.body) (written : EndsWritten (joinLines part.lines)) :
    part.Sound := by
  refine ⟨title, passage.clean, passage.closed, fun line member => ?_, written⟩
  unfold MarkedLine.headingAt?
  rw [passage.unmarked line member]
  exact ⟨rfl, rfl⟩

/-- The last line of a section is the last line below its heading. -/
theorem Part.endsWritten_lines {part : Part} {last : Line} (ends : part.body.getLast? = some last)
    (written : EndsWritten last) : EndsWritten (joinLines part.lines) := by
  refine endsWritten_joinLines ?_ written
  unfold Part.lines
  rw [List.getLast?_cons, ends]
  rfl

theorem mem_partOf {α : Type} {title : Text} {members : List α} {body : List α → List Line}
    {part : Part} (member : part ∈ partOf title members body) :
    members ≠ [] ∧ part = ⟨title, body members⟩ := by
  unfold partOf at member
  split at member
  · exact absurd member List.not_mem_nil
  · rename_i nonempty
    exact ⟨by simpa using nonempty, List.mem_singleton.mp member⟩

/-- The lines of the section of fields end as the last bullet does. -/
theorem getLast?_bulletLines {fields : List Member}
    (isBullet : ∀ bullet ∈ fields, IsBullet bullet) (nonempty : fields ≠ []) :
    ∃ last, (bulletLines fields).getLast? = some last ∧ EndsWritten last := by
  obtain ⟨before, bullet, rfl⟩ := (List.eq_nil_or_concat' fields).resolve_left nonempty
  have here := isBullet bullet (by simp)
  obtain ⟨last, ends, written⟩ := here.tidy.getLast?_lines fun empty => here.lines_ne_nil (by
    rw [empty]
    rfl)
  refine ⟨last, ?_, written⟩
  unfold bulletLines
  rw [List.flatMap_append, List.flatMap_cons, List.flatMap_nil, List.append_nil,
    ← List.cons_append, List.getLast?_append_of_ne_nil _ here.lines_ne_nil, ends]

/-- The section of functions ends as its last entry does. -/
theorem endsWritten_entries {items : List FunctionItem}
    (ends : ∀ item ∈ items.getLast?, EndsWritten item.text) (nonempty : items ≠ []) :
    EndsWritten (joinParagraphs (items.map (·.text))) := by
  obtain ⟨before, item, rfl⟩ := (List.eq_nil_or_concat' items).resolve_left nonempty
  refine endsWritten_joinParagraphs ?_ (ends item List.getLast?_concat)
  rw [List.map_append, List.map_singleton, List.getLast?_concat]

theorem entryLines_ne_nil {items : List FunctionItem} (nonempty : items ≠ []) :
    entryLines items ≠ [] := by
  obtain ⟨item, rest, rfl⟩ := List.exists_cons_of_ne_nil nonempty
  rw [entryLines_cons]
  exact List.cons_ne_nil _ _

/-- **The sections of a well laid document are read back as sections.** -/
theorem WellLaid.sound_parts {document : Document} (laid : document.WellLaid) :
    ∀ part ∈ document.parts, part.Sound := by
  intro part member
  unfold parts at member
  rcases List.mem_append.mp member with member | member
  · rcases List.mem_append.mp member with member | member
    · obtain ⟨nonempty, rfl⟩ := mem_partOf member
      obtain ⟨before, row, same⟩ := (List.eq_nil_or_concat' document.rows).resolve_left nonempty
      refine Part.sound_of_passage isTitle_variablesTitle (passage_rowLines laid.rows)
        (Part.endsWritten_lines ?_ (laid.rows row (by rw [same]; simp)).written)
      show (rowLines document.rows).getLast? = some row.text
      unfold rowLines
      rw [same, List.map_append, List.map_singleton, ← List.append_assoc, ← List.cons_append,
        List.getLast?_concat]
    · obtain ⟨nonempty, rfl⟩ := mem_partOf member
      obtain ⟨last, ends, written⟩ := getLast?_bulletLines laid.fields nonempty
      exact Part.sound_of_passage isTitle_fieldsTitle (passage_bulletLines laid.fields)
        (Part.endsWritten_lines ends written)
  · obtain ⟨nonempty, rfl⟩ := mem_partOf member
    refine ⟨isTitle_functionsTitle, clean_entryLines laid.functions,
      closed_entryLines laid.functions, headingAt?_entryLines laid.functions, ?_⟩
    unfold Part.lines
    rw [joinLines_cons _ (entryLines_ne_nil nonempty),
      ← joinParagraphs_entries laid.functions nonempty]
    exact ((endsWritten_entries laid.functionsEnd nonempty).append ['\n', '\n']).append _

/-- **The sections of a well laid document as lines.** -/
theorem WellLaid.sections_eq {document : Document} (laid : document.WellLaid) :
    document.sections = document.parts.map (joinLines ·.lines) := by
  have rowsEq : (if document.rows.isEmpty then []
      else [variablesSection (document.rows.map (·.text))]) =
        (partOf variablesTitle document.rows rowLines).map (joinLines ·.lines) := by
    unfold partOf
    split
    · rfl
    · rw [List.map_singleton, rowLines, ← titled_joinLines _ (by simp [tableHead])]
      rfl
  have fieldsEq : (if document.fields.isEmpty then []
      else [fieldsSection (document.fields.map (·.text))]) =
        (partOf fieldsTitle document.fields bulletLines).map (joinLines ·.lines) := by
    unfold partOf
    split
    · rfl
    · rename_i nonempty
      have joined := joinLines_map (·.text) (fun bullet member =>
        (laid.fields bullet member).tidy.laid) fun bullet member =>
          (laid.fields bullet member).lines_ne_nil
      have more : document.fields.flatMap (lines ·.text) ≠ [] := by
        obtain ⟨bullet, rest, same⟩ := List.exists_cons_of_ne_nil (by simpa using nonempty)
        rw [same, List.flatMap_cons]
        exact List.append_ne_nil_of_left_ne_nil
          (laid.fields bullet (by rw [same]; simp)).lines_ne_nil _
      rw [List.map_singleton, bulletLines, ← titled_joinLines _ more, fieldsSection, joined]
  have functionsEq : (if document.functions.isEmpty then []
      else [functionsSection (joinParagraphs (document.functions.map (·.text)))]) =
        (partOf functionsTitle document.functions entryLines).map (joinLines ·.lines) := by
    unfold partOf
    split
    · rfl
    · rename_i isNonempty
      have nonempty : document.functions ≠ [] := by simpa using isNonempty
      have trimmed := trimEnd_of_endsWritten (endsWritten_entries laid.functionsEnd nonempty)
      rw [List.map_singleton, Part.lines, joinLines_cons _ (entryLines_ne_nil nonempty),
        ← joinParagraphs_entries laid.functions nonempty, functionsSection, trimmed]
      simp [titled, Part.headLine]
  unfold sections parts
  rw [rowsEq, fieldsEq, functionsEq, laid.extra, List.append_nil, List.map_append, List.map_append]

/-! ### Reading the sections -/

theorem map_text_group_body (part : Part) : part.group.body.map (·.text) = part.body :=
  map_text_markLines none part.body

theorem trimLines_rowLines {rows : List Member} (isRow : ∀ row ∈ rows, IsRow row)
    (nonempty : rows ≠ []) : trimLines (rowLines rows) = tableHead ++ rows.map (·.text) := by
  obtain ⟨before, row, same⟩ := (List.eq_nil_or_concat' rows).resolve_left nonempty
  have ends : (tableHead ++ rows.map (·.text)).getLast? = some row.text := by
    rw [same, List.map_append, List.map_singleton, ← List.append_assoc, List.getLast?_concat]
  unfold rowLines
  rw [trimLines_cons_blank rfl]
  refine trimLines_of_written (by decide) fun last member => ?_
  rw [Option.some.inj (member.symm.trans ends)]
  exact (isRow row (by rw [same]; simp)).written_line

theorem foldl_rows {document : Document} {rows : List Member} (isRow : ∀ row ∈ rows, IsRow row)
    (none : document.rows = []) :
    ((partOf variablesTitle rows rowLines).map Part.group).foldl addSection document =
      { document with rows := rows } := by
  unfold partOf
  split
  · rename_i empty
    rw [List.isEmpty_iff.mp empty, ← none]
    rfl
  · rename_i isNonempty
    have trimmed := trimLines_rowLines isRow (by simpa using isNonempty)
    have title : unescape variablesTitle = variablesTitle := by decide
    show addSection document (Part.group ⟨variablesTitle, rowLines rows⟩) = _
    unfold addSection
    simp only [map_text_group_body, trimmed, readRows_rowLines isRow]
    exact if_pos title

theorem foldl_fields {document : Document} {fields : List Member}
    (isBullet : ∀ bullet ∈ fields, IsBullet bullet) (none : document.fields = []) :
    ((partOf fieldsTitle fields bulletLines).map Part.group).foldl addSection document =
      { document with fields := fields } := by
  unfold partOf
  split
  · rename_i empty
    rw [List.isEmpty_iff.mp empty, ← none]
    rfl
  · have title : unescape fieldsTitle = fieldsTitle := by decide
    have other : unescape fieldsTitle ≠ variablesTitle := by decide
    show addSection document (Part.group ⟨fieldsTitle, bulletLines fields⟩) = _
    unfold addSection
    simp only [map_text_group_body, trimLines_bulletLines isBullet, readBullets_bullets isBullet]
    exact (if_neg other).trans (if_pos title)

theorem foldl_functions {document : Document} {items : List FunctionItem}
    (entries : ∀ item ∈ items, IsEntry item) (none : document.functions = []) :
    ((partOf functionsTitle items entryLines).map Part.group).foldl addSection document =
      { document with functions := items } := by
  unfold partOf
  split
  · rename_i empty
    rw [List.isEmpty_iff.mp empty, ← none]
    rfl
  · have title : unescape functionsTitle = functionsTitle := by decide
    have noRows : functionsTitle ≠ variablesTitle := by decide
    have noFields : functionsTitle ≠ fieldsTitle := by decide
    show addSection document (Part.group ⟨functionsTitle, entryLines items⟩) = _
    unfold addSection
    simp only [Part.group, title, if_neg noRows, if_neg noFields, if_pos,
      readItems_entryLines entries]

/-- **The sections of a well laid document are read as its members.** -/
theorem WellLaid.foldl_parts {document : Document} (laid : document.WellLaid)
    {opening trailer : List Line} (preamble : partText opening = document.preamble)
    (ends : trimEnd (joinLines trailer) = document.trailer) :
    (document.parts.map Part.group).foldl addSection (opened document.title opening trailer) =
      document := by
  unfold parts
  rw [List.map_append, List.map_append, List.foldl_append, List.foldl_append,
    foldl_rows laid.rows rfl, foldl_fields laid.fields rfl, foldl_functions laid.functions rfl]
  unfold opened
  rw [preamble, ends, ← laid.extra]

/-! ### Reading a document -/

/-- The lines of the preamble, one empty line when there is none. -/
def openingLines (document : Document) : List Line :=
  if document.preamble.isEmpty then [[]] else lines document.preamble

/-- An empty line and the lines of the trailer, when there is one. -/
def trailerLines (document : Document) : List Line :=
  if document.trailer.isEmpty then [] else [] :: lines document.trailer

/-- All lines of a document. -/
def allLines (document : Document) : List Line :=
  document.openingLines ++ (separatedLines document.parts ++ document.trailerLines)

theorem WellLaid.openingLines_spec {document : Document} (laid : document.WellLaid) :
    document.openingLines ≠ [] ∧ joinLines document.openingLines = document.preamble ∧
      trimEnd document.preamble = document.preamble := by
  unfold openingLines
  rcases laid.opening with titled | untitled
  · obtain ⟨heading, -, -, headed⟩ := titled.preamble
    rw [if_neg (by simpa using titled.written.ne_nil)]
    exact ⟨headed.lines_ne_nil, headed.laid.joined, trimEnd_of_endsWritten titled.written⟩
  · rw [untitled.preamble]
    exact ⟨List.cons_ne_nil _ _, rfl, rfl⟩

theorem WellLaid.isTrailer {document : Document} (laid : document.WellLaid)
    (nonempty : document.trailer ≠ []) : IsTrailer document.trailer := by
  rcases laid.opening with titled | untitled
  · exact titled.trailer nonempty
  · exact absurd untitled.trailer nonempty

/-- **A well laid document is written as its lines.** -/
theorem WellLaid.render_eq {document : Document} (laid : document.WellLaid) :
    document.render = joinLines document.allLines ++ ['\n'] := by
  obtain ⟨nonempty, joined, trimmed⟩ := laid.openingLines_spec
  have sections := joinSections_parts nonempty (by rw [joined, trimmed]) laid.sound_parts
  rw [joined, ← laid.sections_eq] at sections
  unfold render allLines trailerLines
  rw [sections]
  by_cases noTrailer : document.trailer.isEmpty = true
  · rw [if_pos noTrailer, if_pos noTrailer, List.append_nil, List.append_nil]
  · have isTrailer := laid.isTrailer (by simpa using noTrailer)
    obtain ⟨line, rest, heading, same, -, -, -⟩ := isTrailer.shape
    have more : lines document.trailer ≠ [] := by
      rw [same]
      exact List.cons_ne_nil _ _
    rw [if_neg noTrailer, if_neg noTrailer, ← List.append_assoc document.openingLines,
      joinLines_append (List.append_ne_nil_of_left_ne_nil nonempty _) (List.cons_ne_nil _ _),
      joinLines_cons [] more, isTrailer.tidy.joinLines_lines]
    simp

theorem WellLaid.clean_allLines {document : Document} (laid : document.WellLaid) :
    ∀ line ∈ document.allLines, IsLine line := by
  intro line member
  unfold allLines at member
  rcases List.mem_append.mp member with inOpening | member
  · unfold openingLines at inOpening
    split at inOpening
    · rw [List.mem_singleton.mp inOpening]
      exact IsLine.nil
    · rename_i written
      rcases laid.opening with titled | untitled
      · obtain ⟨heading, -, -, headed⟩ := titled.preamble
        exact headed.laid.clean line inOpening
      · rw [untitled.preamble] at written
        exact absurd rfl written
  · rcases List.mem_append.mp member with inParts | inTrailer
    · exact clean_separatedLines laid.sound_parts line inParts
    · unfold trailerLines at inTrailer
      split at inTrailer
      · exact absurd inTrailer List.not_mem_nil
      · rename_i written
        rcases List.mem_cons.mp inTrailer with rfl | inText
        · exact IsLine.nil
        · exact (laid.isTrailer (by simpa using written)).tidy.isLine line inText

theorem WellLaid.marked_render {document : Document} (laid : document.WellLaid) :
    marked document.render = markLines none document.allLines := by
  have nonempty : document.allLines ≠ [] :=
    List.append_ne_nil_of_left_ne_nil laid.openingLines_spec.1 _
  unfold marked
  rw [laid.render_eq, lines_joinLines_break nonempty laid.clean_allLines]

theorem WellLaid.parse_render_titled {document : Document} (laid : document.WellLaid)
    (titled : document.Titled) : parse document.render = document := by
  obtain ⟨heading, level, shown, headed⟩ := titled.preamble
  obtain ⟨line, rest, same, marks, unmarked⟩ := headed.markLines_lines
  have opening : document.openingLines = lines document.preamble :=
    if_neg (by simpa using titled.written.ne_nil)
  have isSection : ∀ group ∈ document.parts.map Part.group, IsSection group := by
    intro group member
    obtain ⟨part, inside, rfl⟩ := List.mem_map.mp member
    exact (laid.sound_parts part inside).isSection
  have preamble : partText (line :: (markLines none rest).map (·.text)) = document.preamble := by
    rw [map_text_markLines, ← same, headed.partText_lines]
  have scan : marked document.render = ⟨line, some heading⟩ :: (markLines none rest ++
      (separated (document.parts.map Part.group) ++ markLines none document.trailerLines)) := by
    rw [laid.marked_render, allLines, markLines_append, opening, headed.closed, marks,
      markLines_append, closed_separatedLines laid.sound_parts,
      markLines_separatedLines laid.sound_parts, List.cons_append]
  by_cases noTrailer : document.trailer = []
  · have trailer : document.trailerLines = [] := if_pos (by simpa using noTrailer)
    have whole : marked document.render = ⟨line, some heading⟩ :: (markLines none rest ++
        (separated (document.parts.map Part.group) ++ [])) ++ [] := by
      rw [scan, trailer, List.append_nil]
      rfl
    rw [parse_titled whole rfl level unmarked isSection IsGap.nil (by simp), shown]
    exact laid.foldl_parts preamble noTrailer.symm
  · have isTrailer := titled.trailer noTrailer
    obtain ⟨first, below, second, sameTrailer, start, isHeading, levelSecond⟩ := isTrailer.shape
    have trailer : document.trailerLines = [] :: lines document.trailer :=
      if_neg (by simpa using noTrailer)
    have whole : marked document.render = ⟨line, some heading⟩ :: (markLines none rest ++
        (separated (document.parts.map Part.group) ++ [⟨[], none⟩])) ++
          markLines none (lines document.trailer) := by
      rw [scan, trailer]
      simp only [markLines, List.append_assoc, List.cons_append, List.nil_append]
      rfl
    have isGap : IsGap [⟨[], none⟩] := fun other member => by
      rw [List.mem_singleton.mp member]
      exact ⟨rfl, by decide⟩
    have next : ∀ other ∈ (markLines none (lines document.trailer)).head?,
        (other.headingAt? 1).isSome = true := by
      intro other member
      rw [sameTrailer, markLines_heading start isHeading, List.head?_cons,
        Option.mem_some_iff] at member
      rw [← member]
      unfold MarkedLine.headingAt?
      simp [levelSecond]
    rw [parse_titled whole rfl level unmarked isSection isGap next, shown]
    refine laid.foldl_parts preamble ?_
    rw [map_text_markLines, isTrailer.tidy.joinLines_lines, isTrailer.tidy.trimmed]

theorem WellLaid.parse_render_untitled {document : Document} (laid : document.WellLaid)
    (untitled : document.Untitled) : parse document.render = document := by
  have isSection : ∀ group ∈ document.parts.map Part.group, IsSection group := by
    intro group member
    obtain ⟨part, inside, rfl⟩ := List.mem_map.mp member
    exact (laid.sound_parts part inside).isSection
  have opening : document.openingLines = [[]] := if_pos (by rw [untitled.preamble]; rfl)
  have trailer : document.trailerLines = [] := if_pos (by rw [untitled.trailer]; rfl)
  have whole : marked document.render =
      [⟨[], none⟩] ++ (separated (document.parts.map Part.group) ++ []) := by
    rw [laid.marked_render, allLines, opening, trailer, List.append_nil, List.append_nil,
      ← markLines_separatedLines laid.sound_parts]
    rfl
  rw [parse_untitled whole (by simp) isSection IsGap.nil]
  have preamble : partText [[]] = document.preamble := by
    rw [untitled.preamble]
    decide
  have ends : trimEnd (joinLines []) = document.trailer := by
    rw [untitled.trailer]
    rfl
  have members := laid.foldl_parts preamble ends
  rwa [untitled.title] at members

/-- **A well laid document is read back from its text.** -/
theorem WellLaid.parse_render {document : Document} (laid : document.WellLaid) :
    parse document.render = document :=
  laid.opening.elim laid.parse_render_titled laid.parse_render_untitled

end Document

end ReferencePages
