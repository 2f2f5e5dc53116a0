/-
**The document of a source is read back.**

The page of a source is the document of its first class, with the pages of the further classes as
its trailer:

* `documentOf`: the document of a class; `wellLaid_documentOf`: it is well laid when the prose of the
  class is readable (`ClassRecord.Readable`);
* `classesText_eq`: the page of the classes is the document of the first one as a text;
* `reference_readBack`: **reading a page and writing it again gives the page, and the parts that are
  read are those of the first class**.
-/

import ReferencePages.Proofs.Document.Members
import ReferencePages.Reference

namespace ReferencePages

open Text Markdown

/-- The prose of a class can be told from the layout around it: fences are closed where they are
opened, field descriptions open none, and no text ends with a rule. -/
structure ClassRecord.Readable (c : ClassRecord) : Prop where
  description : Document.ClosesFences c.description ∧ ¬ Document.EndsWithRule c.description
  fields : ∀ f ∈ c.fields,
    (∀ line ∈ lines f.description, fenceOpened? line = none) ∧ ¬ Document.EndsWithRule f.description
  functions : ∀ f ∈ c.functions, Document.ClosesFences f.body ∧ ¬ Document.EndsWithRule f.body

instance (c : ClassRecord) : Decidable c.Readable :=
  decidable_of_iff
    ((Document.ClosesFences c.description ∧ ¬ Document.EndsWithRule c.description) ∧
      (∀ f ∈ c.fields, (∀ line ∈ lines f.description, fenceOpened? line = none) ∧
        ¬ Document.EndsWithRule f.description) ∧
      ∀ f ∈ c.functions, Document.ClosesFences f.body ∧ ¬ Document.EndsWithRule f.body)
    ⟨fun ⟨description, fields, functions⟩ => ⟨description, fields, functions⟩,
      fun readable => ⟨readable.description, readable.fields, readable.functions⟩⟩

namespace Document

/-! ### The document of a class -/

/-- The row of a class variable, with the name it shows. -/
def rowOf (v : ClassVariable) : Member := ⟨v.name, variableRow v⟩

/-- The bullet of a field, with the name it shows. -/
def bulletOf (f : Field) : Member := ⟨f.name, fieldItem f⟩

/-- The block of a function, with its name. -/
def entryOf (f : FunctionRecord) : FunctionItem := .function f.name (functionBlock f)

/-- The blocks of some functions, without blanks at the end of the last one. -/
def entriesOf (functions : List FunctionRecord) : List FunctionItem :=
  functions.dropLast.map entryOf ++
    functions.getLast?.toList.map fun f => .function f.name (trimEnd (functionBlock f))

/-- The document of a class, with a trailer. -/
def documentOf (c : ClassRecord) (importPath : Option Text) (trailer : Text) : Document :=
  { title := c.name
    preamble := Markdown.preamble c importPath
    rows := c.classVariables.map rowOf
    fields := c.fields.map bulletOf
    functions := entriesOf c.functions
    extra := []
    trailer := trailer }

theorem entriesOf_concat (before : List FunctionRecord) (last : FunctionRecord) :
    entriesOf (before ++ [last]) =
      before.map entryOf ++ [.function last.name (trimEnd (functionBlock last))] := by
  unfold entriesOf
  rw [List.dropLast_concat, List.getLast?_concat]
  rfl

theorem isEntry_function {f : FunctionRecord} (neat : f.Neat) {t : Text}
    (headed : Headed ⟨4, trim (' ' :: escapeHeading f.name)⟩ t) : IsEntry (.function f.name t) :=
  ⟨_, ⟨rfl, neat.name.unescape_escapeHeading⟩, headed⟩

theorem endsWritten_trimEnd_functionBlock {f : FunctionRecord} :
    EndsWritten (trimEnd (functionBlock f)) := by
  have shape : ∃ tail, functionBlock f = '#' :: tail := by
    rw [functionBlock_eq]
    cases functionParts f (f.returns.map returnsLine) with
    | nil =>
      rw [joinParagraphs_singleton]
      exact ⟨_, rfl⟩
    | cons first rest =>
      rw [joinParagraphs_cons _ (List.cons_ne_nil _ _)]
      exact ⟨_, rfl⟩
  obtain ⟨tail, same⟩ := shape
  rw [same]
  exact (endsWritten_trimEnd _).resolve_left (trimEnd_cons_ne_nil (by decide) tail)

theorem isEntry_entryOf {f : FunctionRecord} (neat : f.Neat) (closed : ClosesFences f.body)
    (noRule : ¬ EndsWithRule f.body) : IsEntry (entryOf f) :=
  isEntry_function neat (headed_functionBlock neat closed noRule)

/-- **The blocks of readable functions are entries.** -/
theorem isEntry_entriesOf {functions : List FunctionRecord} (neat : ∀ f ∈ functions, f.Neat)
    (readable : ∀ f ∈ functions, ClosesFences f.body ∧ ¬ EndsWithRule f.body) :
    ∀ item ∈ entriesOf functions, IsEntry item := by
  rcases List.eq_nil_or_concat' functions with rfl | ⟨before, last, rfl⟩
  · exact fun item member => absurd member List.not_mem_nil
  · rw [entriesOf_concat]
    intro item member
    rcases List.mem_append.mp member with inBefore | isLast
    · obtain ⟨f, inside, rfl⟩ := List.mem_map.mp inBefore
      have prose := readable f (List.mem_append_left _ inside)
      exact isEntry_entryOf (neat f (List.mem_append_left _ inside)) prose.1 prose.2
    · have neatLast := neat last (by simp)
      have prose := readable last (by simp)
      rw [List.mem_singleton.mp isLast]
      exact isEntry_function neatLast (headed_trimEnd_functionBlock neatLast prose.1 prose.2)

theorem endsWritten_entriesOf (functions : List FunctionRecord) :
    ∀ item ∈ (entriesOf functions).getLast?, EndsWritten item.text := by
  rcases List.eq_nil_or_concat' functions with rfl | ⟨before, last, rfl⟩
  · exact fun item member => by cases member
  · rw [entriesOf_concat, List.getLast?_concat]
    intro item isLast
    rw [← Option.some.inj isLast]
    exact endsWritten_trimEnd_functionBlock

theorem wellLaid_documentOf {c : ClassRecord} (neat : c.Neat) (readable : c.Readable)
    {importPath : Option Text} (singleLine : ∀ path ∈ importPath, '\n' ∉ path) {trailer : Text}
    (isTrailer : trailer ≠ [] → IsTrailer trailer) : (documentOf c importPath trailer).WellLaid where
  opening := by
    have headed := headed_preamble neat singleLine readable.description.1 readable.description.2
    exact Or.inl ⟨⟨_, rfl, neat.name.unescape, headed⟩, endsWritten_preamble neat singleLine, isTrailer⟩
  rows := by
    intro row member
    obtain ⟨v, inside, rfl⟩ := List.mem_map.mp member
    exact isRow_variableRow (neat.classVariables v inside)
  fields := by
    intro bullet member
    obtain ⟨f, inside, rfl⟩ := List.mem_map.mp member
    have spec := readable.fields f inside
    exact isBullet_fieldItem (neat.fields f inside) spec.1 spec.2
  functions := isEntry_entriesOf neat.functions readable.functions
  functionsEnd := endsWritten_entriesOf c.functions
  extra := rfl

/-! ### The page of a class -/

theorem functionBlock_ne_nil (f : FunctionRecord) : functionBlock f ≠ [] := by
  intro empty
  have written := endsWritten_trimEnd_functionBlock (f := f)
  rw [empty] at written
  exact written.ne_nil rfl

/-- The blanks at the end of the last block do not count. -/
theorem functionsSection_entriesOf {functions : List FunctionRecord} (nonempty : functions ≠ []) :
    functionsSection (joinParagraphs ((entriesOf functions).map (·.text))) =
      functionsSection (joinParagraphs (functions.map functionBlock)) := by
  obtain ⟨before, last, same⟩ := (List.eq_nil_or_concat' functions).resolve_left nonempty
  have written := endsWritten_trimEnd_functionBlock (f := last)
  have entries : (entriesOf functions).map (·.text) =
      before.map functionBlock ++ [trimEnd (functionBlock last)] := by
    rw [same, entriesOf_concat, List.map_append, List.map_map]
    rfl
  unfold functionsSection
  rw [entries, same, List.map_append, List.map_singleton, trimEnd_joinParagraphs _ written.ne_nil,
    trimEnd_of_endsWritten (endsWritten_joinParagraphs List.getLast?_concat written)]

theorem joinParagraphs_functionBlocks_ne_nil {functions : List FunctionRecord}
    (nonempty : functions ≠ []) : joinParagraphs (functions.map functionBlock) ≠ [] := by
  obtain ⟨before, last, same⟩ := (List.eq_nil_or_concat' functions).resolve_left nonempty
  obtain ⟨above, joined⟩ := joinParagraphs_concat (before.map functionBlock)
  rw [same, List.map_append, List.map_singleton, joined]
  exact List.append_ne_nil_of_right_ne_nil _ (functionBlock_ne_nil last)

theorem memberSection_eq {α : Type} (members : List α) (member : α → Member)
    (layOut : List Text → Text) :
    memberSection members (fun a => (member a).text) layOut =
      if (members.map member).isEmpty then [] else [layOut ((members.map member).map (·.text))] := by
  unfold memberSection
  rw [List.map_map, List.isEmpty_map]
  rfl

/-- The sections of a class around some functions are those of its document with these functions. -/
theorem classSections_of_functions (c : ClassRecord) (importPath : Option Text) (trailer : Text)
    {functions : Text} {items : List FunctionItem}
    (same : (if functions.isEmpty then [] else [functionsSection functions]) =
      if items.isEmpty then [] else [functionsSection (joinParagraphs (items.map (·.text)))]) :
    classSections c functions =
      { documentOf c importPath trailer with functions := items }.sections := by
  unfold classSections sections
  rw [same]
  show memberSection c.classVariables (fun v => (rowOf v).text) variablesSection ++
    memberSection c.fields (fun f => (bulletOf f).text) fieldsSection ++ _ = _
  rw [memberSection_eq, memberSection_eq]
  exact (List.append_nil _).symm

theorem classSections_eq (c : ClassRecord) (importPath : Option Text) (trailer : Text) :
    classSections c (joinParagraphs (c.functions.map functionBlock)) =
      (documentOf c importPath trailer).sections := by
  refine classSections_of_functions c importPath trailer ?_
  by_cases empty : c.functions = []
  · rw [empty]
    rfl
  · have shown : entriesOf c.functions ≠ [] := by
      obtain ⟨before, last, same⟩ := (List.eq_nil_or_concat' c.functions).resolve_left empty
      rw [same, entriesOf_concat]
      simp
    rw [if_neg (by simpa using joinParagraphs_functionBlocks_ne_nil empty),
      if_neg (by simpa using shown), functionsSection_entriesOf empty]

/-- The text of the page of a class, arranged by no plan. -/
def pageText (c : ClassRecord) (importPath : Option Text) : Text :=
  joinSections (Markdown.preamble c importPath)
    (classSections c (joinParagraphs (c.functions.map functionBlock)))

theorem classPage_none (c : ClassRecord) (importPath : Option Text) :
    classPage c none importPath = (Page.ofText (pageText c importPath), []) := by
  have texts : (ReferencePages.functionBlocks c).map (·.2) = c.functions.map functionBlock := by
    unfold ReferencePages.functionBlocks
    rw [List.map_map]
    rfl
  unfold classPage arrange
  simp only [planned?, Option.bind_none, texts]
  rfl

theorem mem_classSections {c : ClassRecord} {s functions : Text}
    (member : s ∈ classSections c functions) :
    s = variablesSection (c.classVariables.map variableRow) ∨
      s = fieldsSection (c.fields.map fieldItem) ∨ s = functionsSection functions := by
  unfold classSections memberSection at member
  rcases List.mem_append.mp member with member | inFunctions
  · rcases List.mem_append.mp member with inVariables | inFields
    · split at inVariables
      · exact absurd inVariables List.not_mem_nil
      · exact Or.inl (List.mem_singleton.mp inVariables)
    · split at inFields
      · exact absurd inFields List.not_mem_nil
      · exact Or.inr (Or.inl (List.mem_singleton.mp inFields))
  · split at inFunctions
    · exact absurd inFunctions List.not_mem_nil
    · exact Or.inr (Or.inr (List.mem_singleton.mp inFunctions))

theorem smooth_variablesSection {c : ClassRecord} (neat : c.Neat) :
    Smooth (variablesSection (c.classVariables.map variableRow)) := by
  have clean : ∀ line ∈ tableHead ++ c.classVariables.map variableRow, IsLine line := by
    intro line member
    rcases List.mem_append.mp member with inHead | inRows
    · exact isLine_tableHead line inHead
    · obtain ⟨v, inside, rfl⟩ := List.mem_map.mp inRows
      have isRow := isRow_variableRow (neat.classVariables v inside)
      exact isRow.written.isLine isRow.unbroken
  exact smooth_titled isTitle_variablesTitle (smooth_joinLines clean)

theorem smooth_fieldsSection {c : ClassRecord} (neat : c.Neat) :
    Smooth (fieldsSection (c.fields.map fieldItem)) := by
  have joined : joinLines (c.fields.map fieldItem) =
      joinLines (c.fields.flatMap (lines <| fieldItem ·)) := by
    refine joinLines_map fieldItem (fun f member => (tidy_fieldItem (neat.fields f member)).laid)
      fun f member => ?_
    obtain ⟨tail, rest, shape, -⟩ := fieldLines_cons f
    rw [lines_fieldItem (neat.fields f member), shape]
    exact List.cons_ne_nil _ _
  unfold fieldsSection
  rw [joined]
  refine smooth_titled isTitle_fieldsTitle (smooth_joinLines fun line member => ?_)
  obtain ⟨f, inside, inText⟩ := List.mem_flatMap.mp member
  exact (tidy_fieldItem (neat.fields f inside)).isLine line inText

theorem smooth_functionsSection {c : ClassRecord} (neat : c.Neat) :
    Smooth (functionsSection (joinParagraphs (c.functions.map functionBlock))) := by
  have body : Smooth (joinParagraphs (c.functions.map functionBlock)) := by
    refine Sleek.smooth (sleek_joinParagraphs fun shown member => ?_)
    obtain ⟨f, inside, rfl⟩ := List.mem_map.mp member
    exact sleek_functionBlock (neat.functions f inside)
  have trimmed := smooth_trimEnd_append body (.nil : Smooth [])
  rw [List.append_nil] at trimmed
  exact smooth_titled isTitle_functionsTitle trimmed

theorem smooth_pageText {c : ClassRecord} (neat : c.Neat) {importPath : Option Text}
    (singleLine : ∀ path ∈ importPath, '\n' ∉ path) : Smooth (pageText c importPath) := by
  refine smooth_joinSections (smooth_preamble neat singleLine) fun s member => ?_
  rcases mem_classSections member with rfl | rfl | rfl
  · exact smooth_variablesSection neat
  · exact smooth_fieldsSection neat
  · exact smooth_functionsSection neat

/-! ### The first line of a page -/

/-- The text starts with the line and goes on with a break, if at all. -/
def StartsWith (line : Line) (t : Text) : Prop :=
  ∃ below, t = line ++ below ∧ ∀ c ∈ below.head?, c = '\n'

theorem StartsWith.append {line : Line} {t more : Text} (starts : StartsWith line t)
    (next : ∀ c ∈ more.head?, c = '\n') : StartsWith line (t ++ more) := by
  obtain ⟨below, rfl, first⟩ := starts
  refine ⟨below ++ more, List.append_assoc .., fun c member => ?_⟩
  cases below with
  | nil => exact next c member
  | cons d rest => exact first c member

theorem startsWith_joinParagraphs {line : Line} {t : Text} (starts : StartsWith line t)
    (rest : List Text) : StartsWith line (joinParagraphs (t :: rest)) := by
  by_cases alone : rest = []
  · rw [alone, joinParagraphs_singleton]
    exact starts
  · rw [joinParagraphs_cons t alone]
    exact starts.append (by simp)

theorem takeWhile_line {line below : Text} (unbroken : '\n' ∉ line)
    (next : ∀ c ∈ below.head?, c = '\n') : (line ++ below).takeWhile (· != '\n') = line := by
  have passes : ∀ c ∈ line, (c != '\n') = true := by
    intro c member
    have other : c ≠ '\n' := fun same => unbroken (same ▸ member)
    simpa using other
  rw [List.takeWhile_append_of_pos passes]
  cases below with
  | nil => simp
  | cons c rest => simp [next c rfl]

/-- The first line of a text that is made of lines. -/
theorem StartsWith.lines {line : Line} {t : Text} (starts : StartsWith line t) (laid : Laid t)
    (unbroken : '\n' ∉ line) (nonempty : Text.lines t ≠ []) : ∃ rest, Text.lines t = line :: rest := by
  obtain ⟨below, same, next⟩ := starts
  obtain ⟨first, rest, split⟩ := List.exists_cons_of_ne_nil nonempty
  have joined := laid.joined
  have firstUnbroken := (laid.clean first (by rw [split]; exact List.mem_cons_self)).unbroken
  have shape : ∃ after, t = first ++ after ∧ ∀ c ∈ after.head?, c = '\n' := by
    rw [split] at joined
    by_cases alone : rest = []
    · rw [alone, joinLines_singleton] at joined
      exact ⟨[], by rw [List.append_nil, joined], by simp⟩
    · rw [joinLines_cons first alone] at joined
      exact ⟨_, joined.symm, by simp⟩
  obtain ⟨after, shown, nextAfter⟩ := shape
  have one := takeWhile_line firstUnbroken nextAfter
  have two := takeWhile_line unbroken next
  rw [← shown] at one
  rw [← same, one] at two
  exact ⟨rest, by rw [split, two]⟩

/-! ### The pages of all classes -/

/-- A document of parts that do not end with blanks ends with one break. -/
theorem trimEnd_joinSections {preamble : Text} (written : EndsWritten preamble) {sections : List Text}
    (left : ∀ s ∈ sections, trimEnd s ≠ []) :
    trimEnd (joinSections preamble sections) =
        preamble ++ (sections.flatMap fun s => "\n\n".toList ++ rule ++ "\n\n".toList ++ trimEnd s) ∧
      EndsWritten (trimEnd (joinSections preamble sections)) ∧
      joinSections preamble sections = trimEnd (joinSections preamble sections) ++ ['\n'] := by
  have body : EndsWritten (preamble ++ (sections.flatMap fun s =>
      "\n\n".toList ++ rule ++ "\n\n".toList ++ trimEnd s)) := by
    rcases List.eq_nil_or_concat' sections with empty | ⟨before, last, same⟩
    · rw [empty, List.flatMap_nil, List.append_nil]
      exact written
    · have ends := (endsWritten_trimEnd last).resolve_left (left last (by simp [same]))
      rw [same, List.flatMap_append, List.flatMap_singleton]
      exact ((ends.append _).append _).append _
  have same : trimEnd (joinSections preamble sections) = preamble ++ (sections.flatMap fun s =>
      "\n\n".toList ++ rule ++ "\n\n".toList ++ trimEnd s) := by
    unfold joinSections
    rw [trimEnd_of_endsWritten written, trimEnd_break, trimEnd_of_endsWritten body]
  refine ⟨same, by rwa [same], ?_⟩
  rw [same]
  unfold joinSections
  rw [trimEnd_of_endsWritten written]

theorem trimEnd_classSections_ne_nil {c : ClassRecord} {s functions : Text}
    (member : s ∈ classSections c functions) : trimEnd s ≠ [] := by
  rcases mem_classSections member with rfl | rfl | rfl
  · exact trimEnd_cons_ne_nil (by decide) _
  · exact trimEnd_cons_ne_nil (by decide) _
  · exact trimEnd_cons_ne_nil (by decide) _

/-- A page starts with its title and ends with one break. -/
theorem pageText_break {c : ClassRecord} (neat : c.Neat) {importPath : Option Text}
    (singleLine : ∀ path ∈ importPath, '\n' ∉ path) :
    pageText c importPath = trimEnd (pageText c importPath) ++ ['\n'] ∧
      EndsWritten (trimEnd (pageText c importPath)) ∧
      StartsWith ("# ".toList ++ c.name) (trimEnd (pageText c importPath)) := by
  obtain ⟨same, written, ends⟩ := trimEnd_joinSections (endsWritten_preamble neat singleLine)
    fun s (member : s ∈ classSections c (joinParagraphs (c.functions.map functionBlock))) =>
      trimEnd_classSections_ne_nil member
  refine ⟨ends, written, ?_⟩
  unfold pageText
  rw [same, preamble_eq]
  refine (startsWith_joinParagraphs ⟨[], (List.append_nil _).symm, by simp⟩ _).append ?_
  cases classSections c (joinParagraphs (c.functions.map functionBlock)) with
  | nil => simp
  | cons s rest => simp

/-- The pages of further classes as one text. -/
def trailerOf (others : List ClassRecord) (importPath : Option Text) : Text :=
  joinParagraphs (others.map fun c => trimEnd (pageText c importPath))

/-- **The pages of further classes start with a second title.** -/
theorem isTrailer_trailerOf {others : List ClassRecord} (neat : ∀ c ∈ others, c.Neat)
    {importPath : Option Text} (singleLine : ∀ path ∈ importPath, '\n' ∉ path)
    (nonempty : others ≠ []) : IsTrailer (trailerOf others importPath) := by
  have written : EndsWritten (trailerOf others importPath) := by
    obtain ⟨before, last, same⟩ := (List.eq_nil_or_concat' others).resolve_left nonempty
    have ends := (pageText_break (neat last (by simp [same])) singleLine).2.1
    unfold trailerOf
    rw [same, List.map_append, List.map_singleton]
    exact endsWritten_joinParagraphs List.getLast?_concat ends
  have smooth : Smooth (trailerOf others importPath) := by
    refine Sleek.smooth (sleek_joinParagraphs fun shown member => ?_)
    obtain ⟨c, inside, rfl⟩ := List.mem_map.mp member
    have text := smooth_trimEnd_append (smooth_pageText (neat c inside) singleLine) (.nil : Smooth [])
    rw [List.append_nil] at text
    exact sleek_of_endsWritten text (pageText_break (neat c inside) singleLine).2.1
  have tidy : Tidy (trailerOf others importPath) := ⟨smooth, trimEnd_of_endsWritten written⟩
  obtain ⟨second, rest, rfl⟩ := List.exists_cons_of_ne_nil nonempty
  have neatSecond := neat second List.mem_cons_self
  have starts : StartsWith ("# ".toList ++ second.name) (trailerOf (second :: rest) importPath) :=
    startsWith_joinParagraphs (pageText_break neatSecond singleLine).2.2 _
  obtain ⟨below, same⟩ := starts.lines tidy.laid (isLine_title neatSecond.name).unbroken
    (tidy.lines_ne_nil written.ne_nil)
  exact ⟨tidy, _, below, _, same, rfl, heading?_title neatSecond.name, rfl⟩

/-- **The page of a source is the document of its first class**, the pages of the others below. -/
theorem classesText_eq {first : ClassRecord} {others : List ClassRecord} (neat : first.Neat)
    (neatOthers : ∀ c ∈ others, c.Neat) {importPath : Option Text}
    (singleLine : ∀ path ∈ importPath, '\n' ∉ path) :
    classesText (first :: others) none importPath =
      ((documentOf first importPath (trailerOf others importPath)).render, []) := by
  have sections := classSections_eq first importPath (trailerOf others importPath)
  have text : (documentOf first importPath (trailerOf others importPath)).render =
      joinParagraphs ((first :: others).map fun c => trimEnd (pageText c importPath)) ++ ['\n'] := by
    have page := (pageText_break neat singleLine).1
    unfold render
    rw [← sections]
    show pageText first importPath ++ (if (trailerOf others importPath).isEmpty then []
      else ['\n'] ++ trailerOf others importPath ++ ['\n']) = _
    by_cases alone : others = []
    · rw [alone, List.map_singleton, joinParagraphs_singleton, ← page]
      exact List.append_nil _
    · have isTrailer := isTrailer_trailerOf neatOthers singleLine alone
      have nonempty : trailerOf others importPath ≠ [] := by
        intro empty
        obtain ⟨line, rest, _, same, -⟩ := isTrailer.shape
        rw [empty] at same
        cases same
      rw [if_neg (by simpa using nonempty), List.map_cons, joinParagraphs_cons _ (by simpa using alone),
        page, trimEnd_break, trimEnd_trimEnd]
      show _ = _ ++ '\n' :: '\n' :: trailerOf others importPath ++ ['\n']
      simp
  unfold classesText joinDocuments
  simp only [classPage_none, List.map_map]
  rw [text]
  refine congrArg₂ Prod.mk rfl ?_
  exact List.flatMap_eq_nil_iff.mpr fun pair member => by
    obtain ⟨c, -, rfl⟩ := List.mem_map.mp member
    rfl

/-! ### Reading a page back -/

/-- The document that the page of a source without classes is read as. -/
def blank : Document := ⟨[], [], [], [], [], [], []⟩

theorem wellLaid_blank : blank.WellLaid := by
  refine ⟨Or.inr ⟨rfl, rfl, rfl⟩, ?_, ?_, ?_, ?_, rfl⟩
  · exact fun row member => absurd member List.not_mem_nil
  · exact fun bullet member => absurd member List.not_mem_nil
  · exact fun item member => absurd member List.not_mem_nil
  · exact fun item member => by cases member

/-- The document of all classes of a source. -/
def documentOfAll (classes : List ClassRecord) (importPath : Option Text) : Document :=
  match classes with
  | [] => blank
  | first :: others => documentOf first importPath (trailerOf others importPath)

theorem classesText_documentOfAll {classes : List ClassRecord} (neat : ∀ c ∈ classes, c.Neat)
    {importPath : Option Text} (singleLine : ∀ path ∈ importPath, '\n' ∉ path) :
    classesText classes none importPath = ((documentOfAll classes importPath).render, []) := by
  cases classes with
  | nil => rfl
  | cons first others =>
    exact classesText_eq (neat first List.mem_cons_self)
      (fun c member => neat c (List.mem_cons_of_mem _ member)) singleLine

theorem wellLaid_documentOfAll {classes : List ClassRecord} (neat : ∀ c ∈ classes, c.Neat)
    (readable : ∀ first ∈ classes.head?, first.Readable) {importPath : Option Text}
    (singleLine : ∀ path ∈ importPath, '\n' ∉ path) :
    (documentOfAll classes importPath).WellLaid := by
  cases classes with
  | nil => exact wellLaid_blank
  | cons first others =>
    refine wellLaid_documentOf (neat first List.mem_cons_self) (readable first rfl) singleLine
      fun nonempty => ?_
    refine isTrailer_trailerOf (fun c member => neat c (List.mem_cons_of_mem _ member)) singleLine ?_
    rintro rfl
    exact nonempty rfl

end Document

/-- The page of a source whose classes are read is the document of these classes. -/
theorem Source.reference_none {name text : Text} {options : DocOptions} {classes : List ClassRecord}
    (assembled : (Source.ofText name text).assemble options.strict = .ok classes)
    (singleLine : ∀ path ∈ options.importPath (Source.ofText name text) classes, '\n' ∉ path) :
    (Source.ofText name text).reference none options =
      .ok (Page.ofText (Document.documentOfAll classes
        (options.importPath (Source.ofText name text) classes)).render, []) := by
  have page := Document.classesText_documentOfAll (neat_assemble assembled) singleLine
  unfold reference
  simp only [assembled, Except.map, page]

/-- **A page is read back.** When the first class of a source is readable and its import path stands
on one line, the page of the source exists, writing what is read from it gives its text again, and
the title, the rows, the bullets and the blocks that are read are those of the first class. -/
theorem Source.reference_readBack {name text : Text} {options : DocOptions}
    {classes : List ClassRecord}
    (assembled : (Source.ofText name text).assemble options.strict = .ok classes)
    (singleLine : ∀ path ∈ options.importPath (Source.ofText name text) classes, '\n' ∉ path)
    (readable : ∀ first ∈ classes.head?, first.Readable) :
    ∃ page, (Source.ofText name text).reference none options = .ok (page, []) ∧
      (Document.parse page.text).render = page.text ∧
      ∀ first ∈ classes.head?,
        (Document.parse page.text).title = first.name ∧
        (Document.parse page.text).rows = first.classVariables.map Document.rowOf ∧
        (Document.parse page.text).fields = first.fields.map Document.bulletOf ∧
        (Document.parse page.text).functions = Document.entriesOf first.functions := by
  have laid := Document.wellLaid_documentOfAll (neat_assemble assembled) readable singleLine
  have read := laid.parse_render
  refine ⟨_, Source.reference_none assembled singleLine, ?_, fun first isFirst => ?_⟩
  · show (Document.parse (Document.render _)).render = _
    rw [read]
    rfl
  · have same : ∃ others, classes = first :: others := by
      cases classes with
      | nil => cases isFirst
      | cons head others => exact ⟨others, by rw [Option.some.inj isFirst]⟩
    obtain ⟨others, rfl⟩ := same
    show (Document.parse (Document.render _)).title = _ ∧
      (Document.parse (Document.render _)).rows = _ ∧
      (Document.parse (Document.render _)).fields = _ ∧
      (Document.parse (Document.render _)).functions = _
    rw [read]
    exact ⟨rfl, rfl, rfl, rfl⟩

/-- A source with members of every kind, a line that looks like a heading, a bullet inside a bullet, a
body that starts with a rule, an empty return description and a second class. -/
def sampleText : Text :=
  joinLines (["class Shape:", " \"\"\"A shape.", " # no heading", " \"\"\"",
    " \"\"\":class_var the sides\"\"\"", " sides = 4", " def __init__(self):", "  \"\"\":field the",
    "  - `w`\"\"\"", "  self.w = 1", " def of(self):", "  \"\"\"***", "  | the area",
    "  :return:\"\"\"", "class Other:"].map (·.toList))

/-- The classes of the sample. -/
def sampleClasses : List ClassRecord :=
  match (Source.ofText "a.py".toList sampleText).assemble false with
  | .ok classes => classes
  | .error _ => []

theorem Source.reference_readBack_sample :
    ∃ page, (Source.ofText "a.py".toList sampleText).reference none ⟨some "pkg".toList, [], false⟩ =
        .ok (page, []) ∧
      (Document.parse page.text).render = page.text ∧
      ∀ first ∈ sampleClasses.head?,
        (Document.parse page.text).title = first.name ∧
        (Document.parse page.text).rows = first.classVariables.map Document.rowOf ∧
        (Document.parse page.text).fields = first.fields.map Document.bulletOf ∧
        (Document.parse page.text).functions = Document.entriesOf first.functions :=
  Source.reference_readBack (by decide +kernel) (by decide +kernel) (by decide +kernel)

end ReferencePages
