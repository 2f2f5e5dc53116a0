/-
**Prose does not change which members are recognised.**

Two classes that differ in prose only are read back from their pages with the same title and the same
members, as long as the prose of both closes the fences that it opens. For every section the reader
finds the names that its lines show, whatever else they hold:

* `names_readRows`, `names_readBullets`, `names_readItems`: the names of the members that are read;
* `marked_joinSections`: a document of pieces that close their fences, marked piece by piece;
* `recognised_classPage`: the names that are read from a page are those of the record;
* `recognised_congr`: **records that agree without their prose are read back with the same members**.

A fence that is left open hides what follows it, and a fence on the first line of a field's
description, which stands behind the bullet, is taken for open by the line that closes it
(`fenced_field_hides_functions`).
-/

import ReferencePages.Document
import ReferencePages.Proofs.Document.ClassOutline

namespace ReferencePages

open Text Markdown

namespace Document

/-! ### Names -/

/-- What sets the members of a document apart from its prose: the title and the names of rows, bullets
and functions. -/
structure Recognised where
  title : Text
  rows : List Text
  fields : List Text
  functions : List Text
  deriving DecidableEq

/-- The members of a document. -/
def recognised (document : Document) : Recognised :=
  { title := document.title
    rows := document.rows.map (·.name)
    fields := document.fields.map (·.name)
    functions := document.functionBlocks.map (·.1) }

/-- The groups of a list are as many as its marks. -/
theorem map_key_groups {α β : Type} (mark? : α → Option β) (items : List α) :
    (groups mark? items).2.map (·.key) = items.filterMap mark? := by
  induction items with
  | nil => rfl
  | cons a rest ih =>
    rw [groups, List.filterMap_cons]
    cases marks : mark? a with
    | some key =>
      show key :: (groups mark? rest).2.map (·.key) = _
      rw [ih]
    | none => exact ih

/-- Blank lines and rules show nothing, so trimming takes no name away. -/
theorem filterMap_trimLines {α : Type} {read? : Line → Option α}
    (silent : ∀ line, isBlankOrRule line = true → read? line = none) (ls : List Line) :
    (trimLines ls).filterMap read? = ls.filterMap read? := by
  have dropped : ∀ p : Line → Bool, (∀ line, p line = true → read? line = none) →
      ∀ rest : List Line, (rest.dropWhile p).filterMap read? = rest.filterMap read? := by
    intro p nothing rest
    have taken : (rest.takeWhile p).filterMap read? = [] :=
      List.filterMap_eq_nil_iff.mpr fun line member => nothing line (List.mem_takeWhile_imp member)
    conv_rhs => rw [← List.takeWhile_append_dropWhile (p := p) (l := rest)]
    rw [List.filterMap_append, taken, List.nil_append]
  have blank : ∀ line, allBlank line = true → read? line = none := by
    intro line isBlank
    refine silent line ?_
    unfold isBlankOrRule
    rw [isBlank, Bool.true_or]
  unfold trimLines
  rw [List.filterMap_reverse, dropped _ silent, List.filterMap_reverse, List.reverse_reverse,
    dropped _ blank]

/-- Trimming takes no name away from lines that show names behind a mark. -/
theorem filterMap_shownName?_trimLines (mark : String) {c : Char} {letters : Text}
    (spelled : mark.toList = c :: letters) (notBlank : isBlank c = false) (noStar : c ≠ '*')
    (ls : List Line) :
    (trimLines ls).filterMap (shownName? mark) = ls.filterMap (shownName? mark) := by
  refine filterMap_trimLines (fun line gap => ?_) ls
  cases shown : shownName? mark line with
  | none => rfl
  | some name =>
    obtain ⟨rest, same⟩ := exists_append_of_shownName? shown
    rw [same, spelled, List.cons_append, isBlankOrRule_cons _ notBlank noStar] at gap
    cases gap

/-- The names of the rows that are read from some lines. -/
theorem names_readRows (ls : List Line) :
    (readRows ls).map (·.name) = ls.filterMap (shownName? "| `") := by
  unfold readRows
  rw [List.map_filterMap]
  refine List.filterMap_congr fun line _ => ?_
  cases shownName? "| `" line <;> rfl

/-- The names of the bullets that are read from some lines. -/
theorem names_readBullets (ls : List Line) :
    (readBullets ls).map (·.name) = ls.filterMap (shownName? "- `") := by
  unfold readBullets
  rw [List.map_map]
  exact map_key_groups (shownName? "- `") ls

/-- The function that an entry of an outline stands for. -/
def functionName? (entry : Nat × Text) : Option Text := if entry.1 = 4 then some entry.2 else none

/-- The names of the functions that are read from marked lines. -/
theorem names_readItems (ls : List MarkedLine) :
    ((readItems ls).filterMap FunctionItem.block?).map (·.1) =
      (ls.filterMap fun line => line.heading.map entryOfHeading).filterMap functionName? := by
  have named : ∀ group : Group MarkedLine Heading,
      ((itemOf group).block?).map (·.1) = functionName? (entryOfHeading group.key) := by
    intro group
    unfold itemOf functionName? entryOfHeading
    by_cases four : group.key.level = 4
    · simp [four, FunctionItem.block?]
    · simp [four, FunctionItem.block?]
  calc ((readItems ls).filterMap FunctionItem.block?).map (·.1)
      = (groups itemHeading? ls).2.filterMap fun group => functionName? (entryOfHeading group.key) := by
        unfold readItems
        rw [List.filterMap_map, List.map_filterMap]
        exact List.filterMap_congr fun group _ => named group
    _ = (ls.filterMap itemHeading?).filterMap fun heading => functionName? (entryOfHeading heading) := by
        rw [← map_key_groups itemHeading? ls, List.filterMap_map]
        rfl
    _ = (ls.filterMap fun line => line.heading.map entryOfHeading).filterMap functionName? := by
        rw [List.filterMap_filterMap, List.filterMap_filterMap]
        refine List.filterMap_congr fun line _ => ?_
        unfold itemHeading? functionName? entryOfHeading
        cases line.heading with
        | none => rfl
        | some heading =>
          by_cases four : heading.level = 4
          · simp [Option.filter_some, four]
          · by_cases three : heading.level = 3
            · simp [Option.filter_some, three]
            · simp [Option.filter_some, three, four]

/-! ### A document, piece by piece -/

theorem brokenLines_separator (first second : Text) :
    brokenLines (first ++ '\n' :: '\n' :: (rule ++ '\n' :: '\n' :: second)) =
      brokenLines first ++ (separatorLines ++ brokenLines second) := by
  have blank : ∀ t : Text, brokenLines ('\n' :: t) = [] :: brokenLines t := by
    intro t
    exact brokenLines_append [] t
  rw [brokenLines_append, blank, brokenLines_append, blank,
    brokenLines_of_unbroken (by decide : '\n' ∉ rule)]
  rfl

/-- **A document of pieces that close their fences is marked piece by piece.** -/
theorem marked_joinSections {preamble : Text} {sections : List Text}
    (closed : fenceAfterAll none (brokenLines (trimEnd preamble)) = none)
    (each : ∀ s ∈ sections, fenceAfterAll none (brokenLines (trimEnd s)) = none) :
    marked (joinSections preamble sections) = markLines none (brokenLines (trimEnd preamble)) ++
      sections.flatMap fun s => separator ++ markLines none (brokenLines (trimEnd s)) := by
  -- The piece before the sections changes along the induction: each section takes its place.
  have scan : ∀ first : Text, fenceAfterAll none (brokenLines first) = none →
      markLines none (brokenLines
          (joinParagraphs (first :: sections.flatMap fun s => [rule, trimEnd s]))) =
        markLines none (brokenLines first) ++
          sections.flatMap fun s => separator ++ markLines none (brokenLines (trimEnd s)) := by
    clear closed
    induction sections with
    | nil =>
      intro first _
      rw [List.flatMap_nil, List.flatMap_nil, joinParagraphs_singleton, List.append_nil]
    | cons s rest ih =>
      intro first closed
      have below := ih (fun other member => each other (List.mem_cons_of_mem _ member)) (trimEnd s)
        (each s List.mem_cons_self)
      rw [List.flatMap_cons, List.flatMap_cons, List.cons_append, List.singleton_append,
        joinParagraphs_cons first (List.cons_ne_nil _ _), joinParagraphs_cons rule (List.cons_ne_nil _ _),
        brokenLines_separator, markLines_append, closed, markLines_append, closed_separatorLines,
        markLines_separatorLines, below, List.append_assoc]
  unfold marked
  rw [joinSections_eq, lines_break, scan _ closed]

/-! ### Sections -/

/-- A section as it is marked. -/
def sectionGroup (title body : Text) : Group MarkedLine Heading :=
  ⟨⟨2, title⟩, ⟨"## ".toList ++ title, some ⟨2, title⟩⟩, ⟨[], none⟩ :: markLines none (brokenLines body)⟩

section Titled

variable {title body : Text} (isTitle : Part.IsTitle title)

include isTitle

theorem brokenLines_titled :
    brokenLines (titled title body) = ("## ".toList ++ title) :: [] :: brokenLines body := by
  have text : titled title body = ("## ".toList ++ title) ++ '\n' :: ([] ++ '\n' :: body) := by
    simp [titled]
  rw [text, brokenLines_append, brokenLines_append, brokenLines_of_unbroken isTitle.isLine.unbroken,
    dropReturn_of_isLine isTitle.isLine]
  rfl

theorem markLines_titled :
    markLines none (brokenLines (titled title body)) = (sectionGroup title body).all := by
  have isHeading : heading? ("## ".toList ++ title) = some ⟨2, title⟩ := by
    have level : heading? (List.replicate 2 '#' ++ ' ' :: title) = some ⟨2, trim (' ' :: title)⟩ :=
      heading?_replicate (by decide) (by decide) title
    rwa [isTitle.trimmed] at level
  rw [brokenLines_titled isTitle, markLines_heading rfl isHeading]
  rfl

theorem closed_titled (closed : fenceAfterAll none (brokenLines body) = none) :
    fenceAfterAll none (brokenLines (titled title body)) = none := by
  rw [brokenLines_titled isTitle, fenceAfterAll_heading rfl]
  exact closed

omit isTitle

theorem trimEnd_titled (title : Text) (written : trimEnd body ≠ []) :
    trimEnd (titled title body) = titled title (trimEnd body) := trimEnd_append _ written

/-- A section without headings of the first two levels below its own. -/
theorem isSection_sectionGroup {outline : List (Nat × Text)} (outlined : Outlined body outline)
    (deep : ∀ entry ∈ outline, 2 < entry.1) : IsSection (sectionGroup title body) := by
  refine ⟨rfl, rfl, fun line member => ?_⟩
  rcases List.mem_cons.mp member with rfl | inBody
  · exact ⟨rfl, rfl⟩
  · unfold MarkedLine.headingAt?
    cases isHeading : line.heading with
    | none => exact ⟨rfl, rfl⟩
    | some heading =>
      have listed : entryOfHeading heading ∈ outline := by
        rw [← outlined.headings]
        exact List.mem_filterMap.mpr ⟨line, inBody, by rw [isHeading]; rfl⟩
      have level : 2 < heading.level := deep _ listed
      rw [Option.filter_some, Option.filter_some, if_neg (by simp; omega), if_neg (by simp; omega)]
      exact ⟨rfl, rfl⟩

end Titled

/-! ### Members -/

section Sections

variable {document : Document}

theorem recognised_variables (body : Text) :
    recognised (addSection document (sectionGroup variablesTitle body)) =
      { recognised document with rows := (brokenLines body).filterMap (shownName? "| `") } := by
  have title : unescape variablesTitle = variablesTitle := by decide
  have names : (readRows (trimLines ([] :: brokenLines body))).map (·.name) =
      (brokenLines body).filterMap (shownName? "| `") := by
    rw [names_readRows, filterMap_shownName?_trimLines "| `" rfl (by decide) (by decide)]
    rfl
  have added : addSection document (sectionGroup variablesTitle body) =
      { document with rows := readRows (trimLines ([] :: brokenLines body)) } := by
    unfold addSection sectionGroup
    simp only [title, if_pos, List.map_cons, map_text_markLines]
  rw [added]
  unfold recognised
  simp only [names]
  rfl

theorem recognised_fields (body : Text) :
    recognised (addSection document (sectionGroup fieldsTitle body)) =
      { recognised document with fields := (brokenLines body).filterMap (shownName? "- `") } := by
  have title : unescape fieldsTitle = fieldsTitle := by decide
  have other : fieldsTitle ≠ variablesTitle := by decide
  have names : (readBullets (trimLines ([] :: brokenLines body))).map (·.name) =
      (brokenLines body).filterMap (shownName? "- `") := by
    rw [names_readBullets, filterMap_shownName?_trimLines "- `" rfl (by decide) (by decide)]
    rfl
  have added : addSection document (sectionGroup fieldsTitle body) =
      { document with fields := readBullets (trimLines ([] :: brokenLines body)) } := by
    unfold addSection sectionGroup
    simp only [title, if_neg other, if_pos, List.map_cons, map_text_markLines]
  rw [added]
  unfold recognised
  simp only [names]
  rfl

theorem recognised_functions {body : Text} {outline : List (Nat × Text)}
    (outlined : Outlined body outline) :
    recognised (addSection document (sectionGroup functionsTitle body)) =
      { recognised document with functions := outline.filterMap functionName? } := by
  have title : unescape functionsTitle = functionsTitle := by decide
  have noRows : functionsTitle ≠ variablesTitle := by decide
  have noFields : functionsTitle ≠ fieldsTitle := by decide
  have names := names_readItems (⟨[], none⟩ :: markLines none (brokenLines body))
  have added : addSection document (sectionGroup functionsTitle body) = { document with
      functions := readItems (⟨[], none⟩ :: markLines none (brokenLines body)) } := by
    unfold addSection sectionGroup
    simp only [title, if_neg noRows, if_neg noFields, if_pos]
  rw [added, ← outlined.headings]
  unfold recognised functionBlocks
  simp only [names]
  rfl

end Sections

/-! ### Sections and what is read from them -/

/-- Sections that close their fences and are read with a change to what is recognised. -/
def ReadAs (sections : List Text) (change : Recognised → Recognised) : Prop :=
  (∀ s ∈ sections, fenceAfterAll none (brokenLines (trimEnd s)) = none) ∧
    ∃ found : List (Group MarkedLine Heading),
      (sections.flatMap fun s => separator ++ markLines none (brokenLines (trimEnd s))) =
        separated found ∧ (∀ group ∈ found, IsSection group) ∧
      ∀ document, recognised (found.foldl addSection document) = change (recognised document)

theorem ReadAs.nil : ReadAs [] id :=
  ⟨fun _ member => absurd member List.not_mem_nil, [], rfl,
    fun _ member => absurd member List.not_mem_nil, fun _ => rfl⟩

/-- **Sections are read one after the other.** -/
theorem ReadAs.append {first second : List Text} {one two : Recognised → Recognised}
    (above : ReadAs first one) (below : ReadAs second two) :
    ReadAs (first ++ second) fun known => two (one known) := by
  obtain ⟨closedAbove, groupsAbove, marksAbove, sectionsAbove, readsAbove⟩ := above
  obtain ⟨closedBelow, groupsBelow, marksBelow, sectionsBelow, readsBelow⟩ := below
  refine ⟨fun s member => (List.mem_append.mp member).elim (closedAbove s) (closedBelow s),
    groupsAbove ++ groupsBelow, ?_, fun group member =>
      (List.mem_append.mp member).elim (sectionsAbove group) (sectionsBelow group), fun document => ?_⟩
  · rw [List.flatMap_append, marksAbove, marksBelow, separated, separated, separated,
      List.flatMap_append]
  · rw [List.foldl_append, readsBelow, readsAbove]

theorem readAs_titled {title body : Text} {outline : List (Nat × Text)} {change : Recognised → Recognised}
    (isTitle : Part.IsTitle title) (shown : Shown body outline) (deep : ∀ entry ∈ outline, 2 < entry.1)
    (reads : ∀ document, recognised (addSection document (sectionGroup title (trimEnd body))) =
      change (recognised document)) : ReadAs [titled title body] change := by
  have text := trimEnd_titled title shown.written
  refine ⟨fun s member => ?_, [sectionGroup title (trimEnd body)], ?_, fun group member => ?_, reads⟩
  · rw [List.mem_singleton.mp member, text]
    exact closed_titled isTitle shown.trimmed.closed
  · rw [List.flatMap_singleton, text, markLines_titled isTitle, separated, List.flatMap_singleton]
  · rw [List.mem_singleton.mp member]
    exact isSection_sectionGroup shown.trimmed deep

/-- The lines of several bullets. -/
theorem brokenLines_bullets {fields : List Field} (neat : ∀ f ∈ fields, f.Neat)
    (nonempty : fields ≠ []) :
    brokenLines (joinLines (fields.map fieldItem)) = fields.flatMap fieldLines := by
  induction fields with
  | nil => exact absurd rfl nonempty
  | cons f rest ih =>
    have here := neat f List.mem_cons_self
    have single : brokenLines (fieldItem f) = fieldLines f := by
      obtain ⟨tail, below, shape, -⟩ := fieldLines_cons f
      have written : lines (fieldItem f) ≠ [] := by
        rw [lines_fieldItem here, shape]
        exact List.cons_ne_nil _ _
      rw [brokenLines_of_laid (tidy_fieldItem here).laid written, lines_fieldItem here]
    by_cases alone : rest = []
    · rw [alone, List.map_singleton, joinLines_singleton, single, List.flatMap_singleton]
    · rw [List.map_cons, joinLines_cons _ (by simpa using alone), brokenLines_append, single,
        ih (fun other member => neat other (List.mem_cons_of_mem _ member)) alone, List.flatMap_cons]

/-- Only the first line of a bullet shows a name. -/
theorem filterMap_bullets {fields : List Field} (neat : ∀ f ∈ fields, f.Neat) :
    (fields.flatMap fieldLines).filterMap (shownName? "- `") = fields.map (·.name) := by
  rw [List.filterMap_flatMap, List.map_eq_flatMap]
  refine List.flatMap_congr fun f member => ?_
  obtain ⟨tail, rest, shape, further⟩ := fieldLines_cons f
  have name := shownName?_append "- `" (neat f member).name.noBacktick tail
  have silent : rest.filterMap (shownName? "- `") = [] := by
    refine List.filterMap_eq_nil_iff.mpr fun line inRest => ?_
    obtain ⟨source, -, rfl⟩ := further line inRest
    rcases continuation_eq source with empty | indented
    · rw [empty]
      rfl
    · rw [indented]
      rfl
  rw [shape, List.filterMap_cons_some name, silent]

/-- The headings of functions and of the sections around them are below the second level. -/
theorem deep_functionOutline (plan : Option Plan) (c : ClassRecord) :
    ∀ entry ∈ functionOutline plan c, 2 < entry.1 := by
  intro entry member
  unfold functionOutline at member
  split at member
  · obtain ⟨f, -, rfl⟩ := List.mem_map.mp member
    show 2 < 4
    omega
  · obtain ⟨s, -, inSection⟩ := List.mem_flatMap.mp member
    rcases List.mem_append.mp inSection with inHeading | inFunctions
    · split at inHeading
      · rw [List.mem_singleton.mp inHeading]
        show 2 < 3
        omega
      · exact absurd inHeading List.not_mem_nil
    · obtain ⟨name, -, rfl⟩ := List.mem_map.mp inFunctions
      show 2 < 4
      omega

/-- The members that the page of a class shows. -/
def shownMembers (plan : Option Plan) (c : ClassRecord) : Recognised :=
  { title := c.name
    rows := c.classVariables.map (·.name)
    fields := c.fields.map (·.name)
    functions := (functionOutline plan c).filterMap functionName? }

section Class

variable {c : ClassRecord} (neat : c.Neat)

include neat

theorem filterMap_rows :
    (brokenLines (table variableColumns (c.classVariables.map variableRow))).filterMap
      (shownName? "| `") = c.classVariables.map (·.name) := by
  have isRow : ∀ row ∈ c.classVariables.map rowOf, IsRow row := by
    intro row member
    obtain ⟨v, inside, rfl⟩ := List.mem_map.mp member
    exact isRow_variableRow (neat.classVariables v inside)
  have texts : c.classVariables.map variableRow = (c.classVariables.map rowOf).map (·.text) := by
    rw [List.map_map]
    rfl
  have clean := fun line member => (passage_rowLines isRow).clean line (List.mem_cons_of_mem _ member)
  have broken : brokenLines (table variableColumns (c.classVariables.map variableRow)) =
      tableHead ++ (c.classVariables.map rowOf).map (·.text) := by
    rw [texts]
    refine (brokenLines_joinLines (List.cons_ne_nil _ _)
      fun line member => (clean line member).unbroken).trans ?_
    refine (List.map_congr_left fun line member => ?_).trans (List.map_id _)
    exact dropReturn_of_isLine (clean line member)
  rw [broken, ← names_readRows, readRows_rowLines isRow, List.map_map]
  rfl

theorem readAs_variables :
    ReadAs (memberSection c.classVariables variableRow variablesSection) fun known =>
      if c.classVariables = [] then known else { known with rows := c.classVariables.map (·.name) } := by
  unfold memberSection
  by_cases empty : c.classVariables = []
  · simp only [empty, if_pos]
    exact ReadAs.nil
  · have table := paragraph_variables neat
    simp only [if_neg empty, List.isEmpty_iff]
    refine readAs_titled isTitle_variablesTitle (table.1.outlined.shown table.2) (by simp)
      fun document => ?_
    rw [recognised_variables, trimEnd_of_endsWritten table.2, filterMap_rows neat]

theorem readAs_fields (closed : ∀ f ∈ c.fields, fenceAfterAll none (lines f.description).tail = none) :
    ReadAs (memberSection c.fields fieldItem fieldsSection) fun known =>
      if c.fields = [] then known else { known with fields := c.fields.map (·.name) } := by
  unfold memberSection
  by_cases empty : c.fields = []
  · simp only [empty, if_pos]
    exact ReadAs.nil
  · have written : EndsWritten (joinLines (c.fields.map fieldItem)) := by
      obtain ⟨before, last, same⟩ := (List.eq_nil_or_concat' c.fields).resolve_left empty
      have tidy := tidy_fieldItem (neat.fields last (by simp [same]))
      have ends : (c.fields.map fieldItem).getLast? = some (fieldItem last) := by
        rw [same, List.map_append, List.map_singleton, List.getLast?_concat]
      exact endsWritten_joinLines ends (tidy.endsWritten (by simp [fieldItem]))
    simp only [if_neg empty, List.isEmpty_iff]
    refine readAs_titled isTitle_fieldsTitle (shown_bullets neat empty closed) (by simp)
      fun document => ?_
    rw [recognised_fields, trimEnd_of_endsWritten written, brokenLines_bullets neat.fields empty,
      filterMap_bullets neat.fields]

variable (balanced : c.Balanced) {plan : Option Plan}
  (planned : ∀ sections ∈ planned? plan c.name, ∀ s ∈ sections, s.Balanced)

include balanced planned

theorem readAs_functions :
    ReadAs
      (if (arrange c.name (ReferencePages.functionBlocks c) plan).1.isEmpty then []
        else [functionsSection (arrange c.name (ReferencePages.functionBlocks c) plan).1])
      fun known => if functionOutline plan c = [] then known
        else { known with functions := (functionOutline plan c).filterMap functionName? } := by
  rcases shown_arrange neat balanced planned with ⟨text, empty⟩ | ⟨nonempty, shown⟩
  · simp only [text, empty, if_pos]
    exact ReadAs.nil
  · simp only [if_neg nonempty, List.isEmpty_iff, if_neg shown.ne_nil]
    refine readAs_titled isTitle_functionsTitle shown.trimEnd (deep_functionOutline plan c)
      fun document => ?_
    rw [trimEnd_trimEnd, recognised_functions shown.trimmed]

variable {importPath : Option Text} (singleLine : ∀ path ∈ importPath, '\n' ∉ path)

include singleLine

omit planned in
/-- The title is the first line of a preamble and its only heading. -/
theorem markLines_preamble :
    ∃ line opening, markLines none (brokenLines (trimEnd (Markdown.preamble c importPath))) =
        ⟨line, some ⟨1, c.name⟩⟩ :: opening ∧ ∀ other ∈ opening, other.heading = none := by
  have isLine := isLine_title neat.name
  have outlined := (shown_preamble neat balanced.description singleLine).whole
  have first : ∃ rest, brokenLines (Markdown.preamble c importPath) = ("# ".toList ++ c.name) :: rest := by
    have single : brokenLines ("# ".toList ++ c.name) = ["# ".toList ++ c.name] := by
      rw [brokenLines_of_unbroken isLine.unbroken, dropReturn_of_isLine isLine]
    rw [preamble_eq]
    by_cases alone : preambleParts c importPath = []
    · exact ⟨[], by rw [alone, joinParagraphs_singleton, single]⟩
    · exact ⟨_, by rw [joinParagraphs_cons _ alone, brokenLines_append, single]; rfl⟩
  obtain ⟨rest, same⟩ := first
  have marks := markLines_heading rfl (heading?_title neat.name) rest
  refine ⟨"# ".toList ++ c.name, markLines none rest, ?_, fun other member => ?_⟩
  · rw [trimEnd_of_endsWritten (endsWritten_preamble neat singleLine), same, marks]
  · -- The outline of the preamble is its title alone.
    have listed := outlined.headings
    unfold headingsIn at listed
    rw [same, marks] at listed
    have none := List.filterMap_eq_nil_iff.mp (List.cons.inj listed).2 other member
    simpa using none

/-- **The members that are read from the page of a class are those of its record.** -/
theorem recognised_classPage :
    recognised (parse (classPage c plan importPath).1.text) = shownMembers plan c := by
  obtain ⟨closed, found, marks, isSection, reads⟩ := ((readAs_variables neat).append
    (readAs_fields neat balanced.fields)).append (readAs_functions neat balanced planned)
  obtain ⟨line, opening, preambleMarks, unmarked⟩ := markLines_preamble neat balanced singleLine
  have preamble := (shown_preamble neat balanced.description singleLine).trimmed.closed
  have scan : marked (classPage c plan importPath).1.text =
      ⟨line, some ⟨1, c.name⟩⟩ :: (opening ++ (separated found ++ [])) ++ [] := by
    refine (marked_joinSections preamble closed).trans ?_
    rw [preambleMarks, marks, List.append_nil, List.append_nil, List.cons_append]
  have opens : ∀ lines below, recognised (opened (unescape c.name) lines below) =
      ⟨c.name, [], [], []⟩ := by
    intro lines below
    rw [neat.name.unescape]
    rfl
  rw [parse_titled scan rfl rfl unmarked isSection IsGap.nil (by simp), reads, opens]
  -- A section that is left out is one whose members are none, and then none are read.
  by_cases noRows : c.classVariables = [] <;> by_cases noFields : c.fields = [] <;>
    by_cases noFunctions : functionOutline plan c = [] <;>
      simp [shownMembers, noRows, noFields, noFunctions]

/-- The table of contents of the page of a class. -/
theorem contents_classPage :
    (classPage c plan importPath).1.contents.map (fun entry => (entry.level, entry.title)) =
      outlineOf plan c := by
  obtain ⟨body, text, shown⟩ := shown_classPage neat balanced singleLine planned
  have own : (classPage c plan importPath).1.contents =
      contents (classPage c plan importPath).1.text := by
    simp only [classPage, Page.ofText]
  rw [own, text]
  exact contents_break shown.whole

end Class

end Document

/-! ### Records without prose -/

/-- A field without its description. -/
def Field.withoutProse (f : Field) : Field := { f with description := [] }

/-- A function without its body. -/
def FunctionRecord.withoutProse (f : FunctionRecord) : FunctionRecord := { f with body := [] }

/-- A class without the prose of its own, of its fields and of its functions. The line of its header
goes as well: prose above it moves it. -/
def ClassRecord.withoutProse (c : ClassRecord) : ClassRecord :=
  { c with
    description := []
    fields := c.fields.map (·.withoutProse)
    functions := c.functions.map (·.withoutProse)
    position := 0 }

section WithoutProse

variable {c d : ClassRecord} (same : c.withoutProse = d.withoutProse)

include same

theorem ClassRecord.name_congr : c.name = d.name := by
  injection same

theorem ClassRecord.classVariables_congr : c.classVariables = d.classVariables := by
  injection same

theorem ClassRecord.fieldNames_congr : c.fields.map (·.name) = d.fields.map (·.name) := by
  have names := congrArg (fun record : ClassRecord => record.fields.map (·.name)) same
  simpa only [ClassRecord.withoutProse, List.map_map, Function.comp_def, Field.withoutProse] using names

theorem ClassRecord.functionNames_congr : c.functions.map (·.name) = d.functions.map (·.name) := by
  have names := congrArg (fun record : ClassRecord => record.functions.map (·.name)) same
  simpa only [ClassRecord.withoutProse, List.map_map, Function.comp_def,
    FunctionRecord.withoutProse] using names

theorem Document.functionOutline_congr (plan : Option Plan) :
    functionOutline plan c = functionOutline plan d := by
  have names := ClassRecord.functionNames_congr same
  have listed : (c.functions.map fun f => ((4 : Nat), f.name)) = d.functions.map fun f => (4, f.name) := by
    simpa only [List.map_map, Function.comp_def] using
      congrArg (List.map fun name => ((4 : Nat), name)) names
  have exist : ∀ name, (c.function? name).isSome = (d.function? name).isSome := by
    intro name
    rw [Bool.eq_iff_iff, isSome_function?, isSome_function?, names]
  unfold functionOutline
  simp only [ClassRecord.name_congr same, listed, exist]

theorem Document.shownMembers_congr (plan : Option Plan) : shownMembers plan c = shownMembers plan d := by
  unfold shownMembers
  rw [ClassRecord.name_congr same, ClassRecord.classVariables_congr same,
    ClassRecord.fieldNames_congr same, functionOutline_congr same]

theorem Document.outlineOf_congr (plan : Option Plan) : outlineOf plan c = outlineOf plan d := by
  have noFields : c.fields = [] ↔ d.fields = [] := by
    rw [← List.map_eq_nil_iff (f := fun f : Field => f.name), ClassRecord.fieldNames_congr same,
      List.map_eq_nil_iff]
  unfold outlineOf
  simp only [ClassRecord.name_congr same, ClassRecord.classVariables_congr same, noFields,
    functionOutline_congr same]

end WithoutProse

/-- **Prose does not change which members are recognised.** Two classes of any two sources that agree
without their prose, and whose prose closes the fences that it opens, have pages with the same members,
those of the records, and the same headings. -/
theorem Source.recognised_congr {name name' text text' : Text} {strict strict' : Bool}
    {classes classes' : List ClassRecord}
    (assembled : (Source.ofText name text).assemble strict = .ok classes)
    (assembled' : (Source.ofText name' text').assemble strict' = .ok classes')
    {c d : ClassRecord} (isClass : c ∈ classes) (isClass' : d ∈ classes')
    (same : c.withoutProse = d.withoutProse) (balanced : c.Balanced) (balanced' : d.Balanced)
    {plan : Option Plan} (planned : ∀ sections ∈ planned? plan c.name, ∀ s ∈ sections, s.Balanced)
    {importPath : Option Text} (singleLine : ∀ path ∈ importPath, '\n' ∉ path) :
    Document.recognised (Document.parse (classPage c plan importPath).1.text) =
        Document.recognised (Document.parse (classPage d plan importPath).1.text) ∧
      Document.recognised (Document.parse (classPage c plan importPath).1.text) =
        Document.shownMembers plan c ∧
      (classPage c plan importPath).1.contents.map (fun entry => (entry.level, entry.title)) =
        (classPage d plan importPath).1.contents.map (fun entry => (entry.level, entry.title)) := by
  have neat := neat_assemble assembled c isClass
  have neat' := neat_assemble assembled' d isClass'
  have planned' : ∀ sections ∈ planned? plan d.name, ∀ s ∈ sections, s.Balanced := by
    rwa [ClassRecord.name_congr same] at planned
  have members := Document.recognised_classPage neat balanced planned singleLine
  refine ⟨?_, members, ?_⟩
  · rw [members, Document.recognised_classPage neat' balanced' planned' singleLine,
      Document.shownMembers_congr same]
  · rw [Document.contents_classPage neat balanced planned singleLine,
      Document.contents_classPage neat' balanced' planned' singleLine, Document.outlineOf_congr same]

/-- A class with a field that has the given description and a function whose body is code. -/
def describedClass (description : Text) : ClassRecord :=
  { name := "Shape".toList
    bases := none
    description := []
    classVariables := []
    fields := [⟨"w".toList, description⟩]
    functions := [⟨constructorName, false, [], none, [], ["Shape()".toList]⟩,
      ⟨"area".toList, false, [], none, "```\n# code\n```".toList, ["self.area()".toList]⟩]
    enumValues := []
    position := 0 }

/-- A source of this class. -/
def describedSource (description : Text) : Source :=
  Source.ofText "a.py".toList (joinLines ["class Shape:".toList, " def __init__(self):".toList,
    "  \"\"\":field ".toList ++ description ++ "\"\"\"".toList, "  self.w = 1".toList,
    " def area(self):".toList, "  \"\"\"```".toList, "  # code".toList, "  ```\"\"\"".toList])

/-- The page of this class. -/
def describedPage (description : Text) : Page := (classPage (describedClass description) none none).1

/-- Prose with the heading of a section in it, and prose with code below its first line. -/
theorem Source.recognised_congr_sample :
    Document.recognised (Document.parse (describedPage "wide\n## Functions".toList).text) =
        Document.recognised (Document.parse (describedPage "code:\n~~~\n# w\n~~~".toList).text) ∧
      Document.recognised (Document.parse (describedPage "wide\n## Functions".toList).text) =
        ⟨"Shape".toList, [], ["w".toList], [constructorName, "area".toList]⟩ ∧
      (describedPage "wide\n## Functions".toList).contents.map (fun entry => (entry.level, entry.title)) =
        (describedPage "code:\n~~~\n# w\n~~~".toList).contents.map
          (fun entry => (entry.level, entry.title)) := by
  have heading : (describedSource "wide\n## Functions".toList).assemble false =
      .ok [describedClass "wide\n## Functions".toList] := by
    decide +kernel
  have code : (describedSource "code:\n~~~\n# w\n~~~".toList).assemble false =
      .ok [describedClass "code:\n~~~\n# w\n~~~".toList] := by
    decide +kernel
  have same : (describedClass "wide\n## Functions".toList).withoutProse =
      (describedClass "code:\n~~~\n# w\n~~~".toList).withoutProse := by
    decide +kernel
  have members : Document.shownMembers none (describedClass "wide\n## Functions".toList) =
      ⟨"Shape".toList, [], ["w".toList], [constructorName, "area".toList]⟩ := by
    decide +kernel
  rw [← members]
  unfold describedPage
  exact Source.recognised_congr heading code (List.mem_singleton_self _) (List.mem_singleton_self _)
    same (by decide +kernel) (by decide +kernel) (by decide +kernel) (by decide +kernel)

/-- A field that is described by code alone: the line that opens the fence stands behind the bullet,
so the line that closes it opens one. The functions below are lost and the code of one of them is read
as a heading, although all prose closes the fences that it opens. -/
theorem Source.fenced_field_hides_functions :
    (describedSource "```\ncode\n```".toList).assemble false =
        .ok [describedClass "```\ncode\n```".toList] ∧
      (describedSource "wide".toList).assemble false = .ok [describedClass "wide".toList] ∧
      (describedClass "```\ncode\n```".toList).withoutProse = (describedClass "wide".toList).withoutProse ∧
      Document.ClosesFences "```\ncode\n```".toList ∧
      (Document.recognised (Document.parse (describedPage "```\ncode\n```".toList).text)).functions = [] ∧
      (Document.recognised (Document.parse (describedPage "wide".toList).text)).functions =
        [constructorName, "area".toList] ∧
      (describedPage "```\ncode\n```".toList).contents.map (fun entry => (entry.level, entry.title)) =
        [(1, "Shape".toList), (2, fieldsTitle), (1, "code".toList)] := by
  decide +kernel

end ReferencePages
