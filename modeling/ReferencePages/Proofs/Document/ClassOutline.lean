/-
**The table of contents of a page.**

Every piece of the page of a class has an outline that its record tells, as long as the prose closes
the fences that it opens (`Balanced`): one heading for a function or a planned section, none for
prose, tables and bullets.

* `shown_functionBlock`, `shown_preamble`, `shown_fieldItem`: one member;
* `shown_arrange`: the function blocks, with or without a plan;
* `outlineOf`: the headings of a class, by its record and the plan;
* `reference_contents`: **the table of contents of a page lists the outlines of its classes**.
-/

import ReferencePages.Proofs.Arrangement.Accounting
import ReferencePages.Proofs.Document.Outline

namespace ReferencePages

open Text Markdown

/-- The prose of a class closes the fences that it opens. The first line of a field's description
stands behind the bullet, where it opens none; the lines below it count. -/
structure ClassRecord.Balanced (c : ClassRecord) : Prop where
  description : Document.ClosesFences c.description
  fields : ∀ f ∈ c.fields, fenceAfterAll none (lines f.description).tail = none
  functions : ∀ f ∈ c.functions, Document.ClosesFences f.body

instance (c : ClassRecord) : Decidable c.Balanced :=
  decidable_of_iff
    (Document.ClosesFences c.description ∧
      (∀ f ∈ c.fields, fenceAfterAll none (lines f.description).tail = none) ∧
      ∀ f ∈ c.functions, Document.ClosesFences f.body)
    ⟨fun ⟨description, fields, functions⟩ => ⟨description, fields, functions⟩,
      fun balanced => ⟨balanced.description, balanced.fields, balanced.functions⟩⟩

/-- A section that is shown on lines of its own: its name holds no break, and its description closes
its fences. -/
structure Section.Balanced (s : Section) : Prop where
  name : '\n' ∉ s.name
  description : Document.ClosesFences s.description

instance (s : Section) : Decidable s.Balanced :=
  decidable_of_iff ('\n' ∉ s.name ∧ Document.ClosesFences s.description)
    ⟨fun ⟨name, description⟩ => ⟨name, description⟩, fun balanced => ⟨balanced.name, balanced.description⟩⟩

namespace Document

/-! ### Functions -/

/-- **The block of a function** has one heading. -/
theorem shown_functionBlock {f : FunctionRecord} (neat : f.Neat) (closed : ClosesFences f.body) :
    Shown (functionBlock f) [(4, f.name)] := by
  have heading : Shown (functionHeading f.name) [(4, f.name)] := by
    have unbroken : '\n' ∉ escapeHeading f.name := not_mem_escapeChar (by decide) neat.name.unbroken
    have shown := shown_heading 4 (by decide) (by decide) unbroken
    rwa [← trim_cons_space, neat.name.unescape_escapeHeading] at shown
  have plain : ∀ shown ∈ functionParts f (f.returns.map returnsLine), Shown shown [] := by
    intro shown member
    unfold functionParts at member
    rcases List.mem_append.mp member with member | inClosing
    · rcases List.mem_append.mp member with member | inTable
      · rcases List.mem_append.mp member with inSignatures | inBody
        · obtain ⟨signature, inside, rfl⟩ := List.mem_map.mp inSignatures
          exact (paragraph_signatureLine (neat.signatures signature inside)).outlined.shown
            (endsWritten_signatureLine signature)
        · obtain ⟨nonempty, rfl⟩ := mem_part inBody
          exact (outlined_escapeText closed).shown (endsWritten_escapeText neat.body nonempty)
      · split at inTable
        · exact absurd inTable List.not_mem_nil
        · rw [List.mem_singleton.mp inTable]
          exact (paragraph_parameters neat).1.outlined.shown (paragraph_parameters neat).2
    · obtain ⟨returns, inside, rfl⟩ := Option.map_eq_some_iff.mp (Option.mem_toList.mp inClosing)
      have spec := neat.returns returns inside
      exact ⟨(isClosing_returnsLine spec.1 spec.2).paragraph.outlined,
        (isClosing_trimEnd_returnsLine spec.1 spec.2).paragraph.outlined,
        trimEnd_cons_ne_nil (by decide) _⟩
  rw [functionBlock_eq]
  exact (Shows.cons heading (shows_of_plain plain)).joinParagraphs (List.cons_ne_nil _ _)

/-! ### The preamble -/

theorem shown_preamble {c : ClassRecord} (neat : c.Neat) (closed : ClosesFences c.description)
    {importPath : Option Text} (singleLine : ∀ path ∈ importPath, '\n' ∉ path) :
    Shown (Markdown.preamble c importPath) [(1, c.name)] := by
  have heading : Shown ("# ".toList ++ c.name) [(1, c.name)] := by
    have shown := shown_heading 1 (by decide) (by decide) neat.name.unbroken
    rwa [← trim_cons_space, neat.name.trim_space, neat.name.unescape] at shown
  have plain : ∀ shown ∈ preambleParts c importPath, Shown shown [] := by
    intro shown member
    rcases mem_preambleParts neat singleLine member with ⟨nonempty, rfl⟩ | ⟨paragraph, written⟩
    · exact (outlined_escapeText closed).shown (endsWritten_escapeText neat.description nonempty)
    · exact paragraph.outlined.shown written
  rw [preamble_eq]
  exact (Shows.cons heading (shows_of_plain plain)).joinParagraphs (List.cons_ne_nil _ _)

/-! ### Sections of members -/

theorem shown_titled {title body : Text} (unbroken : '\n' ∉ title)
    (same : unescape (trim title) = title) {below : List (Nat × Text)} (shown : Shown body below) :
    Shown (titled title body) ((2, title) :: below) := by
  have heading := outlined_heading 2 (by decide) (by decide) unbroken
  rw [same] at heading
  have section_ := shown.paragraph heading
  have text : titled title body = List.replicate 2 '#' ++ ' ' :: title ++ '\n' :: '\n' :: body := by
    simp [titled]
  rwa [text]

theorem paragraph_variables {c : ClassRecord} (neat : c.Neat) :
    Paragraph (table variableColumns (c.classVariables.map variableRow)) ∧
      EndsWritten (table variableColumns (c.classVariables.map variableRow)) := by
  have rows : c.classVariables.map variableRow = (c.classVariables.map fun v =>
      [code v.name, cell (v.declaredType.getD []), cell (v.value.getD []), cell v.description]).map
        row := by
    rw [List.map_map]
    rfl
  rw [rows]
  refine paragraph_table (by decide) fun cells member text inside => ?_
  obtain ⟨v, inVariables, rfl⟩ := List.mem_map.mp member
  simp only [List.mem_cons, List.not_mem_nil, or_false] at inside
  rcases inside with rfl | rfl | rfl | rfl
  · exact unbroken_code (neat.classVariables v inVariables).unbroken
  · exact unbroken_cell _
  · exact unbroken_cell _
  · exact unbroken_cell _

theorem unmarked_of_heading? {ls : List Line} (fence : Option Fence)
    (plain : ∀ line ∈ ls, heading? line = none) : ∀ line ∈ markLines fence ls, line.heading = none := by
  induction ls generalizing fence with
  | nil => exact fun line member => absurd member List.not_mem_nil
  | cons first rest ih =>
    intro line member
    rw [markLines] at member
    rcases List.mem_cons.mp member with rfl | later
    · simp only [plain first List.mem_cons_self, ite_self]
    · exact ih _ (fun other inside => plain other (List.mem_cons_of_mem _ inside)) line later

theorem marks_continuation (fence : Fence) (line : Line) :
    fence.marks (continuation line) = fence.marks line := by
  unfold continuation
  split
  · rename_i empty
    rw [List.isEmpty_iff.mp empty]
  · rw [marks_cons_blank fence (by decide), marks_cons_blank fence (by decide)]

theorem fenceAfterAll_continuation (fence : Option Fence) (ls : List Line) :
    fenceAfterAll fence (ls.map continuation) = fenceAfterAll fence ls := by
  induction ls generalizing fence with
  | nil => rfl
  | cons line rest ih =>
    show fenceAfterAll (fenceAfter fence (continuation line)) (rest.map continuation) = _
    rw [fenceAfter_congr fun opened => marks_continuation opened line, ih]
    rfl

/-- **The bullet of a field** holds no heading. -/
theorem shown_fieldItem {f : Field} (neat : f.Neat)
    (closed : fenceAfterAll none (lines f.description).tail = none) : Shown (fieldItem f) [] := by
  have tidy := tidy_fieldItem neat
  have same := lines_fieldItem neat
  obtain ⟨tail, rest, shape, further⟩ := fieldLines_cons f
  have nonempty : fieldItem f ≠ [] := by
    intro empty
    rw [empty, shape] at same
    cases same
  have passage : Passage (fieldLines f) := by
    refine ⟨isLine_fieldLines neat, unmarked_of_heading? none fun line member => ?_, ?_⟩
    · rw [shape] at member
      rcases List.mem_cons.mp member with rfl | inRest
      · exact heading?_of_head? (by simp)
      · obtain ⟨source, -, rfl⟩ := further line inRest
        refine heading?_of_head? ?_
        rcases continuation_eq source with empty | indented
        · rw [empty]
          simp
        · rw [indented]
          simp
    · unfold fieldLines
      cases split : lines f.description with
      | nil =>
        show fenceOpened? ('-' :: ' ' :: code f.name) = none
        exact fenceOpened?_cons _ (by decide) (by decide) (by decide)
      | cons first below =>
        rw [split] at closed
        have plain : fenceOpened? (['-', ' '] ++ code f.name ++ " — ".toList ++ first) = none :=
          fenceOpened?_cons _ (by decide) (by decide) (by decide)
        show fenceAfterAll (fenceOpened? _) (below.map continuation) = none
        rw [plain, fenceAfterAll_continuation]
        exact closed
  have outlined := outlined_of_passage tidy.laid (tidy.lines_ne_nil nonempty) (by rwa [same])
  exact outlined.shown (tidy.endsWritten nonempty)

theorem shown_joinLines {items : List Text} (nonempty : items ≠ [])
    (plain : ∀ item ∈ items, Shown item []) : Shown (joinLines items) [] := by
  induction items with
  | nil => exact absurd rfl nonempty
  | cons item rest ih =>
    have here := plain item List.mem_cons_self
    by_cases alone : rest = []
    · rw [alone, joinLines_singleton]
      exact here
    · rw [joinLines_cons item alone]
      exact (ih alone fun other member => plain other (List.mem_cons_of_mem _ member)).below here.whole

theorem shown_bullets {c : ClassRecord} (neat : c.Neat) (nonempty : c.fields ≠ [])
    (closed : ∀ f ∈ c.fields, fenceAfterAll none (lines f.description).tail = none) :
    Shown (joinLines (c.fields.map fieldItem)) [] := by
  refine shown_joinLines (by simpa using nonempty) fun item member => ?_
  obtain ⟨f, inside, rfl⟩ := List.mem_map.mp member
  exact shown_fieldItem (neat.fields f inside) (closed f inside)

/-! ### The arranged functions -/

/-- The headings of the functions of a class: one for each function, or, with a plan, one for each
shown section with a heading and one for each function that it lists and that exists. -/
def functionOutline (plan : Option Plan) (c : ClassRecord) : List (Nat × Text) :=
  match planned? plan c.name with
  | none => c.functions.map fun f => (4, f.name)
  | some sections => (sections.filter (! ·.isIgnore)).flatMap fun s =>
      (if s.hasHeading then [(3, unescape (trim s.name))] else []) ++
        (s.functions.filter fun name => (c.function? name).isSome).map fun name => (4, name)

theorem shows_sectionOpening {s : Section} (balanced : s.Balanced) :
    Shows (Arrangement.sectionOpening s)
      (if s.hasHeading then [(3, unescape (trim s.name))] else []) := by
  unfold Arrangement.sectionOpening
  by_cases headed : s.hasHeading = true
  · rw [if_pos headed, if_pos headed]
    show Shows _ ([(3, unescape (trim s.name))] ++ [])
    refine .cons (shown_heading 3 (by decide) (by decide) balanced.name) ?_
    refine shows_of_plain fun shown member => ?_
    by_cases blank : allBlank s.description = true
    · rw [if_pos blank] at member
      exact absurd member List.not_mem_nil
    · rw [if_neg blank] at member
      rw [List.mem_singleton.mp member]
      have written : trim s.description ≠ [] := fun empty => blank (allBlank_of_trim empty)
      exact (outlined_escapeText (closesFences_trim balanced.description)).shown
        (endsWritten_escapeText_of_endsWritten (endsWritten_of_trimEnd (trimEnd_trim _) written))
  · rw [if_neg headed, if_neg headed]
    exact .nil

theorem isSome_function? (c : ClassRecord) (name : Text) :
    (c.function? name).isSome = true ↔ name ∈ c.functions.map (·.name) := by
  unfold ClassRecord.function?
  rw [List.find?_isSome, List.mem_map]
  simp only [decide_eq_true_eq]

/-- The named blocks of a section are those of the functions that exist. -/
theorem filter_function? (c : ClassRecord) (s : Section) :
    (s.functions.filter fun name => (c.function? name).isSome) =
      (Arrangement.namedBlocks (ReferencePages.functionBlocks c) s).map (·.1) := by
  have names : (ReferencePages.functionBlocks c).map (·.1) = c.functions.map (·.name) := by
    unfold ReferencePages.functionBlocks
    rw [List.map_map]
    rfl
  rw [Arrangement.map_fst_namedBlocks, names]
  refine List.filter_congr fun name _ => ?_
  rw [Bool.eq_iff_iff, decide_eq_true_eq, isSome_function?]

section Functions

variable {c : ClassRecord} (neat : c.Neat) (balanced : c.Balanced)

include neat balanced

theorem shows_sectionBlocks (s : Section) :
    Shows (Arrangement.sectionBlocks (ReferencePages.functionBlocks c) s)
      ((s.functions.filter fun name => (c.function? name).isSome).map fun name => (4, name)) := by
  rw [filter_function?, ← Arrangement.map_snd_namedBlocks, List.map_map]
  have each : ∀ block ∈ Arrangement.namedBlocks (ReferencePages.functionBlocks c) s,
      Shown block.2 [(4, block.1)] := by
    intro block member
    obtain ⟨before, after, split, -⟩ := Arrangement.isFirstBlock_of_mem_namedBlocks member
    have inside : block ∈ ReferencePages.functionBlocks c := by
      rw [split]
      simp
    obtain ⟨f, isFunction, rfl⟩ := List.mem_map.mp inside
    exact shown_functionBlock (neat.functions f isFunction) (balanced.functions f isFunction)
  have pieces := Shows.map each
  rwa [← List.map_eq_flatMap] at pieces

/-- **The arranged functions** have the outline that the record and the plan tell; there is no text
when there is no heading. -/
theorem shown_arrange {plan : Option Plan}
    (planned : ∀ sections ∈ planned? plan c.name, ∀ s ∈ sections, s.Balanced) :
    ((arrange c.name (ReferencePages.functionBlocks c) plan).1 = [] ∧ functionOutline plan c = []) ∨
      (functionOutline plan c ≠ [] ∧
        Shown (arrange c.name (ReferencePages.functionBlocks c) plan).1 (functionOutline plan c)) := by
  -- The first piece of a section is its heading or a block, so pieces without headings are none.
  have pieces : ∃ parts, (arrange c.name (ReferencePages.functionBlocks c) plan).1 =
      joinParagraphs parts ∧ Shows parts (functionOutline plan c) ∧
        (functionOutline plan c = [] → parts = []) := by
    unfold arrange functionOutline
    cases isPlanned : planned? plan c.name with
    | none =>
      refine ⟨c.functions.map functionBlock, ?_, ?_, ?_⟩
      · show joinParagraphs ((c.functions.map fun f => (f.name, functionBlock f)).map (·.2)) = _
        rw [List.map_map]
        rfl
      · have blocks := Shows.map fun f member =>
          shown_functionBlock (neat.functions f member) (balanced.functions f member)
        rwa [← List.map_eq_flatMap] at blocks
      · intro empty
        rw [List.map_eq_nil_iff.mp empty]
        rfl
    | some sections =>
      refine ⟨_, bySections_paragraphs c.name _ sections, Shows.flatMap fun s member => ?_, ?_⟩
      · have inside := (List.mem_filter.mp member).1
        exact (shows_sectionOpening (planned sections isPlanned s inside)).append
          (shows_sectionBlocks neat balanced s)
      · intro empty
        refine List.flatMap_eq_nil_iff.mpr fun s member => ?_
        obtain ⟨noHeading, noBlocks⟩ := List.append_eq_nil_iff.mp
          (List.flatMap_eq_nil_iff.mp empty s member)
        have unheaded : ¬ s.hasHeading = true := by
          intro headed
          rw [if_pos headed] at noHeading
          cases noHeading
        have noNames := List.map_eq_nil_iff.mp noBlocks
        rw [filter_function?] at noNames
        rw [Arrangement.sectionOpening, if_neg unheaded, ← Arrangement.map_snd_namedBlocks,
          List.map_eq_nil_iff.mp noNames]
        rfl
  obtain ⟨parts, text, shown, written⟩ := pieces
  rw [text]
  by_cases empty : functionOutline plan c = []
  · refine Or.inl ⟨?_, empty⟩
    rw [written empty]
    rfl
  · refine Or.inr ⟨empty, shown.joinParagraphs ?_⟩
    rintro rfl
    exact empty shown.eq_nil

end Functions

/-! ### Pages -/

/-- The headings of the page of a class. -/
def outlineOf (plan : Option Plan) (c : ClassRecord) : List (Nat × Text) :=
  [(1, c.name)] ++ (if c.classVariables = [] then [] else [(2, variablesTitle)]) ++
    (if c.fields = [] then [] else [(2, fieldsTitle)]) ++
    (if functionOutline plan c = [] then [] else (2, functionsTitle) :: functionOutline plan c)

section Pages

variable {plan : Option Plan} {importPath : Option Text}

/-- **The page of a class** has the outline that its record and the plan tell. -/
theorem shown_classPage {c : ClassRecord} (neat : c.Neat) (balanced : c.Balanced)
    (singleLine : ∀ path ∈ importPath, '\n' ∉ path)
    (planned : ∀ sections ∈ planned? plan c.name, ∀ s ∈ sections, s.Balanced) :
    ∃ body, (classPage c plan importPath).1.text = body ++ ['\n'] ∧ Shown body (outlineOf plan c) := by
  have rows : Shows (memberSection c.classVariables variableRow variablesSection)
      (if c.classVariables = [] then [] else [(2, variablesTitle)]) := by
    unfold memberSection
    by_cases empty : c.classVariables = []
    · rw [if_pos empty, empty]
      exact .nil
    · rw [if_neg empty, if_neg (by simpa using empty)]
      have table := paragraph_variables neat
      exact .single (shown_titled (by decide) (by decide) (table.1.outlined.shown table.2))
  have bullets : Shows (memberSection c.fields fieldItem fieldsSection)
      (if c.fields = [] then [] else [(2, fieldsTitle)]) := by
    unfold memberSection
    by_cases empty : c.fields = []
    · rw [if_pos empty, empty]
      exact .nil
    · rw [if_neg empty, if_neg (by simpa using empty)]
      exact .single (shown_titled (by decide) (by decide) (shown_bullets neat empty balanced.fields))
  have blocks : Shows
      (if (arrange c.name (ReferencePages.functionBlocks c) plan).1.isEmpty then []
        else [functionsSection (arrange c.name (ReferencePages.functionBlocks c) plan).1])
      (if functionOutline plan c = [] then [] else (2, functionsTitle) :: functionOutline plan c) := by
    rcases shown_arrange neat balanced planned with ⟨text, empty⟩ | ⟨nonempty, shown⟩
    · rw [if_pos empty, text]
      exact .nil
    · rw [if_neg nonempty, if_neg (by simpa using shown.ne_nil)]
      exact .single (shown_titled (by decide) (by decide) shown.trimEnd)
  refine ⟨_, joinSections_eq _ _, Shows.joinParagraphs ?_ (List.cons_ne_nil _ _)⟩
  unfold outlineOf
  rw [List.append_assoc, List.append_assoc, ← List.append_assoc (if c.classVariables = [] then _ else _)]
  exact .cons (shown_preamble neat balanced.description singleLine).trimEnd
    ((rows.append bullets).append blocks).separated

/-- **The pages of all classes** have the outlines of the classes, one after the other. -/
theorem contents_classesText {classes : List ClassRecord} (neat : ∀ c ∈ classes, c.Neat)
    (balanced : ∀ c ∈ classes, c.Balanced) (singleLine : ∀ path ∈ importPath, '\n' ∉ path)
    (planned : ∀ c ∈ classes, ∀ sections ∈ planned? plan c.name, ∀ s ∈ sections, s.Balanced) :
    (contents (classesText classes plan importPath).1).map (fun entry => (entry.level, entry.title)) =
      classes.flatMap (outlineOf plan) := by
  have pages : Shows (classes.map fun c => trimEnd (classPage c plan importPath).1.text)
      (classes.flatMap (outlineOf plan)) := by
    refine Shows.map fun c member => ?_
    obtain ⟨body, text, shown⟩ := shown_classPage (neat c member) (balanced c member) singleLine
      (planned c member)
    rw [text, trimEnd_break]
    exact shown.trimEnd
  have text : (classesText classes plan importPath).1 =
      joinParagraphs (classes.map fun c => trimEnd (classPage c plan importPath).1.text) ++ ['\n'] := by
    show joinParagraphs (((classes.map fun c => classPage c plan importPath).map (·.1.text)).map
      trimEnd) ++ ['\n'] = _
    rw [List.map_map, List.map_map]
    rfl
  rw [text]
  refine contents_break ?_
  by_cases empty : classes = []
  · rw [empty]
    exact Outlined.nil
  · exact (pages.joinParagraphs (by simpa using empty)).whole

end Pages

end Document

/-- **The table of contents of a page.** When the prose of every class and of every planned section
closes its fences, and the names of the sections and the import path stand on one line, the page of a
source exists and its table of contents lists the outlines of its classes, in order. -/
theorem Source.reference_contents {name text : Text} {plan : Option Plan} {options : DocOptions}
    {classes : List ClassRecord}
    (assembled : (Source.ofText name text).assemble options.strict = .ok classes)
    (balanced : ∀ c ∈ classes, c.Balanced)
    (singleLine : ∀ path ∈ options.importPath (Source.ofText name text) classes, '\n' ∉ path)
    (planned : ∀ c ∈ classes, ∀ sections ∈ planned? plan c.name, ∀ s ∈ sections, s.Balanced) :
    ∃ page warnings, (Source.ofText name text).reference plan options = .ok (page, warnings) ∧
      page.contents.map (fun entry => (entry.level, entry.title)) =
        classes.flatMap (Document.outlineOf plan) := by
  refine ⟨_, _, by rw [Source.reference, assembled]; rfl, ?_⟩
  exact Document.contents_classesText (neat_assemble assembled) balanced singleLine planned

/-- A source with hashes in prose and in code, members of every kind and a second class. -/
def outlinedText : Text :=
  joinLines (["class Shape:", " \"\"\"A shape.", " # no heading", " ```", " # code", " ```", " \"\"\"",
    " \"\"\":class_var the sides\"\"\"", " sides = 4", " def __init__(self):", "  \"\"\":field the",
    "  # w\"\"\"", "  self.w = 1", " def old_area(self):", "  \"\"\"~~~", "  # code", "  ~~~\"\"\"",
    " def gone(self):", "class Other:", "def last():"].map (·.toList))

/-- The classes of this source. -/
def outlinedClasses : List ClassRecord :=
  match (Source.ofText "a.py".toList outlinedText).assemble false with
  | .ok classes => classes
  | .error _ => []

/-- A plan with a section without a heading, one with an escaped name and code in its description,
and one that is ignored. -/
def outlinedPlan : Plan :=
  ⟨[("Shape".toList,
    [⟨"Constructor".toList, [], [constructorName]⟩,
      ⟨" my\\_area ".toList, "```\r\n# code\r\n```".toList, ["old_area".toList, "lost".toList]⟩,
      ⟨"Ignore".toList, [], ["gone".toList]⟩])]⟩

theorem Source.reference_contents_sample :
    ∃ page warnings, (Source.ofText "a.py".toList outlinedText).reference (some outlinedPlan)
        ⟨some "pkg".toList, [], false⟩ = .ok (page, warnings) ∧
      page.contents.map (fun entry => (entry.level, entry.title)) =
        [(1, "Shape".toList), (2, variablesTitle), (2, fieldsTitle), (2, functionsTitle),
          (4, constructorName), (3, "my_area".toList), (4, "old_area".toList), (1, "Other".toList)] := by
  have planned : ∀ c ∈ outlinedClasses, ∀ sections ∈ planned? (some outlinedPlan) c.name,
      ∀ s ∈ sections, s.Balanced := by
    decide +kernel
  have singleLine : ∀ path ∈ DocOptions.importPath ⟨some "pkg".toList, [], false⟩
      (Source.ofText "a.py".toList outlinedText) outlinedClasses, '\n' ∉ path := by
    decide +kernel
  obtain ⟨page, warnings, same, listed⟩ := Source.reference_contents (by decide +kernel)
    (by decide +kernel) singleLine planned
  exact ⟨page, warnings, same, listed.trans (by decide +kernel)⟩

end ReferencePages
