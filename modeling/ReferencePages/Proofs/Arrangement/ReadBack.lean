/-
**Arranging before and after writing.**

A plan can be applied to the function blocks of a class before its page is written, or to the blocks
that are read back from the page. Both give the same page:

* `bySections_eq`: the arranged text is made of entries, a heading or a block each;
* `readItems_marked`: these entries are read back from the text;
* `reference_eq_merge`: **the page by a plan is the page without one, read back and arranged**.
-/

import ReferencePages.Inheritance
import ReferencePages.Proofs.Document.OfClass
import ReferencePages.Proofs.Document.Trimmed

namespace ReferencePages

open Text Markdown

/-- What a section shows can be told from the layout around it: its name stands on one line, and its
description closes its fences and does not end with a rule. -/
structure Section.Readable (s : Section) : Prop where
  name : '\n' ∉ s.name ∧ '\r' ∉ s.name
  description : '\r' ∉ s.description
  closed : Document.ClosesFences s.description
  noRule : ¬ Document.EndsWithRule s.description

instance (s : Section) : Decidable s.Readable :=
  decidable_of_iff
    (('\n' ∉ s.name ∧ '\r' ∉ s.name) ∧ '\r' ∉ s.description ∧
      Document.ClosesFences s.description ∧ ¬ Document.EndsWithRule s.description)
    ⟨fun ⟨name, description, closed, noRule⟩ => ⟨name, description, closed, noRule⟩,
      fun readable => ⟨readable.name, readable.description, readable.closed, readable.noRule⟩⟩

namespace Document

/-! ### Paragraphs in groups -/

theorem joinParagraphs_append {first second : List Text} (nonempty : first ≠ []) (more : second ≠ []) :
    joinParagraphs (first ++ second) =
      joinParagraphs first ++ '\n' :: '\n' :: joinParagraphs second := by
  induction first with
  | nil => exact absurd rfl nonempty
  | cons t rest ih =>
    by_cases last : rest = []
    · rw [last, List.singleton_append, joinParagraphs_cons t more, joinParagraphs_singleton]
    · rw [List.cons_append, joinParagraphs_cons t (List.append_ne_nil_of_left_ne_nil last _), ih last,
        joinParagraphs_cons t last, List.append_assoc, List.cons_append, List.cons_append]

/-- Paragraphs may be joined group by group. -/
theorem joinParagraphs_flatten {groups : List (List Text)} (nonempty : ∀ group ∈ groups, group ≠ []) :
    joinParagraphs (groups.map joinParagraphs) = joinParagraphs groups.flatten := by
  induction groups with
  | nil => rfl
  | cons group rest ih =>
    have here := nonempty group List.mem_cons_self
    have others := ih fun other member => nonempty other (List.mem_cons_of_mem _ member)
    cases rest with
    | nil =>
      rw [List.flatten_cons, List.flatten_nil, List.append_nil, List.map_singleton,
        joinParagraphs_singleton]
    | cons second rest =>
      have more : (second :: rest).flatten ≠ [] := by
        rw [List.flatten_cons]
        exact List.append_ne_nil_of_left_ne_nil
          (nonempty second (List.mem_cons_of_mem _ List.mem_cons_self)) _
      have split : (group :: second :: rest).flatten = group ++ (second :: rest).flatten :=
        List.flatten_cons
      rw [List.map_cons, joinParagraphs_cons _ (by simp), others, split,
        joinParagraphs_append here more]

/-! ### The entries of an arrangement -/

/-- The heading and the description of a section as one entry, if it has them. -/
def openingItems (s : Section) : List FunctionItem :=
  if Arrangement.sectionOpening s = [] then []
  else [.heading (joinParagraphs (Arrangement.sectionOpening s))]

/-- The blocks that a section shows, with their names. -/
def shownItems (blocks : List FunctionBlock) (s : Section) : List FunctionItem :=
  s.functions.filterMap fun name => (blocks.lookup name).map (FunctionItem.function name)

/-- The entries that some sections show. -/
def arrangedItems (blocks : List FunctionBlock) (sections : List Section) : List FunctionItem :=
  (sections.filter (! ·.isIgnore)).flatMap fun s => openingItems s ++ shownItems blocks s

/-- The paragraphs of each entry of a section. -/
def itemParts (blocks : List FunctionBlock) (s : Section) : List (List Text) :=
  (if Arrangement.sectionOpening s = [] then [] else [Arrangement.sectionOpening s]) ++
    (Arrangement.sectionBlocks blocks s).map ([·])

theorem map_text_sectionItems (blocks : List FunctionBlock) (s : Section) :
    (openingItems s ++ shownItems blocks s).map (·.text) =
      (itemParts blocks s).map joinParagraphs := by
  have shown : (shownItems blocks s).map (·.text) = Arrangement.sectionBlocks blocks s := by
    unfold shownItems Arrangement.sectionBlocks
    rw [List.map_filterMap]
    refine List.filterMap_congr fun name _ => ?_
    cases blocks.lookup name <;> rfl
  have single : ∀ texts : List Text, (texts.map ([·])).map joinParagraphs = texts := by
    intro texts
    rw [List.map_map]
    refine (List.map_congr_left fun t _ => ?_).trans (List.map_id texts)
    exact joinParagraphs_singleton t
  unfold itemParts openingItems
  rw [List.map_append, shown, List.map_append, single]
  split <;> rfl

theorem flatten_itemParts (blocks : List FunctionBlock) (s : Section) :
    (itemParts blocks s).flatten =
      Arrangement.sectionOpening s ++ Arrangement.sectionBlocks blocks s := by
  have single : ∀ texts : List Text, (texts.map ([·])).flatten = texts := by
    intro texts
    rw [← List.flatMap_def, List.flatMap_singleton']
  unfold itemParts
  rw [List.flatten_append, single]
  congr 1
  split
  · rename_i empty
    rw [empty, List.flatten_nil]
  · rw [List.flatten_singleton]

theorem flatten_flatMap_itemParts (blocks : List FunctionBlock) (shown : List Section) :
    (shown.flatMap (itemParts blocks)).flatten = shown.flatMap fun s =>
      Arrangement.sectionOpening s ++ Arrangement.sectionBlocks blocks s := by
  induction shown with
  | nil => rfl
  | cons s rest ih =>
    rw [List.flatMap_cons, List.flatten_append, flatten_itemParts, ih, List.flatMap_cons]

theorem itemParts_ne_nil {blocks : List FunctionBlock} {s : Section} {group : List Text}
    (member : group ∈ itemParts blocks s) : group ≠ [] := by
  unfold itemParts at member
  rcases List.mem_append.mp member with inOpening | inBlocks
  · split at inOpening
    · exact absurd inOpening List.not_mem_nil
    · rename_i nonempty
      rwa [List.mem_singleton.mp inOpening]
  · obtain ⟨t, -, rfl⟩ := List.mem_map.mp inBlocks
    exact List.cons_ne_nil _ _

/-- The texts of the sections that show anything. -/
theorem filterMap_sectionText? (blocks : List FunctionBlock) (shown : List Section) :
    shown.filterMap (Arrangement.sectionText? blocks) =
      ((shown.map fun s => Arrangement.sectionOpening s ++
        Arrangement.sectionBlocks blocks s).filter (! ·.isEmpty)).map joinParagraphs := by
  induction shown with
  | nil => rfl
  | cons s rest ih =>
    unfold Arrangement.sectionText? at ih ⊢
    rw [List.filterMap_cons, ih, List.map_cons]
    cases Arrangement.sectionOpening s ++ Arrangement.sectionBlocks blocks s with
    | nil => rfl
    | cons first others => rfl

/-- The arranged text is made of the openings and the blocks of the sections that are shown. -/
theorem bySections_paragraphs (className : Text) (blocks : List FunctionBlock)
    (sections : List Section) :
    (Arrangement.bySections className blocks sections).1 =
      joinParagraphs ((sections.filter (! ·.isIgnore)).flatMap fun s =>
        Arrangement.sectionOpening s ++ Arrangement.sectionBlocks blocks s) := by
  have ofSections : ∀ group ∈ ((sections.filter (! ·.isIgnore)).map fun s =>
      Arrangement.sectionOpening s ++ Arrangement.sectionBlocks blocks s).filter (! ·.isEmpty),
        group ≠ [] := by
    intro group member
    simpa using (List.mem_filter.mp member).2
  show joinParagraphs ((sections.filter (! ·.isIgnore)).filterMap (Arrangement.sectionText? blocks)) = _
  rw [filterMap_sectionText?, joinParagraphs_flatten ofSections, List.flatten_filter_not_isEmpty,
    List.flatMap_def]

/-- **The arranged text is the text of its entries.** -/
theorem bySections_eq (className : Text) (blocks : List FunctionBlock) (sections : List Section) :
    (Arrangement.bySections className blocks sections).1 =
      joinParagraphs ((arrangedItems blocks sections).map (·.text)) := by
  have texts : (arrangedItems blocks sections).map (·.text) =
      ((sections.filter (! ·.isIgnore)).flatMap (itemParts blocks)).map joinParagraphs := by
    unfold arrangedItems
    rw [List.map_flatMap, List.map_flatMap, funext (map_text_sectionItems blocks)]
  have ofItems : ∀ group ∈ (sections.filter (! ·.isIgnore)).flatMap (itemParts blocks), group ≠ [] := by
    intro group member
    obtain ⟨s, -, inParts⟩ := List.mem_flatMap.mp member
    exact itemParts_ne_nil inParts
  rw [texts, joinParagraphs_flatten ofItems, flatten_flatMap_itemParts, bySections_paragraphs]

/-! ### Reading the entries back -/

/-- **Entries are read back from their text.** -/
theorem readItems_marked {items : List FunctionItem} (entries : ∀ item ∈ items, IsEntry item) :
    readItems (marked (joinParagraphs (items.map (·.text)))) = items := by
  by_cases empty : items = []
  · rw [empty]
    rfl
  · have first : ∃ below, entryLines items = [] :: below ∧ below ≠ [] := by
      obtain ⟨item, rest, same⟩ := List.exists_cons_of_ne_nil empty
      obtain ⟨heading, -, headed⟩ := entries item (by simp [same])
      refine ⟨lines item.text ++ entryLines rest, by rw [same, entryLines_cons], ?_⟩
      exact List.append_ne_nil_of_left_ne_nil headed.lines_ne_nil _
    obtain ⟨below, split, nonempty⟩ := first
    have text : joinParagraphs (items.map (·.text)) = joinLines below := by
      have whole := joinParagraphs_entries entries empty
      rw [split, joinLines_cons [] nonempty] at whole
      exact (List.cons.inj whole).2
    have clean : ∀ line ∈ below, IsLine line := fun line member =>
      clean_entryLines entries line (by rw [split]; exact List.mem_cons_of_mem _ member)
    have written : below.getLast? ≠ some [] := by
      have each : ∀ item ∈ items, ∀ last ∈ ([] :: lines item.text).getLast?,
          isBlankOrRule last = false := by
        intro item member last isLast
        obtain ⟨heading, -, headed⟩ := entries item member
        rw [List.getLast?_cons_of_ne_nil headed.lines_ne_nil] at isLast
        exact headed.written last isLast
      intro ends
      have isLast : (entryLines items).getLast? = some [] := by
        rw [split, List.getLast?_cons_of_ne_nil nonempty, ends]
      have counts := forall_getLast?_flatMap each [] isLast
      cases counts
    have read := readItems_entryLines entries
    rw [split] at read
    unfold marked
    rw [text, lines_joinLines clean written]
    exact read

theorem isEntry_opening {s : Section} (readable : s.Readable) :
    ∀ item ∈ openingItems s, IsEntry item := by
  intro item member
  unfold openingItems at member
  split at member
  · exact absurd member List.not_mem_nil
  · rename_i nonempty
    rw [List.mem_singleton.mp member]
    unfold Arrangement.sectionOpening at nonempty ⊢
    by_cases shown : s.hasHeading = true
    · have isHeading : heading? (List.replicate 3 '#' ++ ' ' :: s.name) =
          some ⟨3, trim (' ' :: s.name)⟩ := heading?_replicate (by decide) (by decide) _
      have isLine : IsLine ("### ".toList ++ s.name) := by
        refine ⟨by simp [readable.name.1], fun ends => ?_⟩
        have inside := List.mem_of_getLast? ends
        simp [readable.name.2] at inside
      rw [if_pos shown]
      refine ⟨⟨3, trim (' ' :: s.name)⟩, rfl, headed_joinParagraphs isLine rfl isHeading
        fun part inParts => ?_⟩
      by_cases blank : allBlank s.description = true
      · rw [if_pos blank] at inParts
        exact absurd inParts List.not_mem_nil
      · rw [if_neg blank] at inParts
        rw [List.mem_singleton.mp inParts]
        have written : trim s.description ≠ [] := fun empty => blank (allBlank_of_trim empty)
        exact paragraph_escapeText (tidy_trim (smooth_of_noReturn readable.description)) written
          (closesFences_trim readable.closed)
          fun ends => readable.noRule (endsWithRule_of_trim readable.description ends)
    · rw [if_neg shown] at nonempty
      exact absurd rfl nonempty

theorem isEntry_arrangedItems {blocks : List FunctionBlock}
    (entries : ∀ block ∈ blocks, IsEntry (.function block.1 block.2)) {sections : List Section}
    (readable : ∀ s ∈ sections, s.Readable) : ∀ item ∈ arrangedItems blocks sections, IsEntry item := by
  intro item member
  obtain ⟨s, inSections, inItems⟩ := List.mem_flatMap.mp member
  rcases List.mem_append.mp inItems with inOpening | inShown
  · exact isEntry_opening (readable s (List.mem_filter.mp inSections).1) item inOpening
  · obtain ⟨name, -, isShown⟩ := List.mem_filterMap.mp inShown
    obtain ⟨t, found, rfl⟩ := Option.map_eq_some_iff.mp isShown
    obtain ⟨before, after, split, -⟩ := List.lookup_eq_some_iff.mp found
    exact entries (name, t) (by rw [split]; simp)

/-! ### One class -/

theorem entriesOf_eq {functions : List FunctionRecord} (neat : ∀ f ∈ functions, f.Neat)
    (returns : ∀ f ∈ functions, f.returns ≠ some []) : entriesOf functions = functions.map entryOf := by
  rcases List.eq_nil_or_concat' functions with rfl | ⟨before, last, rfl⟩
  · rfl
  · have written := endsWritten_functionBlock (neat last (by simp)) (returns last (by simp))
    rw [entriesOf_concat, trimEnd_of_endsWritten written, List.map_append, List.map_singleton]
    rfl

theorem functionBlocks_documentOf {c : ClassRecord} (neat : c.Neat)
    (returns : ∀ f ∈ c.functions, f.returns ≠ some []) (importPath : Option Text) (trailer : Text) :
    (documentOf c importPath trailer).functionBlocks = ReferencePages.functionBlocks c := by
  have shown : FunctionItem.block? ∘ entryOf = some ∘ fun f => (f.name, functionBlock f) := rfl
  show (entriesOf c.functions).filterMap FunctionItem.block? = _
  rw [entriesOf_eq neat.functions returns, List.filterMap_map, shown,
    List.filterMap_eq_map]
  rfl

theorem isEntry_functionBlocks {c : ClassRecord} (neat : c.Neat) (readable : c.Readable) :
    ∀ block ∈ ReferencePages.functionBlocks c, IsEntry (.function block.1 block.2) := by
  intro block member
  obtain ⟨f, inside, rfl⟩ := List.mem_map.mp member
  have spec := readable.functions f inside
  exact isEntry_entryOf (neat.functions f inside) spec.1 spec.2

theorem joinParagraphs_isEmpty {items : List FunctionItem} (entries : ∀ item ∈ items, IsEntry item) :
    (joinParagraphs (items.map (·.text))).isEmpty = items.isEmpty := by
  rcases List.eq_nil_or_concat' items with rfl | ⟨before, last, rfl⟩
  · rfl
  · obtain ⟨heading, -, headed⟩ := entries last (by simp)
    have written : last.text ≠ [] := by
      intro empty
      exact headed.lines_ne_nil (by rw [empty]; rfl)
    obtain ⟨above, joined⟩ := joinParagraphs_concat (before.map (·.text))
    rw [List.map_append, List.map_singleton, joined,
      List.isEmpty_eq_false_iff.mpr (List.append_ne_nil_of_right_ne_nil above written),
      List.isEmpty_eq_false_iff.mpr (List.append_ne_nil_of_right_ne_nil before (by simp))]

/-- **The page of one class by a plan** is its document, read back and arranged. -/
theorem classesText_arranged {c : ClassRecord} (neat : c.Neat) (readable : c.Readable)
    (returns : ∀ f ∈ c.functions, f.returns ≠ some []) {importPath : Option Text}
    (singleLine : ∀ path ∈ importPath, '\n' ∉ path) {plan : Option Plan} {sections : List Section}
    (planned : planned? plan c.name = some sections) (each : ∀ s ∈ sections, s.Readable) :
    classesText [c] plan importPath =
      (((documentOf c importPath []).arranged plan).1.render,
        ((documentOf c importPath []).arranged plan).2) := by
  have entries := isEntry_arrangedItems (isEntry_functionBlocks neat readable) each
  have body := bySections_eq c.name (ReferencePages.functionBlocks c) sections
  have arranges : arrange c.name (ReferencePages.functionBlocks c) plan =
      Arrangement.bySections c.name (ReferencePages.functionBlocks c) sections := by
    unfold arrange
    rw [planned]
  have shown : (documentOf c importPath []).arranged plan =
      ({ documentOf c importPath [] with
          functions := arrangedItems (ReferencePages.functionBlocks c) sections },
        (Arrangement.bySections c.name (ReferencePages.functionBlocks c) sections).2) := by
    have read := readItems_marked entries
    rw [← body] at read
    have title : (documentOf c importPath []).title = c.name := rfl
    unfold arranged
    rw [title, planned, functionBlocks_documentOf neat returns, arranges]
    simp only [Option.isSome_some, if_pos, read]
    rfl
  have sectionsEq : classSections c
      (Arrangement.bySections c.name (ReferencePages.functionBlocks c) sections).1 =
        { documentOf c importPath [] with
          functions := arrangedItems (ReferencePages.functionBlocks c) sections }.sections := by
    refine classSections_of_functions c importPath [] ?_
    rw [body, joinParagraphs_isEmpty entries]
  obtain ⟨-, -, ends⟩ := trimEnd_joinSections (endsWritten_preamble neat singleLine)
    fun s (member : s ∈ classSections c
      (Arrangement.bySections c.name (ReferencePages.functionBlocks c) sections).1) =>
        trimEnd_classSections_ne_nil member
  have text : joinDocuments [joinSections (Markdown.preamble c importPath) (classSections c
      (Arrangement.bySections c.name (ReferencePages.functionBlocks c) sections).1)] =
        { documentOf c importPath [] with
          functions := arrangedItems (ReferencePages.functionBlocks c) sections }.render := by
    unfold joinDocuments
    rw [List.map_singleton, joinParagraphs_singleton, ← ends, sectionsEq]
    exact (List.append_nil _).symm
  rw [shown, ← text]
  unfold classesText classPage
  simp only [List.map_cons, List.map_nil, arranges, Page.ofText, List.flatMap_cons, List.flatMap_nil,
    List.append_nil]

theorem classesText_unplanned {c : ClassRecord} (neat : c.Neat) {importPath : Option Text}
    (singleLine : ∀ path ∈ importPath, '\n' ∉ path) {plan : Option Plan}
    (unplanned : planned? plan c.name = none) :
    classesText [c] plan importPath = ((documentOf c importPath []).render, []) := by
  have same : arrange c.name (ReferencePages.functionBlocks c) plan =
      arrange c.name (ReferencePages.functionBlocks c) none := by
    unfold arrange
    rw [unplanned]
    rfl
  have page : classesText [c] plan importPath = classesText [c] none importPath := by
    unfold classesText classPage
    simp only [List.map_cons, List.map_nil, same]
  rw [page]
  exact classesText_eq neat (fun other member => absurd member List.not_mem_nil) singleLine

/-- A merge without parents arranges what it reads. -/
theorem WellLaid.merge_render {document : Document} (laid : document.WellLaid) (plan : Option Plan) :
    merge document.render [] plan =
      (Page.ofText (document.arranged plan).1.render, (document.arranged plan).2) := by
  unfold merge
  rw [laid.parse_render]
  rfl

end Document

/-- **Arranging before writing agrees with arranging what is read back.** For a source with one
readable class whose return descriptions are not empty, and a plan whose sections for the class are
readable, the page by the plan is what a merge without parents makes of the page without one, and
both report the same. -/
theorem Source.reference_eq_merge {name text : Text} {options : DocOptions} {c : ClassRecord}
    {plan : Option Plan}
    (assembled : (Source.ofText name text).assemble options.strict = .ok [c])
    (singleLine : ∀ path ∈ options.importPath (Source.ofText name text) [c], '\n' ∉ path)
    (readable : c.Readable) (returns : ∀ f ∈ c.functions, f.returns ≠ some [])
    (planReadable : ∀ sections ∈ planned? plan c.name, ∀ s ∈ sections, s.Readable) :
    ∃ page, (Source.ofText name text).reference none options = .ok (page, []) ∧
      (Source.ofText name text).reference plan options = .ok (merge page.text [] plan) := by
  have neat := neat_assemble assembled c List.mem_cons_self
  have laid := Document.wellLaid_documentOfAll (neat_assemble assembled)
    (fun first isFirst => by rwa [← Option.some.inj isFirst]) singleLine
  refine ⟨_, Source.reference_none assembled singleLine, ?_⟩
  show _ = Except.ok (merge (Document.render _) [] plan)
  rw [laid.merge_render]
  unfold reference
  simp only [assembled, Except.map]
  cases planned : planned? plan c.name with
  | some sections =>
    rw [Document.classesText_arranged neat readable returns singleLine planned
      (planReadable sections planned)]
    rfl
  | none =>
    have unarranged : ∀ document : Document, document.title = c.name →
        document.arranged plan = (document, []) := by
      intro document title
      unfold Document.arranged
      rw [title, planned]
      rfl
    rw [Document.classesText_unplanned neat singleLine planned, unarranged _ rfl]
    rfl

/-- A source with one class and three functions. -/
def arrangedText : Text :=
  joinLines (["class Shape:", " \"\"\"A shape.\"\"\"", " def __init__(self):", " def of(self):",
    "  \"\"\"# no heading", "  :return: x\"\"\"", " def gone(self):",
    "  \"\"\"* *\"\"\""].map (·.toList))

/-- The class of this source. -/
def arrangedClass : ClassRecord :=
  match (Source.ofText "a.py".toList arrangedText).assemble false with
  | .ok [c] => c
  | _ => ⟨[], none, [], [], [], [], [], 0⟩

/-- A plan with a section without a heading, one with a description that is not trimmed and an unknown
function, one that shows nothing and one that is ignored. -/
def arrangedPlan : Plan :=
  ⟨[("Shape".toList,
    [⟨"Constructor".toList, [], [constructorName]⟩,
      ⟨"_".toList, "\n # of\n".toList, ["of".toList, "at".toList]⟩,
      ⟨"None".toList, [], []⟩, ⟨"Ignore".toList, [], ["gone".toList]⟩])]⟩

theorem Source.reference_eq_merge_sample :
    ∃ page, (Source.ofText "a.py".toList arrangedText).reference none ⟨none, [], false⟩ =
        .ok (page, []) ∧
      (Source.ofText "a.py".toList arrangedText).reference (some arrangedPlan) ⟨none, [], false⟩ =
        .ok (merge page.text [] (some arrangedPlan)) :=
  Source.reference_eq_merge (c := arrangedClass) (by decide +kernel) (by decide +kernel)
    (by decide +kernel) (by decide +kernel) (by decide +kernel)

end ReferencePages
