/-
**Merging step by step.**

A merge can stop after some of the parents, write the document and go on with what is read from it.
What makes this work is an invariant of documents (`Mergeable`): their parts have the form in which
they are read back, and this form survives what inheriting does to them.

* `Mergeable.inherit`, `Mergeable.inheritFrom`: one parent and all parents keep the invariant;
* `inheritFrom_append`: inheriting in two rounds, as long as the first one leaves no bare constructor
  that the second would not;
* `ReadablePage.mergeable`: the pages of sources have the invariant;
* `merge_append`: **a merge can be split into two**.
-/

import ReferencePages.Proofs.Arrangement.ReadBack
import ReferencePages.Proofs.Inheritance.Renamed
import ReferencePages.Proofs.Inheritance.Union

namespace ReferencePages

open Text Markdown

namespace Document

/-! ### The invariant -/

/-- An entry that another document can take over: it ends with a written character, and its heading
holds no call. -/
structure IsPortable (item : FunctionItem) : Prop where
  entry : IsEntry item
  written : EndsWritten item.text
  noCall : ∀ first ∈ (lines item.text).head?, '\x60' ∉ first

/-- **The invariant of a merge**: the document is well laid, its title stands on one line, and each of
its entries can be taken over. -/
structure Mergeable (document : Document) : Prop where
  opening : document.Titled ∨ document.Untitled
  title : '\n' ∉ document.title
  rows : ∀ row ∈ document.rows, IsRow row
  fields : ∀ bullet ∈ document.fields, IsBullet bullet
  functions : ∀ item ∈ document.functions, IsPortable item
  extra : document.extra = []

theorem Mergeable.wellLaid {document : Document} (mergeable : document.Mergeable) :
    document.WellLaid where
  opening := mergeable.opening
  rows := mergeable.rows
  fields := mergeable.fields
  functions := fun item member => (mergeable.functions item member).entry
  functionsEnd := fun item member =>
    (mergeable.functions item (List.mem_of_getLast? member)).written
  extra := mergeable.extra

/-- The opening of a document does not look at its members. -/
theorem opening_congr {document other : Document} (opening : document.Titled ∨ document.Untitled)
    (title : other.title = document.title) (preamble : other.preamble = document.preamble)
    (trailer : other.trailer = document.trailer) : other.Titled ∨ other.Untitled := by
  rcases opening with titled | untitled
  · refine Or.inl ⟨?_, ?_, ?_⟩
    · rw [title, preamble]
      exact titled.preamble
    · rw [preamble]
      exact titled.written
    · rw [trailer]
      exact titled.trailer
  · exact Or.inr ⟨title.trans untitled.title, preamble.trans untitled.preamble,
      trailer.trans untitled.trailer⟩

/-- A merged document as soon as its members are as they should be. -/
theorem Mergeable.withMembers {document : Document} (mergeable : document.Mergeable)
    {rows fields : List Member} {functions : List FunctionItem} (areRows : ∀ row ∈ rows, IsRow row)
    (areBullets : ∀ bullet ∈ fields, IsBullet bullet)
    (arePortable : ∀ item ∈ functions, IsPortable item) :
    { document with rows := rows, fields := fields, functions := functions }.Mergeable where
  opening := opening_congr mergeable.opening rfl rfl rfl
  title := mergeable.title
  rows := areRows
  fields := areBullets
  functions := arePortable
  extra := mergeable.extra

/-! ### Entries -/

/-- **A block stays portable when its calls are renamed.** -/
theorem IsPortable.renameCalls {name t parent child : Text} (portable : IsPortable (.function name t))
    (unbrokenParent : '\n' ∉ parent) (unbrokenChild : '\n' ∉ child) :
    IsPortable (.function name (renameCalls t parent child)) := by
  obtain ⟨heading, headedBy, headed⟩ := portable.entry
  change Headed heading t at headed
  refine ⟨⟨heading, headedBy, headed.renameCalls unbrokenParent unbrokenChild portable.noCall⟩,
    endsWritten_renameCalls unbrokenChild portable.written, ?_⟩
  show ∀ first ∈ (lines (ReferencePages.renameCalls t parent child)).head?, '\x60' ∉ first
  rw [lines_renameCalls unbrokenParent unbrokenChild, List.head?_map]
  intro first isFirst
  obtain ⟨line, inside, rfl⟩ := Option.map_eq_some_iff.mp isFirst
  have noBacktick := portable.noCall line inside
  rwa [renameCalls_of_not_mem noBacktick]

/-- **The block of a function is portable.** -/
theorem isPortable_entryOf {f : FunctionRecord} (neat : f.Neat) (closed : ClosesFences f.body)
    (noRule : ¬ EndsWithRule f.body) (returns : f.returns ≠ some []) : IsPortable (entryOf f) := by
  have headed := headed_functionBlock neat closed noRule
  refine ⟨isEntry_entryOf neat closed noRule, endsWritten_functionBlock neat returns, ?_⟩
  have starts : StartsWith (functionHeading f.name) (functionBlock f) := by
    rw [functionBlock_eq]
    exact startsWith_joinParagraphs ⟨[], (List.append_nil _).symm, by simp⟩ _
  obtain ⟨rest, split⟩ :=
    starts.lines headed.laid (isLine_functionHeading neat.name).unbroken headed.lines_ne_nil
  have noBacktick : '\x60' ∉ escapeHeading f.name :=
    not_mem_escapeChar (by decide) neat.name.noBacktick
  show ∀ first ∈ (lines (functionBlock f)).head?, '\x60' ∉ first
  rw [split]
  intro first isFirst
  rw [← Option.some.inj isFirst]
  show '\x60' ∉ "#### ".toList ++ escapeHeading f.name
  simp [noBacktick]

/-- A constructor that nothing is said about. -/
def undocumented (title : Text) : FunctionRecord :=
  ⟨constructorName, false, [], none, [], [title ++ ['(', ')']]⟩

theorem bareConstructor_eq (title : Text) : bareConstructor title = entryOf (undocumented title) := by
  unfold bareConstructor entryOf
  rw [functionBlock_eq]
  show _ = FunctionItem.function constructorName
    (joinParagraphs [functionHeading constructorName, signatureLine (title ++ ['(', ')'])])
  rw [joinParagraphs_cons _ (List.cons_ne_nil _ _), joinParagraphs_singleton]
  simp

theorem isPortable_bareConstructor {title : Text} (unbroken : '\n' ∉ title) :
    IsPortable (bareConstructor title) := by
  have isName : IsName constructorName :=
    ⟨by decide, List.all_eq_true.mp (by decide : constructorName.all isNameRest = true)⟩
  have neat : (undocumented title).Neat := by
    refine ⟨isName, fun signature member => ?_, Tidy.nil, ?_, ?_⟩
    · rw [List.mem_singleton.mp member]
      simp [unbroken]
    · exact fun p member => absurd member List.not_mem_nil
    · exact fun text member => by cases member
  rw [bareConstructor_eq]
  exact isPortable_entryOf neat rfl (by show ¬ EndsWithRule []; decide) (by simp [undocumented])

/-! ### What inheriting keeps -/

/-- **One parent keeps the invariant.** -/
theorem Mergeable.inherit {document parent : Document} (mergeable : document.Mergeable)
    (inherited : parent.Mergeable) : (document.inherit parent).Mergeable := by
  rw [inherit_eq, foldl_addMember, foldl_addMember, foldl_addBlock]
  refine mergeable.withMembers (fun row member => ?_) (fun bullet member => ?_) fun item member => ?_
  · rcases List.mem_append.mp member with own | new
    · exact mergeable.rows row own
    · exact inherited.rows row (mem_of_mem_firstNew new)
  · rcases List.mem_append.mp member with own | new
    · exact mergeable.fields bullet own
    · exact inherited.fields bullet (mem_of_mem_firstNew new)
  · rcases List.mem_append.mp member with own | new
    · exact mergeable.functions item own
    · obtain ⟨block, inside, rfl⟩ := List.mem_map.mp new
      obtain ⟨⟨name, t⟩, offered, rfl⟩ := List.mem_map.mp (mem_of_mem_firstNew inside)
      obtain ⟨item, inItems, isBlock⟩ := List.mem_filterMap.mp offered
      cases item with
      | heading t => cases isBlock
      | function other text =>
        cases isBlock
        exact (inherited.functions _ inItems).renameCalls inherited.title mergeable.title

/-- All parents keep it. -/
theorem Mergeable.foldl_inherit {document : Document} (mergeable : document.Mergeable)
    {parents : List Document} (inherited : ∀ parent ∈ parents, parent.Mergeable) :
    (parents.foldl Document.inherit document).Mergeable := by
  induction parents generalizing document with
  | nil => exact mergeable
  | cons parent rest ih =>
    exact ih (mergeable.inherit (inherited parent List.mem_cons_self)) fun other member =>
      inherited other (List.mem_cons_of_mem _ member)

theorem Mergeable.withConstructor {document : Document} (mergeable : document.Mergeable) :
    document.withConstructor.Mergeable := by
  unfold Document.withConstructor
  split
  · exact mergeable
  · refine mergeable.withMembers mergeable.rows mergeable.fields fun item member => ?_
    rcases List.mem_cons.mp member with rfl | own
    · exact isPortable_bareConstructor mergeable.title
    · exact mergeable.functions item own

/-- **Inheriting keeps the invariant.** -/
theorem Mergeable.inheritFrom {document : Document} (mergeable : document.Mergeable)
    {parents : List Document} (inherited : ∀ parent ∈ parents, parent.Mergeable) :
    (document.inheritFrom parents).Mergeable := by
  have merged := mergeable.foldl_inherit inherited
  unfold Document.inheritFrom
  simp only
  split
  · exact merged
  · exact merged.withConstructor

/-! ### Two rounds -/

theorem inheritFrom_of_constructor {document : Document} {parents : List Document}
    (has : ∃ other ∈ document :: parents, constructorName ∈ blockNames other.functions) :
    document.inheritFrom parents = parents.foldl inherit document := by
  have merged := (mem_blockNames_foldl_inherit document parents constructorName).mpr has
  unfold inheritFrom
  simp only
  split
  · rfl
  · unfold Document.withConstructor
    rw [(hasFunction_iff _ _).mpr merged, Bool.true_or, if_pos rfl]

/-- **Inheriting in two rounds.** A bare constructor is only added to what has none, so the first round
must not add one that a later parent brings along. -/
theorem inheritFrom_append {document : Document} {parents others : List Document}
    (constructs : others = [] ∨ parents = [] ∨
      ∃ other ∈ document :: parents, constructorName ∈ blockNames other.functions) :
    document.inheritFrom (parents ++ others) = (document.inheritFrom parents).inheritFrom others := by
  rcases constructs with rfl | rfl | ⟨other, inside, has⟩
  · rw [List.append_nil]
    rfl
  · rfl
  · have first := inheritFrom_of_constructor ⟨other, inside, has⟩
    have merged := (mem_blockNames_foldl_inherit document parents constructorName).mpr
      ⟨other, inside, has⟩
    have later : other ∈ document :: (parents ++ others) := by
      rw [← List.cons_append]
      exact List.mem_append_left _ inside
    rw [inheritFrom_of_constructor ⟨other, later, has⟩, List.foldl_append, first,
      inheritFrom_of_constructor ⟨_, List.mem_cons_self, merged⟩]

end Document

/-- The text between two rounds is read as the document it was written from. -/
theorem merge_append_of_mergeable {child : Text} {parents others : List Text}
    (mergeable : (Document.parse child).Mergeable)
    (inherited : ∀ parent ∈ parents, (Document.parse parent).Mergeable)
    (constructs : others = [] ∨ parents = [] ∨
      ∃ t ∈ child :: parents, (Document.parse t).hasFunction constructorName = true)
    (plan : Option Plan) :
    merge child (parents ++ others) plan = merge (merge child parents none).1.text others plan := by
  have read : Document.parse (merge child parents none).1.text =
      (Document.parse child).inheritFrom (parents.map Document.parse) := by
    refine (mergeable.inheritFrom fun document member => ?_).wellLaid.parse_render
    obtain ⟨parent, inside, rfl⟩ := List.mem_map.mp member
    exact inherited parent inside
  have rounds : (Document.parse child).inheritFrom ((parents ++ others).map Document.parse) =
      ((Document.parse child).inheritFrom (parents.map Document.parse)).inheritFrom
        (others.map Document.parse) := by
    rw [List.map_append]
    refine Document.inheritFrom_append ?_
    rcases constructs with rfl | rfl | ⟨t, inside, has⟩
    · exact Or.inl rfl
    · exact Or.inr (Or.inl rfl)
    · refine Or.inr (Or.inr ⟨Document.parse t, ?_, (Document.hasFunction_iff _ _).mp has⟩)
      rw [← List.map_cons]
      exact List.mem_map_of_mem inside
  show ((Page.ofText _, _) : Page × List Warning) = (Page.ofText _, _)
  rw [rounds, read]

/-! ### Pages of sources -/

theorem Document.mergeable_documentOfAll {classes : List ClassRecord} (neat : ∀ c ∈ classes, c.Neat)
    (readable : ∀ first ∈ classes.head?, first.Readable)
    (returns : ∀ first ∈ classes.head?, ∀ f ∈ first.functions, f.returns ≠ some [])
    {importPath : Option Text} (singleLine : ∀ path ∈ importPath, '\n' ∉ path) :
    (documentOfAll classes importPath).Mergeable := by
  have laid := wellLaid_documentOfAll neat readable singleLine
  refine ⟨laid.opening, ?_, laid.rows, laid.fields, ?_, laid.extra⟩
  · cases classes with
    | nil => exact List.not_mem_nil
    | cons first others => exact (neat first List.mem_cons_self).name.unbroken
  · cases classes with
    | nil => exact fun item member => absurd member List.not_mem_nil
    | cons first others =>
      have functions := (neat first List.mem_cons_self).functions
      show ∀ item ∈ entriesOf first.functions, IsPortable item
      rw [entriesOf_eq functions (returns first rfl)]
      intro item member
      obtain ⟨f, inside, rfl⟩ := List.mem_map.mp member
      have prose := (readable first rfl).functions f inside
      exact isPortable_entryOf (functions f inside) prose.1 prose.2 (returns first rfl f inside)

/-- A page of a source without a plan. The import path stands on one line, the first class is readable,
and no description of what a function of it returns is empty. -/
structure ReadablePage where
  name : Text
  source : Text
  options : DocOptions
  classes : List ClassRecord
  page : Page
  warnings : List Warning
  assembled : (Source.ofText name source).assemble options.strict = .ok classes
  singleLine : ∀ path ∈ options.importPath (Source.ofText name source) classes, '\n' ∉ path
  readable : ∀ first ∈ classes.head?, first.Readable
  returns : ∀ first ∈ classes.head?, ∀ f ∈ first.functions, f.returns ≠ some []
  written : (Source.ofText name source).reference none options = .ok (page, warnings)

/-- **The page of a source is read as a document with the invariant.** -/
theorem ReadablePage.mergeable (shown : ReadablePage) :
    (Document.parse shown.page.text).Mergeable := by
  have neat := Source.neat_assemble shown.assembled
  have laid := Document.wellLaid_documentOfAll neat shown.readable shown.singleLine
  have same := Source.reference_none shown.assembled shown.singleLine
  rw [shown.written, Except.ok.injEq, Prod.mk.injEq] at same
  rw [same.1]
  show (Document.parse (Document.render _)).Mergeable
  rw [laid.parse_render]
  exact Document.mergeable_documentOfAll neat shown.readable shown.returns shown.singleLine

/-- **A merge can be split into two.** The child and the first parents are pages of sources; the others
may be any texts, and the plan any plan. Unless one of the two groups of parents is empty, the child or
one of the first parents has a constructor. Then merging the first parents, and merging the others
into the text that comes out, gives the same page as one merge and reports the same. -/
theorem merge_append (child : ReadablePage) (parents : List ReadablePage) (others : List Text)
    (plan : Option Plan)
    (constructs : others = [] ∨ parents = [] ∨ ∃ shown ∈ child :: parents,
      (Document.parse shown.page.text).hasFunction constructorName = true) :
    merge child.page.text (parents.map (·.page.text) ++ others) plan =
      merge (merge child.page.text (parents.map (·.page.text)) none).1.text others plan := by
  refine merge_append_of_mergeable child.mergeable (fun parent member => ?_) ?_ plan
  · obtain ⟨shown, -, rfl⟩ := List.mem_map.mp member
    exact shown.mergeable
  · rcases constructs with noOthers | noParents | ⟨shown, inside, has⟩
    · exact Or.inl noOthers
    · exact Or.inr (Or.inl (by rw [noParents, List.map_nil]))
    · refine Or.inr (Or.inr ⟨shown.page.text, ?_, has⟩)
      rw [← List.map_cons (f := fun shown : ReadablePage => shown.page.text)]
      exact List.mem_map_of_mem inside

/-- The page of a readable source, without a package. -/
def ReadablePage.ofSource (source : Text) (classes : List ClassRecord)
    (assembled : (Source.ofText [] source).assemble false = .ok classes)
    (readable : ∀ first ∈ classes.head?, first.Readable)
    (returns : ∀ first ∈ classes.head?, ∀ f ∈ first.functions, f.returns ≠ some []) :
    ReadablePage where
  name := []
  source := source
  options := ⟨none, [], false⟩
  classes := classes
  page := Page.ofText (Document.documentOfAll classes none).render
  warnings := []
  assembled := assembled
  singleLine := by simp [DocOptions.importPath, DocOptions.packagePath?]
  readable := readable
  returns := returns
  written := Source.reference_none assembled (by simp [DocOptions.importPath, DocOptions.packagePath?])

/-- A child with a function that its parent has too. -/
def squareText : Text :=
  joinLines (["class Square(Shape):", " def of(self):", "  \"\"\"- `x`\"\"\""].map (·.toList))

/-- A parent with a constructor, and with calls that are renamed. -/
def shapeText : Text :=
  joinLines (["class Shape:", " def __init__(self):", "  \"\"\":field the w\"\"\"", "  self.w = 1",
    " def of(self):", " def at(self):", "  \"\"\"See **`Shape.of()`**.\"\"\""].map (·.toList))

/-- The classes of a source that can be read. -/
def classesIn (source : Text) : List ClassRecord :=
  match (Source.ofText [] source).assemble false with
  | .ok classes => classes
  | .error _ => []

def squarePage : ReadablePage :=
  .ofSource squareText (classesIn squareText) (by decide +kernel) (by decide +kernel)
    (by decide +kernel)

def shapePage : ReadablePage :=
  .ofSource shapeText (classesIn shapeText) (by decide +kernel) (by decide +kernel) (by decide +kernel)

theorem merge_append_sample :
    merge squarePage.page.text ([shapePage].map (·.page.text) ++ ["# Base".toList])
        (some ⟨[("Square".toList, [⟨"Calls".toList, [], ["at".toList]⟩])]⟩) =
      merge (merge squarePage.page.text ([shapePage].map (·.page.text)) none).1.text ["# Base".toList]
        (some ⟨[("Square".toList, [⟨"Calls".toList, [], ["at".toList]⟩])]⟩) :=
  merge_append squarePage [shapePage] ["# Base".toList] _
    (Or.inr (Or.inr ⟨shapePage, by simp, by decide +kernel⟩))

end ReferencePages
