/-
**Well laid documents are read back.**

A document is well laid (`WellLaid`) when its parts have the form in which the reader looks for them:
rows and bullets that open with their names, entries under headings of their own levels, prose that
hides no heading and leaves no fence open, and, if there is a second title, a first one above it.

* `readItems_entryLines`: the entries of the section of functions are read back from their lines;
* `joinParagraphs_entries`: these lines are the text of the section.
-/

import ReferencePages.Proofs.Document.Parts

namespace ReferencePages

open Text Markdown

namespace Document

/-! ### The form of the parts -/

/-- A text that starts with the given heading and goes on with a passage, its last line neither blank
nor a rule. -/
structure Headed (heading : Heading) (t : Text) : Prop where
  laid : Laid t
  shape : ∃ line rest, lines t = line :: rest ∧ line.head? = some '#' ∧
    heading? line = some heading ∧ Passage rest
  written : ∀ last ∈ (lines t).getLast?, isBlankOrRule last = false

/-- A row on one line that shows its name. -/
structure IsRow (row : Member) : Prop where
  unbroken : '\n' ∉ row.text
  written : EndsWritten row.text
  shown : shownName? "| `" row.text = some row.name

/-- A bullet whose first line alone shows a name, and whose lines are plain. -/
structure IsBullet (bullet : Member) : Prop where
  tidy : Tidy bullet.text
  plain : ∀ line ∈ lines bullet.text, IsPlain line
  shown : ∃ first rest, lines bullet.text = first :: rest ∧
    shownName? "- `" first = some bullet.name ∧ ∀ line ∈ rest, shownName? "- `" line = none
  written : ∀ last ∈ (lines bullet.text).getLast?, isBlankOrRule last = false

/-- The heading is one that the entry stands under. -/
def HeadedBy : FunctionItem → Heading → Prop
  | .function name _, heading => heading.level = 4 ∧ unescape heading.text = name
  | .heading _, heading => heading.level = 3

/-- An entry of the section of functions under a heading of its own. -/
def IsEntry (item : FunctionItem) : Prop :=
  ∃ heading, HeadedBy item heading ∧ Headed heading item.text

/-- What starts with a second title. -/
structure IsTrailer (t : Text) : Prop where
  tidy : Tidy t
  shape : ∃ line rest heading, lines t = line :: rest ∧ line.head? = some '#' ∧
    heading? line = some heading ∧ heading.level = 1

/-- A preamble that shows the title, perhaps with a second title far below. -/
structure Titled (document : Document) : Prop where
  preamble : ∃ heading, heading.level = 1 ∧ unescape heading.text = document.title ∧
    Headed heading document.preamble
  written : EndsWritten document.preamble
  trailer : document.trailer ≠ [] → IsTrailer document.trailer

/-- No title, no preamble and no second title. -/
structure Untitled (document : Document) : Prop where
  title : document.title = []
  preamble : document.preamble = []
  trailer : document.trailer = []

/-- **The form in which a document is read back.** -/
structure WellLaid (document : Document) : Prop where
  opening : document.Titled ∨ document.Untitled
  rows : ∀ row ∈ document.rows, IsRow row
  fields : ∀ bullet ∈ document.fields, IsBullet bullet
  functions : ∀ item ∈ document.functions, IsEntry item
  functionsEnd : ∀ item ∈ document.functions.getLast?, EndsWritten item.text
  extra : document.extra = []

/-! ### Headed texts -/

theorem allBlank_of_hash {line : Line} (start : line.head? = some '#') : allBlank line = false := by
  cases line with
  | nil => cases start
  | cons c rest =>
    rw [List.head?_cons, Option.some.injEq] at start
    rw [start]
    rfl

theorem Headed.trimLines_lines {heading : Heading} {t : Text} (headed : Headed heading t) :
    trimLines (lines t) = lines t := by
  obtain ⟨line, rest, same, start, -, -⟩ := headed.shape
  have written := headed.written
  rw [same] at written ⊢
  exact trimLines_of_written (allBlank_of_hash start) written

theorem Headed.partText_lines {heading : Heading} {t : Text} (headed : Headed heading t) :
    partText (lines t) = t := by
  unfold partText
  rw [headed.trimLines_lines, headed.laid.joined]

theorem Headed.lines_ne_nil {heading : Heading} {t : Text} (headed : Headed heading t) :
    lines t ≠ [] := by
  obtain ⟨line, rest, same, -, -, -⟩ := headed.shape
  rw [same]
  exact List.cons_ne_nil _ _

theorem Headed.closed {heading : Heading} {t : Text} (headed : Headed heading t) :
    fenceAfterAll none (lines t) = none := by
  obtain ⟨line, rest, same, start, -, passage⟩ := headed.shape
  rw [same, fenceAfterAll_heading start, passage.closed]

/-- The heading is the only one in the text. -/
theorem Headed.markLines_lines {heading : Heading} {t : Text} (headed : Headed heading t) :
    ∃ line rest, lines t = line :: rest ∧
      markLines none (lines t) = ⟨line, some heading⟩ :: markLines none rest ∧
      ∀ other ∈ markLines none rest, other.heading = none := by
  obtain ⟨line, rest, same, start, isHeading, passage⟩ := headed.shape
  refine ⟨line, rest, same, ?_, passage.unmarked⟩
  rw [same, markLines_heading start isHeading]

/-! ### Entries of the section of functions -/

/-- The lines of the section of functions below its heading. -/
def entryLines (items : List FunctionItem) : List Line :=
  items.flatMap fun item => [] :: lines item.text

theorem entryLines_cons (item : FunctionItem) (rest : List FunctionItem) :
    entryLines (item :: rest) = [] :: (lines item.text ++ entryLines rest) := List.flatMap_cons

theorem HeadedBy.level {item : FunctionItem} {heading : Heading} (headedBy : HeadedBy item heading) :
    heading.level = 3 ∨ heading.level = 4 := by
  cases item with
  | function name text => exact Or.inr headedBy.1
  | heading text => exact Or.inl headedBy

theorem HeadedBy.itemOf_eq {item : FunctionItem} {heading : Heading}
    (headedBy : HeadedBy item heading) {group : Group MarkedLine Heading}
    (key : group.key = heading) (text : partText (group.all.map (·.text)) = item.text) :
    itemOf group = item := by
  unfold itemOf
  simp only [key, text]
  cases item with
  | function name text =>
    rw [headedBy.1, headedBy.2]
    rfl
  | heading text =>
    rw [show heading.level = 3 from headedBy]
    rfl

/-- An entry, the empty line before it and the gap behind it. -/
theorem markLines_entry {item : FunctionItem} (entry : IsEntry item) (tail : List Line) :
    ∃ heading line rest, HeadedBy item heading ∧ Headed heading item.text ∧
      lines item.text = line :: rest ∧
      markLines none ([] :: (lines item.text ++ tail)) =
        ⟨[], none⟩ :: ⟨line, some heading⟩ :: (markLines none rest ++ markLines none tail) ∧
      ∀ other ∈ markLines none rest, other.heading = none := by
  obtain ⟨heading, headedBy, headed⟩ := entry
  obtain ⟨line, rest, same, marks, unmarked⟩ := headed.markLines_lines
  refine ⟨heading, line, rest, headedBy, headed, same, ?_, unmarked⟩
  rw [markLines, markLines_append]
  show ⟨[], none⟩ :: (markLines none (lines item.text) ++
    markLines (fenceAfterAll none (lines item.text)) tail) = _
  rw [headed.closed, marks, List.cons_append]

theorem groups_entryLines {items : List FunctionItem} (entries : ∀ item ∈ items, IsEntry item) :
    ∃ before found, groups itemHeading? (markLines none (entryLines items)) = (before, found) ∧
      IsGap before ∧ found.map itemOf = items := by
  induction items with
  | nil => exact ⟨[], [], rfl, IsGap.nil, rfl⟩
  | cons item rest ih =>
    obtain ⟨before, found, split, isGap, reads⟩ :=
      ih fun other member => entries other (List.mem_cons_of_mem _ member)
    obtain ⟨heading, line, below, headedBy, headed, same, marks, unmarked⟩ :=
      markLines_entry (entries item List.mem_cons_self) (entryLines rest)
    have isGapEmpty : IsGap [⟨[], none⟩] := fun other member => by
      rw [List.mem_singleton.mp member]
      exact ⟨rfl, by decide⟩
    have belowUnmarked : ∀ other ∈ markLines none below, itemHeading? other = none := by
      intro other member
      unfold itemHeading?
      rw [unmarked other member]
      rfl
    have isMark : itemHeading? ⟨line, some heading⟩ = some heading := by
      unfold itemHeading?
      rw [Option.filter_some, if_pos]
      rcases headedBy.level with three | four
      · rw [three]
        rfl
      · rw [four]
        rfl
    refine ⟨[⟨[], none⟩], ⟨heading, ⟨line, some heading⟩, markLines none below ++ before⟩ :: found,
      ?_, isGapEmpty, ?_⟩
    · rw [entryLines_cons, marks, ← List.singleton_append, groups_append isGapEmpty.itemHeading?,
        groups_cons isMark, groups_append belowUnmarked, split]
      rfl
    · rw [List.map_cons, reads, itemOf_append_gap _ _ _ isGap]
      congr 1
      refine headedBy.itemOf_eq rfl ?_
      show partText (line :: (markLines none below).map (·.text)) = item.text
      rw [map_text_markLines, ← same, headed.partText_lines]

/-- **Entries are read back from their lines.** -/
theorem readItems_entryLines {items : List FunctionItem} (entries : ∀ item ∈ items, IsEntry item) :
    readItems (markLines none (entryLines items)) = items := by
  obtain ⟨before, found, split, -, reads⟩ := groups_entryLines entries
  unfold readItems
  rw [split]
  exact reads

theorem closed_entryLines {items : List FunctionItem} (entries : ∀ item ∈ items, IsEntry item) :
    fenceAfterAll none (entryLines items) = none := by
  induction items with
  | nil => rfl
  | cons item rest ih =>
    obtain ⟨heading, -, headed⟩ := entries item List.mem_cons_self
    rw [entryLines_cons]
    show fenceAfterAll none (lines item.text ++ entryLines rest) = none
    rw [fenceAfterAll_append, headed.closed]
    exact ih fun other member => entries other (List.mem_cons_of_mem _ member)

theorem clean_entryLines {items : List FunctionItem} (entries : ∀ item ∈ items, IsEntry item) :
    ∀ line ∈ entryLines items, IsLine line := by
  intro line member
  obtain ⟨item, inItems, member⟩ := List.mem_flatMap.mp member
  obtain ⟨heading, -, headed⟩ := entries item inItems
  rcases List.mem_cons.mp member with rfl | inText
  · exact IsLine.nil
  · exact headed.laid.clean line inText

/-- The section of functions holds no heading of the first two levels. -/
theorem headingAt?_entryLines {items : List FunctionItem} (entries : ∀ item ∈ items, IsEntry item) :
    ∀ line ∈ markLines none (entryLines items),
      line.headingAt? 1 = none ∧ line.headingAt? 2 = none := by
  induction items with
  | nil => exact fun line member => absurd member List.not_mem_nil
  | cons item rest ih =>
    obtain ⟨heading, first, below, headedBy, -, -, marks, unmarked⟩ :=
      markLines_entry (entries item List.mem_cons_self) (entryLines rest)
    intro line member
    rw [entryLines_cons, marks] at member
    rcases List.mem_cons.mp member with rfl | member
    · exact ⟨rfl, rfl⟩
    rcases List.mem_cons.mp member with rfl | member
    · unfold MarkedLine.headingAt?
      rcases headedBy.level with three | four
      · simp [three]
      · simp [four]
    rcases List.mem_append.mp member with inBelow | inRest
    · unfold MarkedLine.headingAt?
      rw [unmarked line inBelow]
      exact ⟨rfl, rfl⟩
    · exact ih (fun other inside => entries other (List.mem_cons_of_mem _ inside)) line inRest

/-- The entries as the body of a section. -/
theorem joinParagraphs_entries {items : List FunctionItem} (entries : ∀ item ∈ items, IsEntry item)
    (nonempty : items ≠ []) :
    '\n' :: joinParagraphs (items.map (·.text)) = joinLines (entryLines items) := by
  cases items with
  | nil => exact absurd rfl nonempty
  | cons item rest =>
    obtain ⟨heading, -, headed⟩ := entries item List.mem_cons_self
    have laidRest : rest.map (·.text) = (rest.map (lines ·.text)).map joinLines := by
      rw [List.map_map]
      refine List.map_congr_left fun other member => ?_
      obtain ⟨_, -, headedOther⟩ := entries other (List.mem_cons_of_mem _ member)
      exact headedOther.laid.joined.symm
    have written : ∀ paragraph ∈ rest.map (lines ·.text), paragraph ≠ [] := by
      intro paragraph member
      obtain ⟨other, inRest, rfl⟩ := List.mem_map.mp member
      obtain ⟨_, -, headedOther⟩ := entries other (List.mem_cons_of_mem _ inRest)
      exact headedOther.lines_ne_nil
    have flat : (rest.map (lines ·.text)).flatMap ([] :: ·) = entryLines rest := List.flatMap_map ..
    rw [List.map_cons, laidRest, ← headed.laid.joined,
      joinParagraphs_joinLines _ headed.lines_ne_nil _ written, flat, entryLines_cons,
      joinLines_cons [] (List.append_ne_nil_of_left_ne_nil headed.lines_ne_nil _)]
    rfl

end Document

end ReferencePages
