/-
**Cutting a document into its parts.**

The reader of documents cuts the marked lines at the second title, at the headings of the second
level and at those of the third and fourth. The blank lines and rules that set parts apart
(`IsGap`) end up at the end of the part before them and are trimmed away:

* `groups_append`, `groups_cons`: groups of lines that follow unmarked lines, or a marked one;
* `trimLines_append_gap`, `addSection_append_gap`: a gap behind a part does not count;
* `foldl_groups`: sections with a separator before each are read as the sections by themselves;
* `parse_untitled`, `parse_titled`: a document whose marked lines are an opening, sections and a
  trailer is read section by section.
-/

import ReferencePages.Document
import ReferencePages.Proofs.Markdown.Passage

namespace ReferencePages

open Text Markdown

namespace Markdown

/-! ### Groups -/

section Groups

variable {α β : Type} {mark? : α → Option β}

/-- Elements that are not marked belong to what comes before the first group. -/
theorem groups_append {first : List α} (unmarked : ∀ a ∈ first, mark? a = none)
    (second : List α) :
    groups mark? (first ++ second) =
      (first ++ (groups mark? second).1, (groups mark? second).2) := by
  induction first with
  | nil => rfl
  | cons a rest ih =>
    rw [List.cons_append, groups, unmarked a List.mem_cons_self,
      ih fun b member => unmarked b (List.mem_cons_of_mem _ member)]
    rfl

theorem groups_unmarked {ls : List α} (unmarked : ∀ a ∈ ls, mark? a = none) :
    groups mark? ls = (ls, []) := by
  have whole := groups_append unmarked []
  rwa [List.append_nil, groups, List.append_nil] at whole

/-- A marked element starts a group. -/
theorem groups_cons {a : α} {key : β} (marks : mark? a = some key) (rest : List α) :
    groups mark? (a :: rest) =
      ([], ⟨key, a, (groups mark? rest).1⟩ :: (groups mark? rest).2) := by
  rw [groups, marks]

/-- What comes before the first group when unmarked elements are put behind a list. -/
theorem groups_append_fst (ls : List α) {gap : List α} (unmarked : ∀ a ∈ gap, mark? a = none) :
    (groups mark? (ls ++ gap)).1 = (groups mark? ls).1 ∨
      (groups mark? (ls ++ gap)).1 = (groups mark? ls).1 ++ gap := by
  induction ls with
  | nil =>
    rw [List.nil_append, groups_unmarked unmarked]
    exact Or.inr rfl
  | cons a rest ih =>
    rw [List.cons_append]
    cases marks : mark? a with
    | some key =>
      rw [groups_cons marks, groups_cons marks]
      exact Or.inl rfl
    | none =>
      have alone : ∀ b ∈ [a], mark? b = none := fun b member => by
        rwa [List.mem_singleton.mp member]
      rw [← List.singleton_append, ← List.singleton_append (l := rest), groups_append alone,
        groups_append alone]
      rcases ih with same | longer
      · exact Or.inl (by rw [same])
      · exact Or.inr (by rw [longer, List.append_assoc])

end Groups

end Markdown

namespace Document

/-! ### Trimmed lines -/

/-- Blank lines and rules at the end do not count. -/
theorem trimLines_append_gap (ls : List Line) {gap : List Line}
    (blank : ∀ line ∈ gap, isBlankOrRule line = true) : trimLines (ls ++ gap) = trimLines ls := by
  unfold trimLines
  rw [List.dropWhile_append]
  split
  · rename_i empty
    rw [List.isEmpty_iff] at empty
    rw [empty, List.reverse_nil, List.dropWhile_nil, List.reverse_nil, List.reverse_eq_nil_iff,
      List.dropWhile_eq_nil_iff]
    intro line member
    exact blank line (List.dropWhile_subset _ (List.mem_reverse.mp member))
  · rw [List.reverse_append, List.dropWhile_append_of_pos]
    exact fun line member => blank line (List.mem_reverse.mp member)

/-- Blank lines at the start do not count. -/
theorem trimLines_cons_blank {line : Line} (blank : allBlank line = true) (ls : List Line) :
    trimLines (line :: ls) = trimLines ls := by
  unfold trimLines
  rw [List.dropWhile_cons_of_pos blank]

/-- Lines that start with a line that is not blank and end with one that counts stay. -/
theorem trimLines_of_written {first : Line} {rest : List Line} (start : allBlank first = false)
    (written : ∀ last ∈ (first :: rest).getLast?, isBlankOrRule last = false) :
    trimLines (first :: rest) = first :: rest := by
  unfold trimLines
  rw [List.dropWhile_cons_of_neg (by simp [start])]
  obtain ⟨before, last, same⟩ :=
    (List.eq_nil_or_concat' (first :: rest)).resolve_left (List.cons_ne_nil _ _)
  have counts := written last (by rw [same]; exact List.getLast?_concat)
  rw [same, List.reverse_append, List.reverse_singleton, List.singleton_append,
    List.dropWhile_cons_of_neg (by simp [counts]), List.reverse_cons, List.reverse_reverse]

/-! ### Gaps -/

/-- Marked lines that only set parts apart: blank lines and rules. -/
def IsGap (gap : List MarkedLine) : Prop :=
  ∀ line ∈ gap, line.heading = none ∧ isBlankOrRule line.text = true

theorem IsGap.nil : IsGap [] := fun _ member => absurd member List.not_mem_nil

theorem IsGap.headingAt? {gap : List MarkedLine} (isGap : IsGap gap) (level : Nat) :
    ∀ line ∈ gap, line.headingAt? level = none := by
  intro line member
  unfold MarkedLine.headingAt?
  rw [(isGap line member).1]
  rfl

theorem IsGap.itemHeading? {gap : List MarkedLine} (isGap : IsGap gap) :
    ∀ line ∈ gap, itemHeading? line = none := by
  intro line member
  unfold Document.itemHeading?
  rw [(isGap line member).1]
  rfl

theorem trimLines_append_isGap (ls : List Line) {gap : List MarkedLine} (isGap : IsGap gap) :
    trimLines (ls ++ gap.map (·.text)) = trimLines ls := by
  refine trimLines_append_gap ls fun line member => ?_
  obtain ⟨marked, inside, rfl⟩ := List.mem_map.mp member
  exact (isGap marked inside).2

theorem partText_append_gap (ls gap : List MarkedLine) (isGap : IsGap gap) :
    partText ((ls ++ gap).map (·.text)) = partText (ls.map (·.text)) := by
  unfold partText
  rw [List.map_append, trimLines_append_isGap _ isGap]

theorem itemOf_append_gap (key : Heading) (head : MarkedLine) (body : List MarkedLine)
    {gap : List MarkedLine} (isGap : IsGap gap) :
    itemOf ⟨key, head, body ++ gap⟩ = itemOf ⟨key, head, body⟩ := by
  have same := partText_append_gap (head :: body) gap isGap
  simp only [itemOf, Group.all]
  rw [← List.cons_append, same]

/-- A gap behind the lines of the section of functions does not change its entries. -/
theorem readItems_append_gap (ls : List MarkedLine) {gap : List MarkedLine} (isGap : IsGap gap) :
    readItems (ls ++ gap) = readItems ls := by
  unfold readItems
  induction ls with
  | nil =>
    rw [List.nil_append, groups_unmarked isGap.itemHeading?]
    rfl
  | cons line rest ih =>
    rw [List.cons_append]
    cases marks : itemHeading? line with
    | some key =>
      rw [groups_cons marks, groups_cons marks, List.map_cons, List.map_cons, ih]
      congr 1
      rcases groups_append_fst rest isGap.itemHeading? with same | longer
      · rw [same]
      · rw [longer, itemOf_append_gap key line _ isGap]
    | none =>
      have alone : ∀ other ∈ [line], itemHeading? other = none := fun other member => by
        rwa [List.mem_singleton.mp member]
      rw [← List.singleton_append, ← List.singleton_append (l := rest), groups_append alone,
        groups_append alone]
      exact ih

/-- **A gap behind a section does not change what is read from it.** -/
theorem addSection_append_gap (document : Document) (key : Heading) (head : MarkedLine)
    (body : List MarkedLine) {gap : List MarkedLine} (isGap : IsGap gap) :
    addSection document ⟨key, head, body ++ gap⟩ = addSection document ⟨key, head, body⟩ := by
  have all := partText_append_gap (head :: body) gap isGap
  simp only [addSection, Group.all]
  rw [readItems_append_gap body isGap, List.map_append, trimLines_append_isGap _ isGap,
    ← List.cons_append, all]

/-! ### Sections -/

/-- A section of the second level, without other headings of the first two levels. -/
structure IsSection (group : Group MarkedLine Heading) : Prop where
  head : group.head.heading = some group.key
  level : group.key.level = 2
  body : ∀ line ∈ group.body, line.headingAt? 1 = none ∧ line.headingAt? 2 = none

theorem IsSection.headingAt?_head {group : Group MarkedLine Heading} (isSection : IsSection group) :
    group.head.headingAt? 2 = some group.key := by
  unfold MarkedLine.headingAt?
  rw [isSection.head, Option.filter_some, if_pos]
  rw [isSection.level]
  rfl

/-- The lines of a section hold no title. -/
theorem IsSection.untitled {group : Group MarkedLine Heading} (isSection : IsSection group) :
    ∀ line ∈ group.all, line.headingAt? 1 = none := by
  intro line member
  rcases List.mem_cons.mp member with rfl | inside
  · unfold MarkedLine.headingAt?
    rw [isSection.head, Option.filter_some, if_neg]
    rw [isSection.level]
    decide
  · exact (isSection.body line inside).1

/-- The lines between two sections. -/
def separator : List MarkedLine := [⟨[], none⟩, ⟨rule, none⟩, ⟨[], none⟩]

theorem isGap_separator : IsGap separator := by
  intro line member
  simp only [separator, List.mem_cons, List.not_mem_nil, or_false] at member
  rcases member with rfl | rfl | rfl <;> exact ⟨rfl, by decide⟩

/-- The sections of a document, a separator before each. -/
def separated (sections : List (Group MarkedLine Heading)) : List MarkedLine :=
  sections.flatMap fun group => separator ++ group.all

theorem separated_untitled {sections : List (Group MarkedLine Heading)}
    (isSection : ∀ group ∈ sections, IsSection group) :
    ∀ line ∈ separated sections, line.headingAt? 1 = none := by
  intro line member
  obtain ⟨group, inside, member⟩ := List.mem_flatMap.mp member
  exact (List.mem_append.mp member).elim (isGap_separator.headingAt? 1 line)
    ((isSection group inside).untitled line)

/-- **Sections with separators between them are read as the sections by themselves.** -/
theorem foldl_groups {sections : List (Group MarkedLine Heading)}
    (isSection : ∀ group ∈ sections, IsSection group) {gap : List MarkedLine} (isGap : IsGap gap) :
    ∃ before found, groups (·.headingAt? 2) (separated sections ++ gap) = (before, found) ∧
      IsGap before ∧
      ∀ document, found.foldl addSection document = sections.foldl addSection document := by
  induction sections with
  | nil =>
    refine ⟨gap, [], ?_, isGap, fun document => rfl⟩
    exact groups_unmarked (isGap.headingAt? 2)
  | cons group rest ih =>
    obtain ⟨before, found, split, isGapBefore, reads⟩ :=
      ih fun other member => isSection other (List.mem_cons_of_mem _ member)
    have here := isSection group List.mem_cons_self
    have below : ∀ line ∈ group.body, line.headingAt? 2 = none :=
      fun line member => (here.body line member).2
    have shape : separated (group :: rest) ++ gap =
        separator ++ group.head :: (group.body ++ (separated rest ++ gap)) := by
      simp only [separated, List.flatMap_cons, Group.all, List.append_assoc, List.cons_append]
    refine ⟨separator, ⟨group.key, group.head, group.body ++ before⟩ :: found, ?_,
      isGap_separator, fun document => ?_⟩
    · rw [shape, groups_append (isGap_separator.headingAt? 2), groups_cons here.headingAt?_head,
        groups_append below, split, List.append_nil]
    · rw [List.foldl_cons, List.foldl_cons, reads, addSection_append_gap _ _ _ _ isGapBefore]

/-! ### The second title -/

/-- The line is no title. -/
def isUntitled (line : MarkedLine) : Bool := ! (line.headingAt? 1).isSome

theorem isUntitled_of_none {line : MarkedLine} (none : line.headingAt? 1 = none) :
    isUntitled line = true := by
  unfold isUntitled
  rw [none]
  rfl

theorem cutSecondTitle_eq (lines : List MarkedLine) :
    cutSecondTitle lines =
      (lines.takeWhile isUntitled ++ (lines.dropWhile isUntitled).take 1 ++
          ((lines.dropWhile isUntitled).drop 1).takeWhile isUntitled,
        ((lines.dropWhile isUntitled).drop 1).dropWhile isUntitled) := rfl

theorem cutSecondTitle_untitled {lines : List MarkedLine}
    (untitled : ∀ line ∈ lines, line.headingAt? 1 = none) : cutSecondTitle lines = (lines, []) := by
  have passes : ∀ line ∈ lines, isUntitled line = true :=
    fun line member => isUntitled_of_none (untitled line member)
  rw [cutSecondTitle_eq, List.dropWhile_eq_nil_iff.mpr passes,
    List.takeWhile_eq_self_iff.mpr passes]
  simp

/-- The lines from a second title on are cut off. -/
theorem cutSecondTitle_titled {title : MarkedLine} {own trailer : List MarkedLine}
    (isTitle : (title.headingAt? 1).isSome = true)
    (untitled : ∀ line ∈ own, line.headingAt? 1 = none)
    (next : ∀ line ∈ trailer.head?, (line.headingAt? 1).isSome = true) :
    cutSecondTitle (title :: own ++ trailer) = (title :: own, trailer) := by
  have passes : ∀ line ∈ own, isUntitled line = true :=
    fun line member => isUntitled_of_none (untitled line member)
  have stopsHere : ¬ isUntitled title = true := by simp [isUntitled, isTitle]
  have stopsNext : trailer.takeWhile isUntitled = [] ∧ trailer.dropWhile isUntitled = trailer := by
    cases trailer with
    | nil => exact ⟨rfl, rfl⟩
    | cons line rest =>
      have stops : ¬ isUntitled line = true := by simp [isUntitled, next line rfl]
      exact ⟨List.takeWhile_cons_of_neg stops, List.dropWhile_cons_of_neg stops⟩
  rw [cutSecondTitle_eq, List.cons_append, List.dropWhile_cons_of_neg stopsHere,
    List.takeWhile_cons_of_neg stopsHere, List.take_succ_cons, List.take_zero, List.drop_succ_cons,
    List.drop_zero, List.takeWhile_append_of_pos passes, List.dropWhile_append_of_pos passes,
    stopsNext.1, stopsNext.2, List.append_nil]
  rfl

/-! ### Reading a document -/

/-- The document that an opening and a trailer make before any section is read. -/
def opened (title : Text) (opening trailer : List Line) : Document :=
  { title := title
    preamble := partText opening
    rows := []
    fields := []
    functions := []
    extra := []
    trailer := trimEnd (joinLines trailer) }

/-- **A document without a title** is read section by section. -/
theorem parse_untitled {t : Text} {opening gap : List MarkedLine}
    {sections : List (Group MarkedLine Heading)}
    (same : marked t = opening ++ (separated sections ++ gap))
    (unmarked : ∀ line ∈ opening, line.heading = none)
    (isSection : ∀ group ∈ sections, IsSection group) (isGap : IsGap gap) :
    parse t = sections.foldl addSection (opened [] (opening.map (·.text)) []) := by
  have untitled : ∀ line ∈ marked t, line.headingAt? 1 = none := by
    intro line member
    rw [same] at member
    rcases List.mem_append.mp member with inOpening | member
    · unfold MarkedLine.headingAt?
      rw [unmarked line inOpening]
      rfl
    · exact (List.mem_append.mp member).elim (separated_untitled isSection line)
        (isGap.headingAt? 1 line)
  have noTitle : titleOf (marked t) = [] := by
    unfold titleOf
    rw [List.findSome?_eq_none_iff.mpr untitled]
    rfl
  have above : ∀ line ∈ opening, line.headingAt? 2 = none := by
    intro line member
    unfold MarkedLine.headingAt?
    rw [unmarked line member]
    rfl
  obtain ⟨before, found, split, isGapBefore, reads⟩ := foldl_groups isSection isGap
  unfold parse
  simp only [cutSecondTitle_untitled untitled, noTitle]
  rw [same, groups_append above, split, partText_append_gap _ _ isGapBefore]
  exact reads _

/-- **A document with a title** is read section by section, up to a second title. -/
theorem parse_titled {t : Text} {title : MarkedLine} {heading : Heading}
    {opening gap trailer : List MarkedLine} {sections : List (Group MarkedLine Heading)}
    (same : marked t = title :: (opening ++ (separated sections ++ gap)) ++ trailer)
    (isTitle : title.heading = some heading) (level : heading.level = 1)
    (unmarked : ∀ line ∈ opening, line.heading = none)
    (isSection : ∀ group ∈ sections, IsSection group) (isGap : IsGap gap)
    (next : ∀ line ∈ trailer.head?, (line.headingAt? 1).isSome = true) :
    parse t = sections.foldl addSection
      (opened (unescape heading.text) ((title :: opening).map (·.text)) (trailer.map (·.text))) := by
  have found1 : title.headingAt? 1 = some heading := by
    unfold MarkedLine.headingAt?
    rw [isTitle, Option.filter_some, if_pos]
    rw [level]
    rfl
  have untitled : ∀ line ∈ opening ++ (separated sections ++ gap), line.headingAt? 1 = none := by
    intro line member
    rcases List.mem_append.mp member with inOpening | member
    · unfold MarkedLine.headingAt?
      rw [unmarked line inOpening]
      rfl
    · exact (List.mem_append.mp member).elim (separated_untitled isSection line)
        (isGap.headingAt? 1 line)
  have titleText : titleOf (marked t) = unescape heading.text := by
    unfold titleOf
    rw [same, List.cons_append, List.findSome?_cons, found1]
    rfl
  have above : ∀ line ∈ title :: opening, line.headingAt? 2 = none := by
    intro line member
    unfold MarkedLine.headingAt?
    rcases List.mem_cons.mp member with rfl | inOpening
    · rw [isTitle, Option.filter_some, if_neg]
      rw [level]
      decide
    · rw [unmarked line inOpening]
      rfl
  obtain ⟨before, found, split, isGapBefore, reads⟩ := foldl_groups isSection isGap
  unfold parse
  simp only [titleText]
  rw [same, cutSecondTitle_titled (by rw [found1]; rfl) untitled next]
  simp only
  rw [← List.cons_append, groups_append above, split, partText_append_gap _ _ isGapBefore]
  exact reads _

end Document

end ReferencePages
