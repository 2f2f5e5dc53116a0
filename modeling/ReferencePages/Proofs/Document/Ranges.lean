/-
**Documents are cut within their lines.**

The reader of documents cuts marked lines into groups. The same parts are cut out by the numbers of the
lines that headings stand on: a part runs from its heading up to the next heading of its kind, or up to the
end of what it is a part of. Such a cut is there only where its start is not beyond its end and its end not
beyond the last line.

* `slice?`: the elements between two numbers, if there are such elements;
* `mem_headingsFrom`, `pairwise_headingsFrom`: headings stand on different lines, in order, each of a level
  from one to six (`level_of_mem_headings`);
* `forall₂_groups`: every group is the slice from its heading up to the next one;
* `Document.parse?`, `merge?`, `renderContents?`: reading, merging and contents by line numbers, with every
  cut and every subtraction checked;
* `merge_in_range`: **no check fails, whatever the texts**, and what is read, merged and shown is the same.
-/

import ReferencePages.Contents
import ReferencePages.Inheritance
import ReferencePages.Proofs.Document.Parts

namespace ReferencePages

open Text Markdown

namespace Markdown

/-! ### Slices -/

section

variable {α : Type} {xs part : List α} {start stop : Nat}

/-- The elements from number `start` up to number `stop`. There are none when the range is reversed or
reaches beyond the list. -/
def slice? (xs : List α) (start stop : Nat) : Option (List α) :=
  if start ≤ stop ∧ stop ≤ xs.length then some ((xs.take stop).drop start) else none

theorem slice?_eq_some_iff : slice? xs start stop = some part ↔
    ∃ before after, xs = before ++ (part ++ after) ∧ before.length = start ∧
      start + part.length = stop := by
  constructor
  · intro same
    rw [slice?] at same
    split at same
    · rename_i inside
      cases same
      refine ⟨xs.take start, xs.drop stop, ?_, ?_, ?_⟩
      · have upTo : (xs.take stop).take start = xs.take start := by
          rw [List.take_take, min_eq_left inside.1]
        rw [← List.append_assoc, ← upTo, List.take_append_drop, List.take_append_drop]
      · rw [List.length_take]
        omega
      · rw [List.length_drop, List.length_take]
        omega
    · cases same
  · rintro ⟨before, after, rfl, rfl, rfl⟩
    rw [slice?, if_pos (by simp), ← List.append_assoc, ← List.length_append, List.take_left,
      List.drop_left]

/-- The first element of a slice is cut off. -/
theorem slice?_tail {a : α} (same : slice? xs start stop = some (a :: part)) :
    slice? xs (start + 1) stop = some part := by
  obtain ⟨before, after, rfl, rfl, rfl⟩ := slice?_eq_some_iff.mp same
  exact slice?_eq_some_iff.mpr ⟨before ++ [a], after, by simp, by simp, by rw [List.length_cons]; omega⟩

/-- The element in front of a slice is put in front of it. -/
theorem slice?_cons {a : α} {more : List α} {last : Nat}
    (isNext : slice? xs start last = some (a :: more))
    (same : slice? xs (start + 1) stop = some part) : slice? xs start stop = some (a :: part) := by
  obtain ⟨before, after, whole, rfl, -⟩ := slice?_eq_some_iff.mp isNext
  obtain ⟨before', after', whole', length, rfl⟩ := slice?_eq_some_iff.mp same
  have same : before' ++ (part ++ after') = before ++ [a] ++ (more ++ after) := by
    rw [← whole', whole]
    simp
  have upTo : before' = before ++ [a] := List.append_inj_left same (by simp [length])
  exact slice?_eq_some_iff.mpr
    ⟨before, after', by rw [whole', upTo]; simp, rfl, by rw [List.length_cons]; omega⟩

theorem slice?_empty (inside : slice? xs start stop = some part) : slice? xs start start = some [] := by
  obtain ⟨before, after, rfl, rfl, rfl⟩ := slice?_eq_some_iff.mp inside
  exact slice?_eq_some_iff.mpr ⟨before, part ++ after, rfl, rfl, rfl⟩

theorem slice?_map {β : Type} (f : α → β) (same : slice? xs start stop = some part) :
    slice? (xs.map f) start stop = some (part.map f) := by
  obtain ⟨before, after, rfl, rfl, rfl⟩ := slice?_eq_some_iff.mp same
  exact slice?_eq_some_iff.mpr ⟨before.map f, after.map f, by simp, by simp, by simp⟩

end

/-! ### Places of headings -/

theorem headingsFrom_append (pos : Nat) (first second : List MarkedLine) :
    headingsFrom pos (first ++ second) =
      headingsFrom pos first ++ headingsFrom (pos + first.length) second := by
  induction first generalizing pos with
  | nil => rfl
  | cons line rest ih =>
    rw [List.cons_append, headingsFrom, headingsFrom, ih, List.append_assoc, List.length_cons,
      Nat.add_right_comm, Nat.add_assoc]

/-- A heading stands among the lines. -/
theorem mem_headingsFrom {pos : Nat} {ls : List MarkedLine} {place : Heading × Nat}
    (member : place ∈ headingsFrom pos ls) :
    pos ≤ place.2 ∧ place.2 < pos + ls.length ∧ ∃ line ∈ ls, line.heading = some place.1 := by
  induction ls generalizing pos with
  | nil => cases member
  | cons line rest ih =>
    rw [headingsFrom, List.mem_append] at member
    rw [List.length_cons]
    rcases member with here | later
    · obtain ⟨heading, isHeading, rfl⟩ := List.mem_map.mp here
      exact ⟨le_rfl, by simp, line, List.mem_cons_self, Option.mem_toList.mp isHeading⟩
    · obtain ⟨above, below, other, inRest, isHeading⟩ := ih later
      exact ⟨by omega, by omega, other, List.mem_cons_of_mem _ inRest, isHeading⟩

theorem pairwise_headingsFrom (pos : Nat) (ls : List MarkedLine) :
    (headingsFrom pos ls).Pairwise fun first second => first.2 < second.2 := by
  induction ls generalizing pos with
  | nil => exact List.Pairwise.nil
  | cons line rest ih =>
    rw [headingsFrom, List.pairwise_append]
    refine ⟨?_, ih (pos + 1), fun first inFirst second inRest => ?_⟩
    · cases line.heading with
      | none => exact List.Pairwise.nil
      | some heading => exact List.pairwise_singleton _ _
    · obtain ⟨heading, -, rfl⟩ := List.mem_map.mp inFirst
      exact (mem_headingsFrom inRest).1

theorem level_of_heading? {line : Line} {heading : Heading} (same : heading? line = some heading) :
    1 ≤ heading.level ∧ heading.level ≤ 6 := by
  unfold heading? at same
  simp only at same
  split at same
  · cases same
  · rename_i inRange
    split at same
    · cases same
      rw [Bool.or_eq_true, not_or, beq_iff_eq, decide_eq_true_eq, maxLevel] at inRange
      exact ⟨Nat.one_le_iff_ne_zero.mpr inRange.1, Nat.le_of_not_lt inRange.2⟩
    · cases same

theorem level_of_mem_markLines {fence : Option Fence} {ls : List Line} {line : MarkedLine}
    {heading : Heading}
    (member : line ∈ markLines fence ls) (isHeading : line.heading = some heading) :
    1 ≤ heading.level ∧ heading.level ≤ 6 := by
  induction ls generalizing fence with
  | nil => cases member
  | cons first rest ih =>
    rw [markLines] at member
    rcases List.mem_cons.mp member with rfl | inRest
    · simp only at isHeading
      split at isHeading
      · exact level_of_heading? isHeading
      · cases isHeading
    · exact ih inRest

/-- The heading of a line when it is of the kind. -/
def headingOf? (kind : Heading → Bool) (line : MarkedLine) : Option Heading := line.heading.filter kind

/-- The headings of a kind, with their line numbers. -/
def placesFrom (kind : Heading → Bool) (pos : Nat) (ls : List MarkedLine) : List (Heading × Nat) :=
  (headingsFrom pos ls).filter fun place => kind place.1

theorem placesFrom_cons (kind : Heading → Bool) (pos : Nat) (line : MarkedLine)
    (rest : List MarkedLine) :
    placesFrom kind pos (line :: rest) =
      ((headingOf? kind line).toList.map fun heading => (heading, pos)) ++
        placesFrom kind (pos + 1) rest := by
  unfold placesFrom headingOf?
  rw [headingsFrom, List.filter_append]
  cases line.heading with
  | none => rfl
  | some heading => cases isKind : kind heading <;> simp [isKind, Option.filter_some]

/-- The headings of a kind in a slice are those of the whole list that stand in its range. -/
theorem filter_headingsFrom {all part : List MarkedLine} {start stop : Nat}
    (isSlice : slice? all start stop = some part) (kind : Heading → Bool) :
    (headingsFrom 0 all).filter (fun place => start ≤ place.2 && place.2 < stop && kind place.1) =
      placesFrom kind start part := by
  obtain ⟨before, after, rfl, rfl, rfl⟩ := slice?_eq_some_iff.mp isSlice
  rw [headingsFrom_append, headingsFrom_append, List.filter_append, List.filter_append, Nat.zero_add]
  have above : (headingsFrom 0 before).filter (fun place => before.length ≤ place.2 &&
      place.2 < before.length + part.length && kind place.1) = [] := by
    refine List.filter_eq_nil_iff.mpr fun place member => ?_
    have inside := (mem_headingsFrom member).2.1
    simp
    omega
  have below : (headingsFrom (before.length + part.length) after).filter (fun place =>
      before.length ≤ place.2 && place.2 < before.length + part.length && kind place.1) = [] := by
    refine List.filter_eq_nil_iff.mpr fun place member => ?_
    have inside := (mem_headingsFrom member).1
    simp
    omega
  rw [above, below, List.nil_append, List.append_nil]
  refine List.filter_congr fun place member => ?_
  obtain ⟨first, last, -⟩ := mem_headingsFrom member
  simp [first, last]

/-! ### Groups as slices -/

/-- Where a part ends: at the first one of the headings below it, or at `stop`. -/
def nextLine (stop : Nat) (below : List (Heading × Nat)) : Nat := (below.head?.map (·.2)).getD stop

/-- Each heading with the line that its part ends at. -/
def withStops (stop : Nat) : List (Heading × Nat) → List ((Heading × Nat) × Nat)
  | [] => []
  | place :: below => (place, nextLine stop below) :: withStops stop below

/-- The group is cut out from its heading up to the line that its part ends at. -/
structure IsCut (all : List MarkedLine) (group : Group MarkedLine Heading)
    (range : (Heading × Nat) × Nat) : Prop where
  key : group.key = range.1.1
  whole : slice? all range.1.2 range.2 = some group.all
  body : slice? all (range.1.2 + 1) range.2 = some group.body

/-- **Groups are slices.** What stands before the first group runs up to the first heading of the kind, and
a group from its heading up to the next one. -/
theorem forall₂_groups {all part : List MarkedLine} {start stop : Nat}
    (isSlice : slice? all start stop = some part) (kind : Heading → Bool) :
    slice? all start (nextLine stop (placesFrom kind start part)) =
        some (groups (headingOf? kind) part).1 ∧
      List.Forall₂ (IsCut all) (groups (headingOf? kind) part).2
        (withStops stop (placesFrom kind start part)) := by
  induction part generalizing start with
  | nil => exact ⟨isSlice, List.Forall₂.nil⟩
  | cons line rest ih =>
    obtain ⟨isBefore, areCuts⟩ := ih (slice?_tail isSlice)
    have whole := slice?_cons isSlice isBefore
    rw [placesFrom_cons]
    cases marks : headingOf? kind line with
    | none =>
      rw [groups, marks]
      exact ⟨whole, areCuts⟩
    | some heading =>
      rw [groups_cons marks]
      exact ⟨slice?_empty isSlice, .cons ⟨rfl, whole, isBefore⟩ areCuts⟩

theorem forall₂_mapM {α β : Type} {f : α → Option β} {xs : List α} {ys : List β}
    (each : List.Forall₂ (fun x y => f x = some y) xs ys) : xs.mapM f = some ys := by
  induction each with
  | nil => rfl
  | cons same _ ih =>
    rw [List.mapM_cons, same, ih]
    rfl

theorem forall₂_foldlM {α β γ : Type} {R : β → α → Prop} {f : γ → α → Option γ} {g : γ → β → γ}
    {xs : List α} {ys : List β} (each : List.Forall₂ R ys xs)
    (step : ∀ {y x}, R y x → ∀ c, f c x = some (g c y)) (c : γ) :
    xs.foldlM f c = some (ys.foldl g c) := by
  induction each generalizing c with
  | nil => rfl
  | cons same _ ih =>
    rw [List.foldlM_cons, step same]
    exact ih _

end Markdown

/-! ### Documents by line numbers -/

namespace Document

/-- The level of a heading that starts an entry of the section of functions. -/
def isItemLevel (heading : Heading) : Bool := heading.level == 3 || heading.level == 4

/-- The entries of the section of functions in the lines from `start` up to `stop`. -/
def readItems? (ls : List Line) (places : List (Heading × Nat)) (start stop : Nat) :
    Option (List FunctionItem) :=
  let marks := places.filter fun place => start ≤ place.2 && place.2 < stop && isItemLevel place.1
  (withStops stop marks).mapM fun range => do
    let text := partText (← slice? ls range.1.2 range.2)
    return if range.1.1.level == 4 then .function (unescape range.1.1.text) text else .heading text

/-- The document with the section of the second level that its heading and its range cut out. -/
def addSection? (ls : List Line) (places : List (Heading × Nat)) (document : Document)
    (range : (Heading × Nat) × Nat) : Option Document := do
  let title := unescape range.1.1.text
  let body := trimLines (← slice? ls (range.1.2 + 1) range.2)
  if title = variablesTitle then return { document with rows := readRows body }
  else if title = fieldsTitle then return { document with fields := readBullets body }
  else if title = functionsTitle then
    return { document with functions := ← readItems? ls places (range.1.2 + 1) range.2 }
  else return { document with extra := document.extra ++ [partText (← slice? ls range.1.2 range.2)] }

/-- The parts of a text, cut out by the numbers of its lines. -/
def parse? (t : Text) : Option Document := do
  let ls := lines t
  let places := headings t
  let titles := places.filter fun place => place.1.level == 1
  let stop := nextLine ls.length (titles.drop 1)
  let sections := places.filter fun place => place.1.level == 2 && place.2 < stop
  let preamble ← slice? ls 0 (nextLine stop sections)
  let trailer ← slice? ls stop ls.length
  (withStops stop sections).foldlM (addSection? ls places)
    { title := (titles.head?.map fun place => unescape place.1.text).getD []
      preamble := partText preamble
      rows := []
      fields := []
      functions := []
      extra := []
      trailer := trimEnd (joinLines trailer) }

/-- **The entries of a slice** are cut out of it. -/
theorem readItems?_eq {all part : List MarkedLine} {start stop : Nat}
    (isSlice : slice? all start stop = some part) :
    readItems? (all.map (·.text)) (headingsFrom 0 all) start stop = some (readItems part) := by
  have areItems : readItems part = (groups (headingOf? isItemLevel) part).2.map itemOf := rfl
  have areCuts := (forall₂_groups isSlice isItemLevel).2
  unfold readItems?
  simp only
  rw [filter_headingsFrom isSlice isItemLevel, areItems]
  refine forall₂_mapM (List.forall₂_map_right_iff.mpr (areCuts.flip.imp fun range group isCut => ?_))
  rw [slice?_map (·.text) isCut.whole, itemOf, isCut.key]
  rfl

/-- **The section that is cut out is the group.** -/
theorem addSection?_eq {all : List MarkedLine} {group : Group MarkedLine Heading}
    {range : (Heading × Nat) × Nat} (isCut : IsCut all group range) (document : Document) :
    addSection? (all.map (·.text)) (headingsFrom 0 all) document range =
      some (document.addSection group) := by
  unfold addSection? addSection
  simp only [slice?_map (·.text) isCut.body, slice?_map (·.text) isCut.whole, readItems?_eq isCut.body,
    isCut.key, Option.bind_eq_bind, Option.bind_some]
  split_ifs <;> rfl

/-! ### Titles -/

/-- The level of a title. -/
def isTitleLevel (heading : Heading) : Bool := heading.level == 1

theorem cutSecondTitle_append (ls : List MarkedLine) :
    (cutSecondTitle ls).1 ++ (cutSecondTitle ls).2 = ls := by
  rw [cutSecondTitle_eq, List.append_assoc, List.append_assoc, List.takeWhile_append_dropWhile,
    List.take_append_drop, List.takeWhile_append_dropWhile]

/-- A line that is no title goes to the lines before the second title. -/
theorem cutSecondTitle_cons {line : MarkedLine} (untitled : headingOf? isTitleLevel line = none)
    (rest : List MarkedLine) : (cutSecondTitle (line :: rest)).1 = line :: (cutSecondTitle rest).1 := by
  have passes : isUntitled line = true := isUntitled_of_none untitled
  rw [cutSecondTitle_eq, cutSecondTitle_eq, List.takeWhile_cons_of_pos passes,
    List.dropWhile_cons_of_pos passes]
  rfl

/-- A title ends the lines before it. -/
theorem not_isUntitled {line : MarkedLine} {heading : Heading}
    (isTitle : headingOf? isTitleLevel line = some heading) : ¬ isUntitled line = true := by
  have marked : line.headingAt? 1 = some heading := isTitle
  simp [isUntitled, marked]

theorem nextLine_titles {pos stop : Nat} {ls : List MarkedLine} (isStop : pos + ls.length = stop) :
    nextLine stop (placesFrom isTitleLevel pos ls) = pos + (ls.takeWhile isUntitled).length := by
  induction ls generalizing pos with
  | nil => exact isStop.symm
  | cons line rest ih =>
    rw [List.length_cons] at isStop
    rw [placesFrom_cons]
    cases isTitle : headingOf? isTitleLevel line with
    | none =>
      rw [List.takeWhile_cons_of_pos (isUntitled_of_none isTitle), List.length_cons]
      exact (ih (by omega)).trans (by omega)
    | some heading =>
      rw [List.takeWhile_cons_of_neg (not_isUntitled isTitle)]
      rfl

theorem nextLine_secondTitle {pos stop : Nat} {ls : List MarkedLine} (isStop : pos + ls.length = stop) :
    nextLine stop ((placesFrom isTitleLevel pos ls).drop 1) = pos + (cutSecondTitle ls).1.length := by
  induction ls generalizing pos with
  | nil => exact isStop.symm
  | cons line rest ih =>
    rw [List.length_cons] at isStop
    rw [placesFrom_cons]
    cases isTitle : headingOf? isTitleLevel line with
    | none =>
      rw [cutSecondTitle_cons isTitle, List.length_cons]
      exact (ih (by omega)).trans (by omega)
    | some heading =>
      have stops := not_isUntitled isTitle
      have below : nextLine stop (placesFrom isTitleLevel (pos + 1) rest) = _ := nextLine_titles (by omega)
      rw [cutSecondTitle_eq, List.takeWhile_cons_of_neg stops, List.dropWhile_cons_of_neg stops]
      refine below.trans ?_
      simp
      omega

/-- The lines before a second title, and the lines from it on, are slices. -/
theorem cutSecondTitle_slices {ls : List MarkedLine} {stop : Nat}
    (isStop : nextLine ls.length ((placesFrom isTitleLevel 0 ls).drop 1) = stop) :
    slice? ls 0 stop = some (cutSecondTitle ls).1 ∧
      slice? ls stop ls.length = some (cutSecondTitle ls).2 := by
  have second := isStop.symm.trans (nextLine_secondTitle (Nat.zero_add ls.length))
  rw [Nat.zero_add] at second
  have whole := cutSecondTitle_append ls
  have lengths := congrArg List.length whole
  rw [List.length_append] at lengths
  refine ⟨slice?_eq_some_iff.mpr ⟨[], (cutSecondTitle ls).2, whole.symm, rfl, ?_⟩,
    slice?_eq_some_iff.mpr ⟨(cutSecondTitle ls).1, [], ?_, second.symm, ?_⟩⟩
  · omega
  · rw [List.append_nil, whole]
  · omega

theorem findSome?_title (pos : Nat) (ls : List MarkedLine) :
    ls.findSome? (·.headingAt? 1) = (placesFrom isTitleLevel pos ls).head?.map (·.1) := by
  induction ls generalizing pos with
  | nil => rfl
  | cons line rest ih =>
    have isMark : line.headingAt? 1 = headingOf? isTitleLevel line := rfl
    rw [placesFrom_cons, List.findSome?_cons, isMark]
    cases headingOf? isTitleLevel line with
    | none => exact ih (pos + 1)
    | some heading => rfl

/-- **A text is read by line numbers as it is by groups**, so every cut is there. -/
theorem parse?_eq (t : Text) : parse? t = some (parse t) := by
  have texts : (marked t).map (·.text) = lines t := map_text_markLines none (lines t)
  have count : (lines t).length = (marked t).length := by rw [← texts, List.length_map]
  -- The second title and the headings of the sections above it.
  generalize isStop : nextLine (marked t).length ((placesFrom isTitleLevel 0 (marked t)).drop 1) = stop
  obtain ⟨own, trailer⟩ := cutSecondTitle_slices isStop
  have stops : nextLine (lines t).length (((headings t).filter fun place => place.1.level == 1).drop 1) =
      stop := by
    rw [count]
    exact isStop
  have sections : (headings t).filter (fun place => place.1.level == 2 && place.2 < stop) =
      placesFrom (·.level == 2) 0 (cutSecondTitle (marked t)).1 := by
    rw [← filter_headingsFrom own]
    exact List.filter_congr fun place _ => by simp [Bool.and_comm]
  have isTitle : titleOf (marked t) =
      (((headings t).filter fun place => place.1.level == 1).head?.map fun place =>
        unescape place.1.text).getD [] := by
    rw [titleOf, findSome?_title 0, Option.map_map]
    rfl
  obtain ⟨preamble, areCuts⟩ := forall₂_groups own (·.level == 2)
  have preamble := slice?_map (·.text) preamble
  have trailer := slice?_map (·.text) trailer
  rw [texts] at preamble trailer
  rw [← count] at trailer
  unfold parse? parse
  simp only
  rw [stops, sections, preamble, Option.bind_eq_bind, Option.bind_some, trailer, Option.bind_some,
    ← isTitle, ← texts]
  exact forall₂_foldlM areCuts (fun isCut document => addSection?_eq isCut document) _

end Document

/-! ### Merging and contents -/

/-- The document with its functions arranged, cut out by line numbers. -/
def Document.arranged? (document : Document) (plan : Option Plan) : Option (Document × List Warning) :=
  if (planned? plan document.title).isSome then do
    let (body, warnings) := arrange document.title document.functionBlocks plan
    let functions ← Document.readItems? (lines body) (headings body) 0 (lines body).length
    return ({ document with functions := functions }, warnings)
  else return (document, [])

/-- The page of a class with the members it inherits, with every text read by line numbers. -/
def merge? (child : Text) (parents : List Text) (plan : Option Plan) :
    Option (Page × List Warning) := do
  let document ← Document.parse? child
  let inherited ← parents.mapM Document.parse?
  let (shown, warnings) ← (document.inheritFrom inherited).arranged? plan
  return (Page.ofText shown.render, warnings)

/-- The entries as a nested list, if no entry stands further out than the shallowest one. -/
def renderContents? (entries : List ContentsEntry) : Option Text := do
  let items ← entries.mapM fun entry =>
    if shallowest entries ≤ entry.level then
      some (List.replicate (2 * (entry.level - shallowest entries)) ' ' ++
        linkItem entry.title ('#' :: entry.anchor) ++ ['\n'])
    else none
  return items.flatten

theorem Document.arranged?_eq (document : Document) (plan : Option Plan) :
    document.arranged? plan = some (document.arranged plan) := by
  unfold Document.arranged? Document.arranged
  split
  · generalize arrange document.title document.functionBlocks plan = arranged
    obtain ⟨body, warnings⟩ := arranged
    have texts : (marked body).map (·.text) = lines body := map_text_markLines none (lines body)
    have all : slice? (marked body) 0 (lines body).length = some (marked body) :=
      slice?_eq_some_iff.mpr
        ⟨[], [], (List.append_nil _).symm, rfl, by rw [← texts, List.length_map]; omega⟩
    have items := Document.readItems?_eq all
    rw [texts] at items
    simp only
    rw [show headings body = headingsFrom 0 (marked body) from rfl, items]
    rfl
  · rfl

theorem merge?_eq (child : Text) (parents : List Text) (plan : Option Plan) :
    merge? child parents plan = some (merge child parents plan) := by
  have inherited : parents.mapM Document.parse? = some (parents.map Document.parse) :=
    forall₂_mapM (List.forall₂_map_right_iff.mpr (List.forall₂_same.mpr fun t _ => Document.parse?_eq t))
  unfold merge?
  simp only [Document.parse?_eq, inherited, Document.arranged?_eq, Option.bind_eq_bind,
    Option.bind_some]
  rfl

theorem shallowest_le {entries : List ContentsEntry} {entry : ContentsEntry}
    (member : entry ∈ entries) :
    shallowest entries ≤ entry.level :=
  List.min?_getD_le_of_mem (List.mem_map_of_mem member)

theorem renderContents?_eq (entries : List ContentsEntry) :
    renderContents? entries = some (renderContents entries) := by
  unfold renderContents?
  rw [forall₂_mapM (List.forall₂_map_right_iff.mpr (List.forall₂_same.mpr fun entry member =>
    if_pos (shallowest_le member)))]
  exact congrArg some List.flatMap_def.symm

/-- **No heading, no cut and no subtraction goes out of range.** The headings of a text stand on different
lines, in order, and are of levels from one to six; reading a text, merging texts and showing contents with
every bound checked gives what they give unchecked. -/
theorem merge_in_range :
    (∀ t, (headings t).Pairwise (fun first second => first.2 < second.2) ∧
      ∀ place ∈ headings t, place.2 < (lines t).length ∧ 1 ≤ place.1.level ∧ place.1.level ≤ 6) ∧
    (∀ t, Document.parse? t = some (Document.parse t)) ∧
    (∀ child parents plan, merge? child parents plan = some (merge child parents plan)) ∧
    ∀ entries, renderContents? entries = some (renderContents entries) := by
  refine ⟨fun t => ⟨pairwise_headingsFrom 0 _, fun place member => ?_⟩, Document.parse?_eq, merge?_eq,
    renderContents?_eq⟩
  obtain ⟨-, below, line, inLines, isHeading⟩ := mem_headingsFrom member
  have count : (marked t).length = (lines t).length := by
    rw [← map_text_markLines none (lines t), List.length_map]
    rfl
  rw [Nat.zero_add, count] at below
  exact ⟨below, level_of_mem_markLines inLines isHeading⟩

end ReferencePages
