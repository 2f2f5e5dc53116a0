/-
**Renamed calls are read as before.**

Calls are renamed behind `**` and a backtick, so a line with renamed calls starts and ends as
before: it opens the same fences, becomes no heading and no rule (`SameLine`).

* `sameLine_renameCalls`: a line with renamed calls;
* `renameCalls_joinLines`, `lines_renameCalls`: calls are renamed line by line;
* `map_heading_markLines`: lines that are read alike are the same headings, when headings stay as they
  are. So they make a passage again (`Passage.map`);
* `Headed.renameCalls`: **a text below a heading stays one when its calls are renamed**.
-/

import ReferencePages.Inheritance
import ReferencePages.Proofs.Document.Trimmed
import ReferencePages.Proofs.Document.WellLaid

namespace ReferencePages

open Text Markdown

/-! ### Lines that a star is in -/

theorem marks_star (fence : Fence) (start rest : Text) :
    fence.marks (start ++ '*' :: rest) = fence.marks start := by
  have other : '*' ∉ fence.mark := by
    cases fence with
    | backticks => decide
    | tildes => decide
  have trimmed : trimStart (start ++ '*' :: rest) = trimStart start ++ '*' :: rest := by
    unfold trimStart
    rw [List.dropWhile_append]
    split
    · rename_i empty
      rw [List.isEmpty_iff.mp empty]
      exact List.dropWhile_cons_of_neg (by decide)
    · rfl
  unfold Fence.marks
  rw [trimmed, opensWith_append_cons other]

theorem takeWhile_star (start rest : Text) :
    (start ++ '*' :: rest).takeWhile (· == '#') = start.takeWhile (· == '#') := by
  induction start with
  | nil => rfl
  | cons c start ih => rw [List.cons_append, List.takeWhile_cons, List.takeWhile_cons, ih]

/-- Whether a line is a heading is settled before its first star. -/
theorem heading?_star (start first second : Text)
    (noHeading : heading? (start ++ '*' :: first) = none) :
    heading? (start ++ '*' :: second) = none := by
  have next : ∀ rest : Text, (start ++ '*' :: rest).drop (start.takeWhile (· == '#')).length =
      start.drop (start.takeWhile (· == '#')).length ++ '*' :: rest := by
    intro rest
    exact List.drop_append_of_le_length (List.takeWhile_sublist _).length_le
  have head : ∀ more rest : Text, (more ++ '*' :: rest).head? = some (more.headD '*') := by
    intro more rest
    cases more with
    | nil => rfl
    | cons c more => rfl
  have shown : ∀ more rest : Text, (more ++ '*' :: rest).isEmpty = false := by
    intro more rest
    rw [List.isEmpty_eq_false_iff]
    exact List.append_ne_nil_of_right_ne_nil _ (List.cons_ne_nil _ _)
  unfold heading? at noHeading ⊢
  simp only [takeWhile_star, next, head, shown] at noHeading ⊢
  split at noHeading
  · rename_i level
    rw [if_pos level]
  · rename_i level
    rw [if_neg level]
    split at noHeading
    · cases noHeading
    · rename_i notHeading
      rw [if_neg notHeading]

theorem mem_trim {t : Text} {c : Char} (member : c ∈ t) (notBlank : isBlank c = false) :
    c ∈ trim t := by
  have keeps : ∀ s : Text, c ∈ s → c ∈ s.dropWhile isBlank := by
    intro s inside
    rw [← List.takeWhile_append_dropWhile (p := isBlank) (l := s), List.mem_append] at inside
    refine inside.resolve_left fun taken => ?_
    rw [List.mem_takeWhile_imp taken] at notBlank
    cases notBlank
  unfold trim trimEnd dropEndWhile trimStart
  rw [List.mem_reverse]
  exact keeps _ (List.mem_reverse.mpr (keeps _ member))

/-- A line with a backtick is neither blank nor a rule. -/
theorem isBlankOrRule_of_backtick {line : Line} (member : '\x60' ∈ line) :
    Document.isBlankOrRule line = false := by
  have inside := mem_trim member (by decide)
  unfold Document.isBlankOrRule
  rw [Bool.or_eq_false_iff]
  refine ⟨?_, ?_⟩
  · by_contra blank
    rw [Bool.not_eq_false] at blank
    have all := List.all_eq_true.mp blank _ member
    exact absurd all (by decide)
  · rw [decide_eq_false_iff_not]
    intro isRule
    rw [isRule] at inside
    exact absurd inside (by decide)

/-! ### Lines that are read alike -/

/-- The second line can stand for the first: it ends alike and opens the same fences, and it is no
heading, blank line or rule when the first is none. -/
structure SameLine (line other : Line) : Prop where
  unbroken : '\n' ∉ line → '\n' ∉ other
  last : other.getLast? = line.getLast?
  marks : ∀ fence : Fence, fence.marks other = fence.marks line
  heading : heading? line = none → heading? other = none
  written : Document.isBlankOrRule line = false → Document.isBlankOrRule other = false

theorem SameLine.refl (line : Line) : SameLine line line :=
  ⟨id, rfl, fun _ => rfl, id, id⟩

theorem SameLine.trans {first second third : Line} (one : SameLine first second)
    (two : SameLine second third) : SameLine first third :=
  ⟨fun unbroken => two.unbroken (one.unbroken unbroken), two.last.trans one.last,
    fun fence => (two.marks fence).trans (one.marks fence),
    fun none => two.heading (one.heading none), fun written => two.written (one.written written)⟩

theorem SameLine.isLine {line other : Line} (same : SameLine line other) (isLine : IsLine line) :
    IsLine other :=
  ⟨same.unbroken isLine.unbroken, by rw [same.last]; exact isLine.noReturn⟩

theorem callOpening_eq (name : Text) (mark : Char) :
    callOpening name mark = ['*', '*', '\x60'] ++ (name ++ [mark]) := rfl

theorem callOpening_ne_nil (name : Text) (mark : Char) : callOpening name mark ≠ [] :=
  List.cons_ne_nil _ _

theorem not_mem_callOpening {name : Text} {mark : Char} (unbroken : '\n' ∉ name)
    (noBreak : mark ≠ '\n') : '\n' ∉ callOpening name mark := by
  rw [callOpening_eq, List.mem_append, List.mem_append, List.mem_singleton]
  rintro (inLead | inName | isMark)
  · exact absurd inLead (by decide)
  · exact unbroken inName
  · exact noBreak isMark.symm

/-- The line with one kind of calls renamed. -/
theorem sameLine_replaceAll {mark : Char} (noBreak : mark ≠ '\n') {child : Text}
    (unbroken : '\n' ∉ child) (parent : Text) (line : Line) :
    SameLine line (replaceAll (callOpening parent mark) (callOpening child mark) line) := by
  have nonempty := callOpening_ne_nil parent mark
  have alike : (callOpening child mark).getLast? = (callOpening parent mark).getLast? := by
    unfold callOpening
    rw [List.getLast?_concat, List.getLast?_concat]
  have unbrokenLine : '\n' ∉ line → '\n' ∉ replaceAll _ _ line :=
    not_mem_replaceAll nonempty (not_mem_callOpening unbroken noBreak)
  have last := getLast?_replaceAll nonempty alike line
  rw [callOpening_eq, callOpening_eq] at unbrokenLine last ⊢
  rcases replaceAll_shape (List.cons_ne_nil '*' ['*', '\x60']) (parent ++ [mark]) (child ++ [mark])
    line with same | ⟨before, after, shown, split, starts⟩
  · rw [same]
    exact SameLine.refl line
  · rw [starts] at unbrokenLine last ⊢
    subst split
    refine ⟨unbrokenLine, last, fun fence => ?_, fun noHeading => ?_, fun _ => ?_⟩
    · exact (marks_star fence before _).trans (marks_star fence before _).symm
    · exact heading?_star before _ _ noHeading
    · exact isBlankOrRule_of_backtick (by simp)

/-! ### Renamed calls -/

section RenameCalls

variable {parent child : Text}

/-- **A line with renamed calls is read as before.** -/
theorem sameLine_renameCalls (unbroken : '\n' ∉ child) (parent : Text) (line : Line) :
    SameLine line (renameCalls line parent child) := by
  unfold renameCalls
  split
  · exact SameLine.refl line
  · exact (sameLine_replaceAll (by decide) unbroken parent line).trans
      (sameLine_replaceAll (by decide) unbroken parent _)

/-- A text without backticks holds no call. -/
theorem renameCalls_of_not_mem {t : Text} (noBacktick : '\x60' ∉ t) (parent child : Text) :
    renameCalls t parent child = t := by
  have inOpening : ∀ mark, '\x60' ∈ callOpening parent mark := by
    intro mark
    rw [callOpening_eq]
    simp
  unfold renameCalls
  rw [replaceAll_of_not_mem (inOpening '(') noBacktick,
    replaceAll_of_not_mem (inOpening '.') noBacktick, ite_self]

/-- **Calls are renamed line by line.** -/
theorem renameCalls_joinLines (unbroken : '\n' ∉ parent) (ls : List Line) :
    renameCalls (joinLines ls) parent child =
      joinLines (ls.map fun line => renameCalls line parent child) := by
  have lineByLine : ∀ mark new, mark ≠ '\n' → ∀ ls : List Line,
      replaceAll (callOpening parent mark) new (joinLines ls) =
        joinLines (ls.map (replaceAll (callOpening parent mark) new)) := by
    intro mark new noBreak ls
    exact replaceAll_joinLines (callOpening_ne_nil _ _) (not_mem_callOpening unbroken noBreak) ls
  unfold renameCalls
  by_cases same : (parent.isEmpty || child.isEmpty || decide (parent = child)) = true
  · simp only [if_pos same, List.map_id']
  · simp only [if_neg same]
    rw [lineByLine '(' _ (by decide), lineByLine '.' _ (by decide), List.map_map]
    rfl

theorem renameCalls_concat_return (t parent child : Text) :
    renameCalls (t ++ ['\r']) parent child = renameCalls t parent child ++ ['\r'] := by
  have other : ∀ mark, mark ≠ '\r' → (callOpening parent mark).getLast? ≠ some '\r' := by
    intro mark noReturn
    rw [callOpening, List.getLast?_concat]
    simpa using noReturn
  unfold renameCalls
  split
  · rfl
  · rw [replaceAll_concat (callOpening_ne_nil _ _) (other '(' (by decide)),
      replaceAll_concat (callOpening_ne_nil _ _) (other '.' (by decide))]

theorem dropReturn_renameCalls (unbroken : '\n' ∉ child) (parent : Text) (line : Line) :
    dropReturn (renameCalls line parent child) = renameCalls (dropReturn line) parent child := by
  unfold dropReturn
  rw [(sameLine_renameCalls unbroken parent line).last]
  split
  · rename_i ends
    obtain ⟨before, rfl⟩ := List.getLast?_eq_some_iff.mp ends
    rw [renameCalls_concat_return, List.dropLast_concat, List.dropLast_concat]
  · rfl

theorem isEmpty_renameCalls (unbroken : '\n' ∉ child) (parent : Text) (line : Line) :
    (renameCalls line parent child).isEmpty = line.isEmpty := by
  rw [Bool.eq_iff_iff, List.isEmpty_iff, List.isEmpty_iff, ← List.getLast?_eq_none_iff,
    (sameLine_renameCalls unbroken parent line).last, List.getLast?_eq_none_iff]

/-- **The lines of a text with renamed calls** are its lines with renamed calls. -/
theorem lines_renameCalls (unbrokenParent : '\n' ∉ parent) (unbrokenChild : '\n' ∉ child) (t : Text) :
    lines (renameCalls t parent child) = (lines t).map fun line => renameCalls line parent child := by
  have unbroken : ∀ line ∈ t.splitOn '\n', '\n' ∉ renameCalls line parent child := fun line member =>
    (sameLine_renameCalls unbrokenChild parent line).unbroken (not_mem_of_mem_splitOn member)
  have pieces : (renameCalls t parent child).splitOn '\n' =
      (t.splitOn '\n').map fun line => renameCalls line parent child := by
    have joined : joinLines (t.splitOn '\n') = t := List.intercalate_splitOn '\n'
    conv_lhs => rw [← joined, renameCalls_joinLines unbrokenParent]
    refine List.splitOn_intercalate '\n' (List.forall_mem_map.mpr unbroken) ?_
    simp
  obtain ⟨before, last, split⟩ :=
    (List.eq_nil_or_concat' (t.splitOn '\n')).resolve_left (List.splitOn_ne_nil _ _)
  unfold lines
  simp only [pieces, split, List.map_append, List.map_singleton, List.dropLast_concat,
    List.getLast?_concat, Option.toList_some, List.map_map]
  congr 1
  · exact List.map_congr_left fun line _ => dropReturn_renameCalls unbrokenChild parent line
  · rw [List.filter_singleton, List.filter_singleton, isEmpty_renameCalls unbrokenChild]
    cases last.isEmpty <;> rfl

theorem endsWritten_renameCalls (unbroken : '\n' ∉ child) {t : Text} (written : EndsWritten t) :
    EndsWritten (renameCalls t parent child) := by
  obtain ⟨before, c, same, notBlank⟩ := written
  have last : (renameCalls t parent child).getLast? = some c := by
    rw [(sameLine_renameCalls unbroken parent t).last, same, List.getLast?_concat]
  obtain ⟨above, shown⟩ := List.getLast?_eq_some_iff.mp last
  exact ⟨above, c, shown, notBlank⟩

end RenameCalls

/-! ### Passages and headed texts -/

theorem isProse_congr {line other : Line}
    (marks : ∀ fence : Fence, fence.marks other = fence.marks line) (fence : Option Fence) :
    isProse fence other = isProse fence line := by
  have opened : fenceOpened? other = fenceOpened? line := Document.fenceAfter_congr marks none
  unfold isProse
  rw [opened]

/-- **Lines that are read alike are the same headings**, when headings stay as they are. -/
theorem map_heading_markLines {ls : List Line} {change : Line → Line}
    (same : ∀ line ∈ ls, SameLine line (change line)) (fence : Option Fence)
    (kept : ∀ line ∈ markLines fence ls, line.heading ≠ none → change line.text = line.text) :
    (markLines fence (ls.map change)).map (·.heading) = (markLines fence ls).map (·.heading) := by
  induction ls generalizing fence with
  | nil => rfl
  | cons first rest ih =>
    obtain ⟨sameFirst, sameRest⟩ := List.forall_mem_cons.mp same
    obtain ⟨keptFirst, keptRest⟩ := List.forall_mem_cons.mp kept
    rw [List.map_cons, markLines, markLines, List.map_cons, List.map_cons,
      Document.fenceAfter_congr sameFirst.marks, ih sameRest _ keptRest, isProse_congr sameFirst.marks]
    congr 1
    dsimp only at keptFirst ⊢
    by_cases isHeading : heading? first = none
    · rw [isHeading, sameFirst.heading isHeading]
    · split
      · rename_i prose
        rw [if_pos prose] at keptFirst
        rw [keptFirst isHeading]
      · rfl

/-- **Lines that are read alike make a passage again.** -/
theorem Markdown.Passage.map {ls : List Line} (passage : Passage ls) {change : Line → Line}
    (same : ∀ line ∈ ls, SameLine line (change line)) : Passage (ls.map change) := by
  have headings := map_heading_markLines same none fun line member marked =>
    absurd (passage.unmarked line member) marked
  refine ⟨fun line member => ?_, fun line member => ?_, ?_⟩
  · obtain ⟨line, inside, rfl⟩ := List.mem_map.mp member
    exact (same line inside).isLine (passage.clean line inside)
  · have inside := List.mem_map_of_mem (f := MarkedLine.heading) member
    rw [headings] at inside
    obtain ⟨original, isOriginal, alike⟩ := List.mem_map.mp inside
    rw [← alike, passage.unmarked original isOriginal]
  · rw [Document.fenceAfterAll_map fun line inside => (same line inside).marks]
    exact passage.closed

section Headed

variable {heading : Heading} {t parent child : Text}

/-- **A text below a heading stays one when its calls are renamed.** -/
theorem Document.Headed.renameCalls (headed : Headed heading t) (unbrokenParent : '\n' ∉ parent)
    (unbrokenChild : '\n' ∉ child) (noCall : ∀ first ∈ (lines t).head?, '\x60' ∉ first) :
    Headed heading (renameCalls t parent child) := by
  have shown := lines_renameCalls unbrokenParent unbrokenChild t
  have same : ∀ line, SameLine line (ReferencePages.renameCalls line parent child) :=
    sameLine_renameCalls unbrokenChild parent
  obtain ⟨first, rest, split, start, isHeading, passage⟩ := headed.shape
  refine ⟨⟨?_, fun line member => ?_⟩, ⟨first, _, ?_, start, isHeading,
    passage.map fun line _ => same line⟩, fun last ends => ?_⟩
  · rw [shown, ← renameCalls_joinLines unbrokenParent, headed.laid.joined]
  · rw [shown] at member
    obtain ⟨line, inside, rfl⟩ := List.mem_map.mp member
    exact (same line).isLine (headed.laid.clean line inside)
  · have kept := renameCalls_of_not_mem (noCall first (by rw [split]; rfl)) parent child
    rw [shown, split, List.map_cons, kept]
  · rw [shown, List.getLast?_map] at ends
    obtain ⟨line, inside, rfl⟩ := Option.map_eq_some_iff.mp ends
    exact (same line).written (headed.written line inside)

end Headed

end ReferencePages
