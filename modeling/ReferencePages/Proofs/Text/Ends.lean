/-
**Blanks at the ends of texts.**

* `EndsWritten`: the last character of the text is not blank. Such a text is what `trimEnd` leaves
  (`endsWritten_trimEnd`), and `trimEnd` leaves it alone (`trimEnd_of_endsWritten`);
* `Tidy`: free text as the readers of sources hand it on: smooth, and without blanks at its end. A
  tidy text is joined from its lines (`Tidy.joinLines_lines`), and trimming a smooth text makes it
  tidy (`tidy_trim`);
* `not_mem_squeeze`, `not_mem_escapeChar`: words put one space apart, and escaped, hold no break.
-/

import Mathlib.Data.List.TakeWhile
import ReferencePages.Proofs.Text.Lines
import ReferencePages.Text.Blank

namespace ReferencePages.Text

/-! ### The last character -/

/-- The last character of the text is not blank. -/
def EndsWritten (t : Text) : Prop := ∃ before c, t = before ++ [c] ∧ isBlank c = false

theorem EndsWritten.append {second : Text} (written : EndsWritten second) (first : Text) :
    EndsWritten (first ++ second) := by
  obtain ⟨before, c, rfl, notBlank⟩ := written
  exact ⟨first ++ before, c, by rw [List.append_assoc], notBlank⟩

theorem EndsWritten.ne_nil {t : Text} (written : EndsWritten t) : t ≠ [] := by
  obtain ⟨before, c, rfl, -⟩ := written
  simp

theorem isBlank_break : isBlank '\n' = true := by decide

theorem isBlank_return : isBlank '\r' = true := by decide

theorem EndsWritten.noReturn {t : Text} (written : EndsWritten t) : t.getLast? ≠ some '\r' := by
  obtain ⟨before, c, rfl, notBlank⟩ := written
  rw [List.getLast?_concat]
  intro same
  rw [Option.some.inj same, isBlank_return] at notBlank
  cases notBlank

theorem EndsWritten.isLine {t : Text} (written : EndsWritten t) (unbroken : '\n' ∉ t) : IsLine t :=
  ⟨unbroken, written.noReturn⟩

theorem EndsWritten.not_allBlank {t : Text} (written : EndsWritten t) : allBlank t = false := by
  obtain ⟨before, c, rfl, notBlank⟩ := written
  simp [allBlank, notBlank]

/-- The end of joined lines is the end of the last one. -/
theorem endsWritten_joinLines {ls : List Line} {last : Line} (ends : ls.getLast? = some last)
    (written : EndsWritten last) : EndsWritten (joinLines ls) := by
  obtain ⟨before, rfl⟩ := List.getLast?_eq_some_iff.mp ends
  by_cases alone : before = []
  · subst alone
    rwa [List.nil_append, joinLines_singleton]
  · rw [joinLines_append alone (List.cons_ne_nil _ _), joinLines_singleton]
    exact (written.append ['\n']).append (joinLines before)

theorem endsWritten_joinParagraphs {parts : List Text} {last : Text}
    (ends : parts.getLast? = some last) (written : EndsWritten last) :
    EndsWritten (joinParagraphs parts) := by
  induction parts with
  | nil => cases ends
  | cons first rest ih =>
    by_cases alone : rest = []
    · subst alone
      cases ends
      rwa [joinParagraphs_singleton]
    · rw [List.getLast?_cons_of_ne_nil alone] at ends
      rw [joinParagraphs_cons first alone]
      exact ((ih ends).append ['\n', '\n']).append first

/-! ### Trimming -/

theorem trimEnd_concat_blank (t : Text) {c : Char} (blank : isBlank c = true) :
    trimEnd (t ++ [c]) = trimEnd t := by
  simp [trimEnd, dropEndWhile, blank]

theorem trimEnd_of_endsWritten {t : Text} (written : EndsWritten t) : trimEnd t = t := by
  obtain ⟨before, c, rfl, notBlank⟩ := written
  simp [trimEnd, dropEndWhile, notBlank]

/-- What trimming leaves is empty or ends with a character that is not blank. -/
theorem endsWritten_trimEnd (t : Text) : trimEnd t = [] ∨ EndsWritten (trimEnd t) := by
  induction t using List.reverseRecOn with
  | nil => exact Or.inl rfl
  | append_singleton before c ih =>
    by_cases blank : isBlank c = true
    · rwa [trimEnd_concat_blank before blank]
    · have written : EndsWritten (before ++ [c]) := ⟨before, c, rfl, by simpa using blank⟩
      rw [trimEnd_of_endsWritten written]
      exact Or.inr written

theorem endsWritten_of_trimEnd {t : Text} (trimmed : trimEnd t = t) (nonempty : t ≠ []) :
    EndsWritten t := by
  rcases endsWritten_trimEnd t with empty | written
  · exact absurd (trimmed.symm.trans empty) nonempty
  · rwa [trimmed] at written

@[simp] theorem trimEnd_trimEnd (t : Text) : trimEnd (trimEnd t) = trimEnd t := by
  rcases endsWritten_trimEnd t with empty | written
  · rw [empty]
    rfl
  · exact trimEnd_of_endsWritten written

/-- What comes first stays when something is left of what comes last. -/
theorem trimEnd_append (first : Text) {second : Text} (left : trimEnd second ≠ []) :
    trimEnd (first ++ second) = first ++ trimEnd second := by
  induction second using List.reverseRecOn with
  | nil => exact absurd rfl left
  | append_singleton before c ih =>
    rw [← List.append_assoc]
    by_cases blank : isBlank c = true
    · rw [trimEnd_concat_blank before blank] at left ⊢
      rw [trimEnd_concat_blank _ blank]
      exact ih left
    · have written : EndsWritten (before ++ [c]) := ⟨before, c, rfl, by simpa using blank⟩
      rw [trimEnd_of_endsWritten written, List.append_assoc]
      exact trimEnd_of_endsWritten (written.append first)

theorem trimEnd_append_blank (t : Text) {blanks : Text} (blank : allBlank blanks = true) :
    trimEnd (t ++ blanks) = trimEnd t := by
  induction blanks using List.reverseRecOn with
  | nil => rw [List.append_nil]
  | append_singleton before c ih =>
    unfold allBlank at blank ih
    rw [List.all_append, Bool.and_eq_true, List.all_cons, Bool.and_eq_true] at blank
    rw [← List.append_assoc, trimEnd_concat_blank _ blank.2.1, ih blank.1]

theorem trim_concat_blank (t : Text) {c : Char} (blank : isBlank c = true) :
    trim (t ++ [c]) = trim t := by
  unfold trim trimStart
  rw [List.dropWhile_append]
  split
  · rename_i empty
    rw [List.isEmpty_iff] at empty
    rw [empty, List.dropWhile_cons_of_pos blank]
    rfl
  · exact trimEnd_concat_blank _ blank

theorem trim_append_blank (t : Text) {blanks : Text} (blank : allBlank blanks = true) :
    trim (t ++ blanks) = trim t := by
  induction blanks using List.reverseRecOn with
  | nil => rw [List.append_nil]
  | append_singleton before c ih =>
    unfold allBlank at blank ih
    rw [List.all_append, Bool.and_eq_true, List.all_cons, Bool.and_eq_true] at blank
    rw [← List.append_assoc, trim_concat_blank _ blank.2.1, ih blank.1]

theorem trimEnd_break (t : Text) : trimEnd (t ++ ['\n']) = trimEnd t :=
  trimEnd_concat_blank t isBlank_break

/-- Trimming takes characters away at the end. -/
theorem exists_append_trimEnd (t : Text) : ∃ taken, t = trimEnd t ++ taken := by
  induction t using List.reverseRecOn with
  | nil => exact ⟨[], rfl⟩
  | append_singleton before c ih =>
    by_cases blank : isBlank c = true
    · obtain ⟨taken, same⟩ := ih
      refine ⟨taken ++ [c], ?_⟩
      rw [trimEnd_concat_blank before blank, ← List.append_assoc, ← same]
    · have written : EndsWritten (before ++ [c]) := ⟨before, c, rfl, by simpa using blank⟩
      exact ⟨[], by rw [trimEnd_of_endsWritten written, List.append_nil]⟩

theorem mem_of_mem_trimEnd {t : Text} {c : Char} (member : c ∈ trimEnd t) : c ∈ t := by
  obtain ⟨taken, same⟩ := exists_append_trimEnd t
  rw [same]
  exact List.mem_append_left _ member

/-- Trimming takes characters away at the start. -/
theorem exists_append_trimStart (t : Text) : ∃ taken, t = taken ++ trimStart t :=
  ⟨t.takeWhile isBlank, List.takeWhile_append_dropWhile.symm⟩

theorem mem_of_mem_trimStart {t : Text} {c : Char} (member : c ∈ trimStart t) : c ∈ t :=
  List.dropWhile_subset _ member

theorem mem_of_mem_trim {t : Text} {c : Char} (member : c ∈ trim t) : c ∈ t :=
  mem_of_mem_trimStart (mem_of_mem_trimEnd member)

@[simp] theorem trimEnd_trim (t : Text) : trimEnd (trim t) = trim t := trimEnd_trimEnd _

/-- A blank text is trimmed to nothing, and only a blank one is. -/
theorem trimEnd_eq_nil_iff (t : Text) : trimEnd t = [] ↔ allBlank t = true := by
  constructor
  · intro empty
    induction t using List.reverseRecOn with
    | nil => rfl
    | append_singleton before c ih =>
      by_cases blank : isBlank c = true
      · rw [trimEnd_concat_blank before blank] at empty
        have restBlank := ih empty
        simp only [allBlank, List.all_append, Bool.and_eq_true, List.all_cons, List.all_nil] at *
        exact ⟨restBlank, blank, trivial⟩
      · have written : EndsWritten (before ++ [c]) := ⟨before, c, rfl, by simpa using blank⟩
        rw [trimEnd_of_endsWritten written] at empty
        exact absurd empty (by simp)
  · intro blank
    rcases endsWritten_trimEnd t with empty | written
    · exact empty
    · obtain ⟨taken, same⟩ := exists_append_trimEnd t
      have part := written.not_allBlank
      rw [same] at blank
      simp only [allBlank, List.all_append, Bool.and_eq_true] at blank part
      rw [blank.1] at part
      cases part

theorem allBlank_of_trim {t : Text} (empty : trim t = []) : allBlank t = true := by
  have blankStart := (trimEnd_eq_nil_iff _).mp empty
  unfold allBlank at blankStart ⊢
  rw [← List.takeWhile_append_dropWhile (p := isBlank) (l := t), List.all_append, Bool.and_eq_true]
  exact ⟨List.all_takeWhile, blankStart⟩

theorem trimEnd_cons_ne_nil {c : Char} (notBlank : isBlank c = false) (rest : Text) :
    trimEnd (c :: rest) ≠ [] := by
  rw [Ne, trimEnd_eq_nil_iff]
  simp [allBlank, notBlank]

/-! ### Trimmed texts -/

theorem trim_eq_self_iff {t : Text} : trim t = t ↔ trimStart t = t ∧ trimEnd t = t := by
  constructor
  · intro trimmed
    have ends : trimEnd t = t := by
      rw [← trimmed, trimEnd_trim]
    refine ⟨?_, ends⟩
    obtain ⟨lead, split⟩ := exists_append_trimStart t
    obtain ⟨tail, split'⟩ := exists_append_trimEnd (trimStart t)
    have lengths := congrArg List.length split
    have lengths' := congrArg List.length split'
    rw [show trimEnd (trimStart t) = t from trimmed, List.length_append] at lengths'
    rw [List.length_append] at lengths
    have none : lead = [] := List.length_eq_zero_iff.mp (by omega)
    rw [none, List.nil_append] at split
    exact split.symm
  · rintro ⟨starts, ends⟩
    unfold trim
    rw [starts, ends]

theorem not_blank_of_trimStart {t rest : Text} {c : Char} (starts : trimStart t = c :: rest) :
    isBlank c = false := by
  have head := List.head?_dropWhile_not isBlank t
  rw [show t.dropWhile isBlank = c :: rest from starts, List.head?_cons] at head
  simpa using head

@[simp] theorem trim_trim (t : Text) : trim (trim t) = trim t := by
  rw [trim_eq_self_iff, trimEnd_trim]
  refine ⟨?_, rfl⟩
  cases shown : trim t with
  | nil => rfl
  | cons c more =>
    obtain ⟨tail, split⟩ := exists_append_trimEnd (trimStart t)
    rw [show trimEnd (trimStart t) = c :: more from shown] at split
    exact List.dropWhile_cons_of_neg (by simp [not_blank_of_trimStart split])

/-- Texts without outer blanks, with a character between them that is not blank. -/
theorem trim_append_cons {first second : Text} {c : Char} (written : isBlank c = false)
    (trimmed : trim first = first) (trimmed' : trim second = second) :
    trim (first ++ c :: second) = first ++ c :: second := by
  rw [trim_eq_self_iff] at trimmed trimmed' ⊢
  refine ⟨?_, ?_⟩
  · cases first with
    | nil => exact List.dropWhile_cons_of_neg (by simp [written])
    | cons d more =>
      exact List.dropWhile_cons_of_neg (by simp [not_blank_of_trimStart trimmed.1])
  · rw [trimEnd_append first (trimEnd_cons_ne_nil written second)]
    have ends : EndsWritten (c :: second) := by
      by_cases empty : second = []
      · exact ⟨[], c, by rw [empty, List.nil_append], written⟩
      · exact (endsWritten_of_trimEnd trimmed'.2 empty).append [c]
    rw [trimEnd_of_endsWritten ends]

/-- Blanks in front of a text are trimmed. -/
theorem trim_append_blanks {lead : Text} (blank : allBlank lead = true) (t : Text) :
    trim (lead ++ t) = trim t := by
  unfold trim trimStart
  rw [List.dropWhile_append_of_pos fun c member => List.all_eq_true.mp blank c member]

/-! ### Tidy texts -/

/-- Free text without carriage returns before breaks and without blanks at its end. -/
structure Tidy (t : Text) : Prop where
  smooth : Smooth t
  trimmed : trimEnd t = t

theorem Tidy.nil : Tidy [] := ⟨.nil, rfl⟩

theorem Tidy.endsWritten {t : Text} (tidy : Tidy t) (nonempty : t ≠ []) : EndsWritten t :=
  endsWritten_of_trimEnd tidy.trimmed nonempty

/-- **Trimming makes a smooth text tidy.** -/
theorem tidy_trim {t : Text} (smooth : Smooth t) : Tidy (trim t) := by
  refine ⟨?_, trimEnd_trim t⟩
  obtain ⟨before, same⟩ := exists_append_trimStart t
  obtain ⟨after, same'⟩ := exists_append_trimEnd (trimStart t)
  rw [same, same'] at smooth
  exact smooth.right.left

/-- The last of the pieces of a text ends as the text does. -/
theorem getLast?_splitOn {t : Text} (written : EndsWritten t) :
    ∃ last, (t.splitOn '\n').getLast? = some last ∧ EndsWritten last := by
  obtain ⟨init, c, same, notBlank⟩ := written
  obtain ⟨before, last, split⟩ :=
    (List.eq_nil_or_concat' (t.splitOn '\n')).resolve_left (List.splitOn_ne_nil _ _)
  obtain ⟨above, joined, ends⟩ := joinLines_concat before last
  have whole : above ++ last = init ++ [c] := by
    rw [← joined, ← split, ← same]
    exact List.intercalate_splitOn '\n'
  refine ⟨last, by rw [split, List.getLast?_concat], ?_⟩
  rcases List.eq_nil_or_concat' last with rfl | ⟨start, d, rfl⟩
  · exfalso
    rw [List.append_nil] at whole
    rcases ends with empty | atBreak
    · rw [empty] at whole
      simp at whole
    · rw [whole, List.getLast?_concat] at atBreak
      rw [Option.some.inj atBreak, isBlank_break] at notBlank
      cases notBlank
  · rw [← List.append_assoc] at whole
    refine ⟨start, d, rfl, ?_⟩
    rw [(List.cons.inj (List.append_inj_right' whole rfl)).1]
    exact notBlank

/-- The lines of a tidy text are its pieces. -/
theorem Tidy.lines_eq {t : Text} (tidy : Tidy t) (nonempty : t ≠ []) :
    lines t = t.splitOn '\n' := by
  have written := tidy.endsWritten nonempty
  have clean := isLine_of_mem_splitOn tidy.smooth written.noReturn
  obtain ⟨last, ends, lastWritten⟩ := getLast?_splitOn written
  obtain ⟨before, split⟩ := List.getLast?_eq_some_iff.mp ends
  rw [lines_of_splitOn split fun line member =>
    clean line (split ▸ List.mem_append_left _ member), split]
  have notEmpty : last.isEmpty = false := by simpa using lastWritten.ne_nil
  simp [notEmpty]

/-- **A tidy text is joined from its lines.** -/
theorem Tidy.joinLines_lines {t : Text} (tidy : Tidy t) : joinLines (lines t) = t := by
  by_cases empty : t = []
  · subst empty
    rfl
  · rw [tidy.lines_eq empty]
    exact List.intercalate_splitOn '\n'

theorem Tidy.isLine {t : Text} (tidy : Tidy t) : ∀ line ∈ lines t, IsLine line := by
  by_cases empty : t = []
  · subst empty
    exact fun line member => absurd member List.not_mem_nil
  · rw [tidy.lines_eq empty]
    exact isLine_of_mem_splitOn tidy.smooth (tidy.endsWritten empty).noReturn

/-- The last line of a tidy text ends with a character that is not blank. -/
theorem Tidy.getLast?_lines {t : Text} (tidy : Tidy t) (nonempty : t ≠ []) :
    ∃ last, (lines t).getLast? = some last ∧ EndsWritten last := by
  rw [tidy.lines_eq nonempty]
  exact getLast?_splitOn (tidy.endsWritten nonempty)

theorem Tidy.lines_ne_nil {t : Text} (tidy : Tidy t) (nonempty : t ≠ []) : lines t ≠ [] := by
  rw [tidy.lines_eq nonempty]
  exact List.splitOn_ne_nil _ _

/-! ### Laid out texts -/

/-- The text is joined from its lines. -/
structure Laid (t : Text) : Prop where
  joined : joinLines (lines t) = t
  clean : ∀ line ∈ lines t, IsLine line

theorem Tidy.laid {t : Text} (tidy : Tidy t) : Laid t := ⟨tidy.joinLines_lines, tidy.isLine⟩

theorem laid_joinLines {ls : List Line} (clean : ∀ line ∈ ls, IsLine line)
    (written : ls.getLast? ≠ some []) : Laid (joinLines ls) := by
  have same := lines_joinLines clean written
  refine ⟨by rw [same], ?_⟩
  rw [same]
  exact clean

/-- Joined texts are joined from all of their lines. -/
theorem joinLines_map {α : Type} (text : α → Text) {parts : List α}
    (laid : ∀ part ∈ parts, Laid (text part)) (written : ∀ part ∈ parts, lines (text part) ≠ []) :
    joinLines (parts.map text) = joinLines (parts.flatMap (lines <| text ·)) := by
  induction parts with
  | nil => rfl
  | cons part rest ih =>
    have joined := (laid part List.mem_cons_self).joined
    have here := written part List.mem_cons_self
    have others := ih (fun other member => laid other (List.mem_cons_of_mem _ member))
      fun other member => written other (List.mem_cons_of_mem _ member)
    cases rest with
    | nil =>
      rw [List.flatMap_cons, List.flatMap_nil, List.append_nil, joined, List.map_cons,
        List.map_nil, joinLines_singleton]
    | cons second rest =>
      have more : (second :: rest).flatMap (lines <| text ·) ≠ [] := by
        rw [List.flatMap_cons]
        exact List.append_ne_nil_of_left_ne_nil
          (written second (List.mem_cons_of_mem _ List.mem_cons_self)) _
      have split : (part :: second :: rest).flatMap (lines <| text ·) =
          lines (text part) ++ (second :: rest).flatMap (lines <| text ·) := List.flatMap_cons
      rw [List.map_cons, joinLines_cons _ (by simp), others, split, joinLines_append here more,
        joined]

/-! ### Words -/

/-- A character of joined texts is one of the mark or of one of the texts. -/
theorem mem_join {mark : Text} {parts : List Text} {c : Char} (member : c ∈ join mark parts) :
    c ∈ mark ∨ ∃ part ∈ parts, c ∈ part := by
  induction parts with
  | nil => exact absurd member List.not_mem_nil
  | cons first rest ih =>
    by_cases alone : rest = []
    · subst alone
      rw [join, List.intercalate_singleton] at member
      exact Or.inr ⟨first, List.mem_cons_self, member⟩
    · rw [join, List.intercalate_cons_of_ne_nil alone, List.append_assoc] at member
      rcases List.mem_append.mp member with inFirst | member
      · exact Or.inr ⟨first, List.mem_cons_self, inFirst⟩
      · rcases List.mem_append.mp member with inMark | inRest
        · exact Or.inl inMark
        · rcases ih inRest with inMark | ⟨part, inParts, inPart⟩
          · exact Or.inl inMark
          · exact Or.inr ⟨part, List.mem_cons_of_mem _ inParts, inPart⟩

/-- Words one space apart hold no break. -/
theorem not_mem_squeeze (t : Text) : '\n' ∉ squeeze t := by
  intro member
  rcases mem_join member with inMark | ⟨word, inWords, inWord⟩
  · simp at inMark
  · have notBlank := not_separator_of_mem_splitOnP (List.mem_filter.mp inWords).1 _ inWord
    rw [isBlank_break] at notBlank
    cases notBlank

theorem not_mem_escapeChar {mark c : Char} (other : c ≠ '\\') {t : Text} (missing : c ∉ t) :
    c ∉ escapeChar mark t := by
  intro member
  obtain ⟨d, inside, shown⟩ := List.mem_flatMap.mp member
  by_cases same : (d == mark) = true
  · rw [if_pos same] at shown
    rcases List.mem_cons.mp shown with slash | shown
    · exact other slash
    · exact missing (List.mem_singleton.mp shown ▸ inside)
  · rw [if_neg same] at shown
    exact missing (List.mem_singleton.mp shown ▸ inside)

end ReferencePages.Text
