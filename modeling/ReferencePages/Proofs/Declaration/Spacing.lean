/-
**Blanks one space apart.**

A signature is handed on with its words one space apart, wherever the blanks stand. `oneSpaced` writes
every run of blanks as one space; at the ends of a text `squeeze` leaves none.

* `oneSpaced_append_cons`: a character that is not blank parts a text in two that are spaced apart;
* `squeeze_eq_oneSpaced`: the words of a trimmed text are spaced by `oneSpaced`;
* `oneSpaced_eq_self_iff`: the texts that spacing leaves alone (`EvenlySpaced`);
* `after_oneSpaced`, `splitTop_oneSpaced`: nesting and parts do not depend on the spacing;
* `literals_oneSpaced`: **the literals of a spaced text are the literals of the text, spaced**;
* `readAll_squeeze`: **the parameters of a spaced text are the parameters of the text, spaced**.
-/

import ReferencePages.Proofs.Declaration.Calls
import ReferencePages.Proofs.Declaration.Literals

namespace ReferencePages

open Text Declaration

namespace Text

/-! ### Spacing -/

/-- The text opens with a blank. -/
def startsBlank (t : Text) : Bool := t.head?.any isBlank

/-- The text with one space for every run of blanks. -/
def oneSpaced : Text → Text
  | [] => []
  | c :: rest =>
    if isBlank c then
      if startsBlank rest then oneSpaced rest else ' ' :: oneSpaced rest
    else c :: oneSpaced rest

theorem oneSpaced_cons_written {c : Char} (written : isBlank c = false) (rest : Text) :
    oneSpaced (c :: rest) = c :: oneSpaced rest := by
  rw [oneSpaced, if_neg (by simp [written])]

/-- The first of two blanks leaves no trace. -/
theorem oneSpaced_cons_blank {c : Char} (blank : isBlank c = true) {rest : Text}
    (starts : startsBlank rest = true) : oneSpaced (c :: rest) = oneSpaced rest := by
  rw [oneSpaced, if_pos blank, if_pos starts]

/-- The last of several blanks is written as a space. -/
theorem oneSpaced_cons_last {c : Char} (blank : isBlank c = true) {rest : Text}
    (starts : startsBlank rest = false) : oneSpaced (c :: rest) = ' ' :: oneSpaced rest := by
  rw [oneSpaced, if_pos blank, if_neg (by simp [starts])]

theorem isBlank_space : isBlank ' ' = true := by decide

theorem startsBlank_cons (c : Char) (rest : Text) : startsBlank (c :: rest) = isBlank c := rfl

/-- A text that opens with a blank is spaced to one that opens with a space. -/
theorem exists_oneSpaced_of_startsBlank {t : Text} (starts : startsBlank t = true) :
    ∃ more, oneSpaced t = ' ' :: more := by
  fun_induction oneSpaced t with
  | case1 => cases starts
  | case2 c rest blank starts' ih => exact ih starts'
  | case3 c rest blank later ih => exact ⟨oneSpaced rest, rfl⟩
  | case4 c rest written ih => exact absurd starts written

/-- **A character that is not blank parts the blanks around it.** -/
theorem oneSpaced_append_cons (first : Text) {c : Char} (written : isBlank c = false) (second : Text) :
    oneSpaced (first ++ c :: second) = oneSpaced first ++ c :: oneSpaced second := by
  have starts : ∀ rest : Text, startsBlank (rest ++ c :: second) = startsBlank rest := by
    intro rest
    cases rest with
    | nil => exact written
    | cons d more => rfl
  fun_induction oneSpaced first with
  | case1 => exact oneSpaced_cons_written written second
  | case2 d rest blank starts' ih =>
    rw [List.cons_append, oneSpaced_cons_blank blank ((starts rest).trans starts'), ih]
  | case3 d rest blank later ih =>
    rw [List.cons_append, oneSpaced_cons_last blank (by rw [starts]; simpa using later), ih]
    rfl
  | case4 d rest written' ih =>
    rw [List.cons_append, oneSpaced_cons_written (by simpa using written'), ih]
    rfl

theorem isEmpty_oneSpaced (t : Text) : (oneSpaced t).isEmpty = t.isEmpty := by
  fun_induction oneSpaced t with
  | case1 => rfl
  | case2 c rest blank starts ih =>
    rw [ih]
    cases rest with
    | nil => cases starts
    | cons d more => rfl
  | case3 c rest blank later ih => rfl
  | case4 c rest written ih => rfl

theorem oneSpaced_eq_singleton_iff {c : Char} (written : isBlank c = false) {t : Text} :
    oneSpaced t = [c] ↔ t = [c] := by
  have notSpace : ' ' ≠ c := by
    rintro rfl
    exact absurd written (by decide)
  cases t with
  | nil => exact Iff.rfl
  | cons d rest =>
    cases blank : isBlank d with
    | true =>
      obtain ⟨more, shown⟩ := exists_oneSpaced_of_startsBlank (t := d :: rest) blank
      have other : d ≠ c := by
        rintro rfl
        exact absurd (blank.symm.trans written) (by decide)
      simp [shown, notSpace, other]
    | false =>
      rw [oneSpaced_cons_written blank, List.cons.injEq, List.cons.injEq, ← List.isEmpty_iff,
        isEmpty_oneSpaced, List.isEmpty_iff]

theorem length_oneSpaced_le (t : Text) : (oneSpaced t).length ≤ t.length := by
  fun_induction oneSpaced t with
  | case1 => exact le_rfl
  | case2 c rest blank starts ih => exact ih.trans (Nat.le_succ _)
  | case3 c rest blank later ih => exact Nat.succ_le_succ ih
  | case4 c rest written ih => exact Nat.succ_le_succ ih

/-- Every blank of the text is a space that no blank follows. -/
def EvenlySpaced (t : Text) : Prop :=
  ∀ before c after, t = before ++ c :: after → isBlank c = true → c = ' ' ∧ startsBlank after = false

/-- **Spacing leaves alone the texts that are evenly spaced.** -/
theorem oneSpaced_eq_self_iff {t : Text} : oneSpaced t = t ↔ EvenlySpaced t := by
  constructor
  · intro same before c after split blank
    fun_induction oneSpaced t generalizing before with
    | case1 => simp at split
    | case2 d rest blank' starts ih =>
      have lengths := length_oneSpaced_le rest
      rw [same, List.length_cons] at lengths
      omega
    | case3 d rest blank' later ih =>
      cases before with
      | nil =>
        obtain ⟨rfl, rfl⟩ := List.cons.inj split
        exact ⟨(List.cons.inj same).1.symm, by simpa using later⟩
      | cons e more => exact ih (List.cons.inj same).2 more (List.cons.inj split).2
    | case4 d rest written ih =>
      cases before with
      | nil => exact absurd ((List.cons.inj split).1 ▸ blank) written
      | cons e more => exact ih (List.cons.inj same).2 more (List.cons.inj split).2
  · intro spaced
    have below : ∀ d rest, t = d :: rest → ∀ before c after, rest = before ++ c :: after →
        isBlank c = true → c = ' ' ∧ startsBlank after = false := by
      rintro d rest rfl before c after split
      exact spaced (d :: before) c after (congrArg (d :: ·) split)
    fun_induction oneSpaced t with
    | case1 => rfl
    | case2 d rest blank starts ih =>
      rw [(spaced [] d rest rfl blank).2] at starts
      cases starts
    | case3 d rest blank later ih =>
      rw [ih (below d rest rfl), (spaced [] d rest rfl blank).1]
      rintro e more rfl before c after split
      exact below d _ rfl (e :: before) c after (congrArg (e :: ·) split)
    | case4 d rest written ih =>
      rw [ih (below d rest rfl)]
      rintro e more rfl before c after split
      exact below d _ rfl (e :: before) c after (congrArg (e :: ·) split)

instance (t : Text) : Decidable (EvenlySpaced t) :=
  decidable_of_iff (oneSpaced t = t) oneSpaced_eq_self_iff

/-! ### Words and ends -/

theorem words_cons_blank {c : Char} (blank : isBlank c = true) (rest : Text) :
    words (c :: rest) = words rest := words_append_cons [] blank rest

/-- A character that is not blank belongs to the first word, together with the word behind it. -/
theorem words_cons_written {c : Char} (written : isBlank c = false) (rest : Text) :
    ∃ first others, words (c :: rest) = (c :: first) :: others ∧
      (startsBlank rest = true → first = [] ∧ others = words rest) ∧
      (startsBlank rest = false → rest ≠ [] → words rest = first :: others) := by
  have notBlank : ¬ isBlank c = true := by simp [written]
  unfold words
  rw [List.splitOnP_cons_eq_if_modifyHead, if_neg notBlank]
  cases rest with
  | nil => exact ⟨[], [], rfl, fun starts => absurd starts (by decide), fun _ empty => absurd rfl empty⟩
  | cons d more =>
    rw [List.splitOnP_cons_eq_if_modifyHead]
    obtain ⟨first, others, split⟩ := List.exists_cons_of_ne_nil (List.splitOnP_ne_nil isBlank more)
    rw [split, startsBlank_cons]
    by_cases blank : isBlank d = true
    · rw [if_pos blank]
      exact ⟨[], (first :: others).filter (! ·.isEmpty), rfl, fun _ => ⟨rfl, rfl⟩,
        fun later => absurd (blank.symm.trans later) (by decide)⟩
    · rw [if_neg blank]
      exact ⟨d :: first, others.filter (! ·.isEmpty), rfl, fun starts => absurd starts blank,
        fun _ _ => rfl⟩

theorem words_ne_nil {t : Text} (written : allBlank t = false) : words t ≠ [] := by
  induction t with
  | nil => cases written
  | cons c rest ih =>
    cases blank : isBlank c with
    | true =>
      rw [words_cons_blank blank]
      rw [allBlank, List.all_cons, blank, Bool.true_and] at written
      exact ih written
    | false =>
      obtain ⟨first, others, isWords, -⟩ := words_cons_written blank rest
      rw [isWords]
      exact List.cons_ne_nil _ _

theorem squeeze_cons_blank {c : Char} (blank : isBlank c = true) (rest : Text) :
    squeeze (c :: rest) = squeeze rest := by
  rw [squeeze, words_cons_blank blank, squeeze]

/-- A character that is not blank stands right before the words of what follows, or a space apart. -/
theorem squeeze_cons_written {c : Char} (written : isBlank c = false) {rest : Text}
    (ends : EndsWritten rest) :
    squeeze (c :: rest) = c :: if startsBlank rest then ' ' :: squeeze rest else squeeze rest := by
  obtain ⟨first, others, isWords, apart, together⟩ := words_cons_written written rest
  unfold squeeze join
  rw [isWords]
  by_cases starts : startsBlank rest = true
  · obtain ⟨rfl, rfl⟩ := apart starts
    rw [if_pos starts, List.intercalate_cons_of_ne_nil (words_ne_nil ends.not_allBlank)]
    rfl
  · rw [if_neg starts, together (by simpa using starts) ends.ne_nil]
    cases others with
    | nil => rfl
    | cons second others => rfl

theorem EndsWritten.of_cons {c : Char} {rest : Text} (ends : EndsWritten (c :: rest)) :
    rest = [] ∧ isBlank c = false ∨ EndsWritten rest := by
  obtain ⟨before, d, split, written⟩ := ends
  cases before with
  | nil =>
    obtain ⟨rfl, rfl⟩ := List.cons.inj split
    exact Or.inl ⟨rfl, written⟩
  | cons e more => exact Or.inr ⟨more, d, (List.cons.inj split).2, written⟩

/-- The words of a text that ends with one of them are spaced by `oneSpaced`. -/
theorem oneSpaced_of_endsWritten {t : Text} (ends : EndsWritten t) :
    oneSpaced t = if startsBlank t then ' ' :: squeeze t else squeeze t := by
  fun_induction oneSpaced t with
  | case1 => exact absurd rfl ends.ne_nil
  | case2 c rest blank starts ih =>
    rcases ends.of_cons with ⟨rfl, -⟩ | below
    · cases starts
    · rw [ih below, if_pos starts, startsBlank_cons, if_pos blank, squeeze_cons_blank blank]
  | case3 c rest blank later ih =>
    rcases ends.of_cons with ⟨-, written⟩ | below
    · rw [blank] at written
      cases written
    · rw [ih below, if_neg later, startsBlank_cons, if_pos blank, squeeze_cons_blank blank]
  | case4 c rest written ih =>
    have notBlank : isBlank c = false := by simpa using written
    rw [startsBlank_cons, if_neg written]
    rcases ends.of_cons with ⟨rfl, -⟩ | below
    · have word : words [c] = [[c]] := by simp [words, List.splitOnP_cons_eq_if_modifyHead, notBlank]
      rw [squeeze, word]
      rfl
    · rw [ih below, squeeze_cons_written notBlank below]

theorem squeeze_trim (t : Text) : squeeze (trim t) = squeeze t := by
  obtain ⟨lead, tail, leadBlank, tailBlank, split⟩ := exists_blanks_trim t
  have same := congrArg words split
  rw [words_blanks_append leadBlank, words_append_of_allBlank _ tailBlank] at same
  rw [squeeze, ← same, squeeze]

theorem trimStart_of_starts {t : Text} (starts : startsBlank t = false) : trimStart t = t := by
  cases t with
  | nil => rfl
  | cons c rest => exact List.dropWhile_cons_of_neg (by simpa [startsBlank_cons] using starts)

/-- A trimmed text is empty, or opens and ends with characters that are not blank. -/
theorem trim_cases (t : Text) :
    trim t = [] ∨ startsBlank (trim t) = false ∧ EndsWritten (trim t) := by
  rcases endsWritten_trimEnd (trimStart t) with empty | ends
  · exact Or.inl empty
  · refine Or.inr ⟨?_, ends⟩
    cases shown : trim t with
    | nil => rfl
    | cons c rest =>
      have starts := (trim_eq_self_iff.mp (trim_trim t)).1
      rw [shown] at starts
      exact not_blank_of_trimStart starts

/-- **The words of a text, one space apart**, are the trimmed text with its blanks spaced. -/
theorem squeeze_eq_oneSpaced (t : Text) : squeeze t = oneSpaced (trim t) := by
  rw [← squeeze_trim]
  rcases trim_cases t with empty | ⟨starts, ends⟩
  · rw [empty]
    rfl
  · rw [oneSpaced_of_endsWritten ends, starts]
    rfl

theorem allBlank_oneSpaced {t : Text} (blank : allBlank t = true) : allBlank (oneSpaced t) = true := by
  fun_induction oneSpaced t with
  | case1 => rfl
  | case2 c rest blank' starts ih => exact ih (Bool.and_eq_true_iff.mp blank).2
  | case3 c rest blank' later ih => exact ih (Bool.and_eq_true_iff.mp blank).2
  | case4 c rest written ih => exact absurd (Bool.and_eq_true_iff.mp blank).1 written

theorem oneSpaced_append_of_starts (first : Text) {second : Text} (starts : startsBlank second = false) :
    oneSpaced (first ++ second) = oneSpaced first ++ oneSpaced second := by
  cases second with
  | nil => rw [List.append_nil, oneSpaced, List.append_nil]
  | cons c rest => rw [oneSpaced_append_cons first starts, oneSpaced_cons_written starts]

theorem oneSpaced_append_of_ends {first : Text} (ends : EndsWritten first) (second : Text) :
    oneSpaced (first ++ second) = oneSpaced first ++ oneSpaced second ∧ EndsWritten (oneSpaced first) := by
  obtain ⟨before, c, rfl, written⟩ := ends
  have alone : oneSpaced (before ++ [c]) = oneSpaced before ++ [c] :=
    oneSpaced_append_cons before written []
  rw [alone, List.append_assoc, List.singleton_append, oneSpaced_append_cons before written]
  exact ⟨by simp, oneSpaced before, c, rfl, written⟩

theorem startsBlank_oneSpaced (t : Text) : startsBlank (oneSpaced t) = startsBlank t := by
  fun_induction oneSpaced t with
  | case1 => rfl
  | case2 c rest blank starts ih => rw [ih, starts, startsBlank_cons, blank]
  | case3 c rest blank later ih => rw [startsBlank_cons, startsBlank_cons, blank, isBlank_space]
  | case4 c rest written ih => rfl

/-- Spacing first and trimming then is the same. -/
theorem trim_oneSpaced (t : Text) : trim (oneSpaced t) = squeeze t := by
  obtain ⟨lead, tail, leadBlank, tailBlank, split⟩ := exists_blanks_trim t
  rw [squeeze_eq_oneSpaced]
  rcases trim_cases t with empty | ⟨starts, ends⟩
  · have blank : allBlank (oneSpaced t) = true := allBlank_oneSpaced (allBlank_of_trim empty)
    rw [empty]
    exact List.append_nil (oneSpaced t) ▸ trim_append_blanks blank []
  · obtain ⟨apart, ends'⟩ := oneSpaced_append_of_ends ends tail
    have starts' : startsBlank (trim t ++ tail) = false := by
      obtain ⟨c, rest, shown⟩ := List.exists_cons_of_ne_nil ends.ne_nil
      rw [shown] at starts ⊢
      exact starts
    have stays : trimStart (oneSpaced (trim t) ++ oneSpaced tail) = oneSpaced (trim t) ++ oneSpaced tail := by
      rw [← apart]
      exact trimStart_of_starts ((startsBlank_oneSpaced _).trans starts')
    conv_lhs => rw [split]
    rw [oneSpaced_append_of_starts lead starts', apart, trim_append_blanks (allBlank_oneSpaced leadBlank),
      trim, stays, trimEnd_append_blank _ (allBlank_oneSpaced tailBlank), trimEnd_of_endsWritten ends']

end Text

namespace Declaration

/-! ### Nesting -/

/-- The nesting after a blank: a backslash escapes it, and it is read as any other character. -/
def Nesting.afterBlank : Nesting → Nesting
  | .escaped depth quote => .literal depth quote
  | same => same

section Blanks

variable {nesting : Nesting} {c : Char}

theorem Nesting.Sound.step_blank (sound : nesting.Sound) (blank : isBlank c = true) :
    nesting.step c = nesting.afterBlank := by
  have mark := isMark_of_isBlank blank
  cases nesting with
  | code depth => exact mark.step_code depth
  | literal depth quote =>
    have notBackslash : (c == '\\') = false := beq_of_isBlank blank (by decide)
    have notQuote : (c == quote) = false := by
      rw [beq_eq_false_iff_ne]
      rintro rfl
      exact absurd (mark.notQuote.symm.trans sound) (by decide)
    rw [Nesting.step, notBackslash, notQuote]
    rfl
  | escaped depth quote => rfl

theorem Nesting.Sound.afterBlank (sound : nesting.Sound) : nesting.afterBlank.Sound := by
  cases nesting <;> exact sound

theorem Nesting.afterBlank_afterBlank (nesting : Nesting) :
    nesting.afterBlank.afterBlank = nesting.afterBlank := by
  cases nesting <;> rfl

/-- The second of two blanks leaves the nesting as the first one. -/
theorem Nesting.Sound.after_again (sound : nesting.Sound) {rest : Text}
    (starts : startsBlank rest = true) : nesting.afterBlank.after rest = nesting.after rest := by
  cases rest with
  | nil => cases starts
  | cons d more =>
    rw [Nesting.after_cons, Nesting.after_cons, sound.step_blank starts,
      sound.afterBlank.step_blank starts, Nesting.afterBlank_afterBlank]

/-- **Nesting does not depend on the spacing.** -/
theorem after_oneSpaced (sound : nesting.Sound) (t : Text) :
    nesting.after (oneSpaced t) = nesting.after t := by
  fun_induction oneSpaced t generalizing nesting with
  | case1 => rfl
  | case2 c rest blank starts ih =>
    rw [ih sound, Nesting.after_cons, sound.step_blank blank, sound.after_again starts]
  | case3 c rest blank later ih =>
    rw [Nesting.after_cons, Nesting.after_cons, sound.step_blank isBlank_space, sound.step_blank blank,
      ih sound.afterBlank]
  | case4 c rest written ih => exact ih (sound.step c)

theorem closed_oneSpaced {t : Text} (closed : Closed t) : Closed (oneSpaced t) := by
  unfold Closed at *
  rw [after_oneSpaced Nesting.sound_initial, closed]

/-! ### Parts -/

variable {mark : Char}

/-- No mark stands in blanks. -/
theorem lacks_cons_blank (sound : nesting.Sound) (written : isBlank mark = false)
    (blank : isBlank c = true) {rest : Text} :
    Lacks mark nesting (c :: rest) ↔ Lacks mark nesting.afterBlank rest := by
  have other : (c == mark) = false := beq_of_isBlank blank written
  rw [lacks_cons, sound.step_blank blank, other, Bool.and_false]
  exact and_iff_right rfl

theorem lacks_blanks (sound : nesting.Sound) (written : isBlank mark = false) {blanks : Text}
    (blank : allBlank blanks = true) : Lacks mark nesting blanks := by
  induction blanks generalizing nesting with
  | nil => rfl
  | cons c rest ih =>
    obtain ⟨here, later⟩ := Bool.and_eq_true_iff.mp blank
    exact (lacks_cons_blank sound written here).mpr (ih sound.afterBlank later)

theorem lacks_oneSpaced (sound : nesting.Sound) (written : isBlank mark = false) {t : Text}
    (lacks : Lacks mark nesting t) : Lacks mark nesting (oneSpaced t) := by
  fun_induction oneSpaced t generalizing nesting with
  | case1 => exact lacks
  | case2 c rest blank starts ih =>
    have below := ih sound.afterBlank ((lacks_cons_blank sound written blank).mp lacks)
    obtain ⟨more, shown⟩ := exists_oneSpaced_of_startsBlank starts
    rw [shown, lacks_cons_blank sound.afterBlank written isBlank_space,
      Nesting.afterBlank_afterBlank] at below
    rw [shown]
    exact (lacks_cons_blank sound written isBlank_space).mpr below
  | case3 c rest blank later ih =>
    rw [lacks_cons_blank sound written isBlank_space]
    exact ih sound.afterBlank ((lacks_cons_blank sound written blank).mp lacks)
  | case4 c rest notBlank ih =>
    rw [lacks_cons] at lacks ⊢
    exact ⟨lacks.1, ih (sound.step c) lacks.2⟩

theorem join_concat_append (mark first : Text) (before : List Text) (last : Text) :
    join mark (before ++ [last ++ first]) = join mark (before ++ [last]) ++ first := by
  induction before with
  | nil => simp [join]
  | cons part rest ih =>
    rw [List.cons_append, List.cons_append, join_cons _ _ (by simp), join_cons _ _ (by simp), ih,
      ← List.append_assoc]

theorem join_oneSpaced (written : isBlank mark = false) (parts : List Text) :
    join [mark] (parts.map oneSpaced) = oneSpaced (join [mark] parts) := by
  induction parts with
  | nil => rfl
  | cons first rest ih =>
    by_cases alone : rest = []
    · subst alone
      simp [join]
    · rw [List.map_cons, join_cons _ _ (by simpa using alone), ih, join_cons _ _ alone,
        List.append_assoc, List.append_assoc, List.singleton_append, List.singleton_append,
        oneSpaced_append_cons first written]

/-- **The parts of a text do not depend on the spacing.** -/
theorem splitTop_oneSpaced (isMark : IsMark mark) (written : isBlank mark = false) (t : Text) :
    splitTop mark (oneSpaced t) = (splitTop mark t).map oneSpaced := by
  obtain ⟨parts, joined⟩ := (splitTop_eq_iff isMark).mp (Eq.refl (splitTop mark t))
  refine (splitTop_eq_iff isMark).mpr ⟨⟨by simpa using parts.nonempty, ?_, ?_⟩, ?_⟩
  · exact List.pairwise_map.mpr (parts.closed.imp closed_oneSpaced)
  · intro part member
    obtain ⟨source, inside, rfl⟩ := List.mem_map.mp member
    exact lacks_oneSpaced Nesting.sound_initial written (parts.whole source inside)
  · rw [join_oneSpaced written, joined]

/-- Blanks in front of a text belong to its first part. -/
theorem splitTop_blanks_append (isMark : IsMark mark) (written : isBlank mark = false) {blanks : Text}
    (blank : allBlank blanks = true) (t : Text) :
    ∃ first others, splitTop mark t = first :: others ∧
      splitTop mark (blanks ++ t) = (blanks ++ first) :: others := by
  obtain ⟨parts, joined⟩ := (splitTop_eq_iff isMark).mp (Eq.refl (splitTop mark t))
  obtain ⟨first, others, isSplit⟩ := List.exists_cons_of_ne_nil parts.nonempty
  rw [isSplit] at parts joined
  refine ⟨first, others, isSplit, (splitTop_eq_iff isMark).mpr ⟨?_, ?_⟩⟩
  · have lacks : Lacks mark .initial (blanks ++ first) := by
      rw [lacks_append, Nesting.initial, after_blanks blank]
      exact ⟨lacks_blanks Nesting.sound_initial written blank, parts.whole first List.mem_cons_self⟩
    by_cases alone : others = []
    · subst alone
      exact areParts_singleton lacks
    · obtain ⟨closed, -, below⟩ := (areParts_cons_iff alone).mp parts
      refine (areParts_cons_iff alone).mpr ⟨?_, lacks, below⟩
      unfold Closed
      rw [Nesting.after_append, Nesting.initial, after_blanks blank]
      exact closed
  · rw [← joined]
    by_cases alone : others = []
    · subst alone
      simp [join]
    · rw [join_cons _ _ alone, join_cons _ _ alone, List.append_assoc, List.append_assoc,
        List.append_assoc]

/-- Blanks behind a text belong to its last part. -/
theorem splitTop_append_blanks (isMark : IsMark mark) (written : isBlank mark = false) (t : Text)
    {blanks : Text} (blank : allBlank blanks = true) :
    ∃ before last, splitTop mark t = before ++ [last] ∧
      splitTop mark (t ++ blanks) = before ++ [last ++ blanks] := by
  obtain ⟨parts, joined⟩ := (splitTop_eq_iff isMark).mp (Eq.refl (splitTop mark t))
  obtain ⟨before, last, isSplit⟩ := List.eq_nil_or_concat (splitTop mark t) |>.resolve_left parts.nonempty
  rw [List.concat_eq_append] at isSplit
  rw [isSplit] at parts joined
  refine ⟨before, last, isSplit, (splitTop_eq_iff isMark).mpr ⟨⟨by simp, ?_, ?_⟩, ?_⟩⟩
  · obtain ⟨inner, -, outer⟩ := List.pairwise_append.mp parts.closed
    exact List.pairwise_append.mpr ⟨inner, List.pairwise_singleton _ _, fun part member _ _ =>
      outer part member last List.mem_cons_self⟩
  · intro part member
    rcases List.mem_append.mp member with inside | isLast
    · exact parts.whole part (List.mem_append_left _ inside)
    · rw [List.mem_singleton.mp isLast, lacks_append]
      exact ⟨parts.whole last (by simp), lacks_blanks (Nesting.sound_initial.after last) written blank⟩
  · rw [← joined, join_concat_append]

end Blanks

/-! ### Literals -/

theorem map_oneSpaced_consFirst {c : Char} (written : isBlank c = false) (found : List Text) :
    (consFirst c found).map oneSpaced = consFirst c (found.map oneSpaced) := by
  cases found with
  | nil => exact congrArg ([·]) (oneSpaced_cons_written written [])
  | cons first rest => exact congrArg (· :: rest.map oneSpaced) (oneSpaced_cons_written written first)

/-- The first of two blanks leaves no trace. -/
theorem map_oneSpaced_consFirst_again {c d : Char} (blank : isBlank c = true) (blank' : isBlank d = true)
    (found : List Text) :
    (consFirst c (consFirst d found)).map oneSpaced = (consFirst d found).map oneSpaced := by
  have again : ∀ first : Text, oneSpaced (c :: d :: first) = oneSpaced (d :: first) := fun _ =>
    oneSpaced_cons_blank blank blank'
  cases found with
  | nil => exact congrArg ([·]) (again [])
  | cons first rest => exact congrArg (· :: rest.map oneSpaced) (again first)

/-- The last of several blanks is written as a space. -/
theorem map_oneSpaced_consFirst_last {c : Char} (blank : isBlank c = true) {found : List Text}
    (later : ∀ first ∈ found.head?, startsBlank first = false) :
    (consFirst c found).map oneSpaced = consFirst ' ' (found.map oneSpaced) := by
  cases found with
  | nil => exact congrArg ([·]) (oneSpaced_cons_last blank rfl)
  | cons first rest =>
    exact congrArg (· :: rest.map oneSpaced) (oneSpaced_cons_last blank (later first rfl))

theorem isCode_afterBlank (nesting : Nesting) : nesting.afterBlank.isCode = nesting.isCode := by
  cases nesting <;> rfl

/-- A blank belongs to the literal under way, if there is one. -/
theorem literalsFrom_cons_blank {nesting : Nesting} (sound : nesting.Sound) {c : Char}
    (blank : isBlank c = true) (rest : Text) :
    literalsFrom nesting (c :: rest) =
      if nesting.isCode then literalsFrom nesting rest
      else consFirst c (literalsFrom nesting.afterBlank rest) := by
  have notQuote := (isMark_of_isBlank blank).notQuote
  rw [literalsFrom, sound.step_blank blank]
  cases nesting with
  | code depth =>
    rw [notQuote]
    rfl
  | literal depth quote => rfl
  | escaped depth quote => rfl

/-- The literal under way goes on with the first character of what follows. -/
theorem head_literalsFrom {nesting : Nesting} (inside : nesting.isCode = false) {t first : Text}
    (isFirst : first ∈ (literalsFrom nesting t).head?) : startsBlank first = startsBlank t := by
  cases t with
  | nil => cases isFirst
  | cons c rest =>
    rw [literalsFrom, if_neg (by simp [inside])] at isFirst
    split at isFirst
    · cases isFirst
      rfl
    · cases later : literalsFrom (nesting.step c) rest with
      | nil =>
        rw [later] at isFirst
        cases isFirst
        rfl
      | cons second others =>
        rw [later] at isFirst
        cases isFirst
        rfl

theorem literalsFrom_oneSpaced {nesting : Nesting} (sound : nesting.Sound) (t : Text) :
    literalsFrom nesting (oneSpaced t) = (literalsFrom nesting t).map oneSpaced := by
  fun_induction oneSpaced t generalizing nesting with
  | case1 => rfl
  | case2 c rest blank starts ih =>
    rw [literalsFrom_cons_blank sound blank]
    by_cases outside : nesting.isCode = true
    · rw [if_pos outside, ih sound]
    -- the blank that follows stands for both of them
    · obtain ⟨more, shown⟩ := exists_oneSpaced_of_startsBlank starts
      have below := ih sound.afterBlank
      have inside : nesting.afterBlank.isCode = false := by simpa [isCode_afterBlank] using outside
      cases rest with
      | nil => cases starts
      | cons d others =>
        rw [if_neg outside, literalsFrom_cons_blank sound.afterBlank starts,
          if_neg (by simp [inside]), map_oneSpaced_consFirst_again blank starts]
        rw [shown, literalsFrom_cons_blank sound.afterBlank isBlank_space,
          literalsFrom_cons_blank sound.afterBlank starts, if_neg (by simp [inside]),
          if_neg (by simp [inside]), Nesting.afterBlank_afterBlank] at below
        rw [shown, literalsFrom_cons_blank sound isBlank_space, if_neg outside, below,
          Nesting.afterBlank_afterBlank]
  | case3 c rest blank later ih =>
    rw [literalsFrom_cons_blank sound blank, literalsFrom_cons_blank sound isBlank_space]
    by_cases outside : nesting.isCode = true
    · rw [if_pos outside, if_pos outside, ih sound]
    · have inside : nesting.afterBlank.isCode = false := by simpa [isCode_afterBlank] using outside
      rw [if_neg outside, if_neg outside, ih sound.afterBlank, map_oneSpaced_consFirst_last blank]
      intro first isFirst
      rw [head_literalsFrom inside isFirst]
      simpa using later
  | case4 c rest notBlank ih =>
    have written : isBlank c = false := by simpa using notBlank
    rw [literalsFrom, literalsFrom, ih (sound.step c), ← map_oneSpaced_consFirst written]
    split_ifs
    · rfl
    · rfl
    · rw [List.map_cons, oneSpaced_cons_written written]
      rfl
    · rfl

/-- **The literals of a spaced text are the literals of the text, spaced.** -/
theorem literals_oneSpaced (t : Text) : literals (oneSpaced t) = (literals t).map oneSpaced :=
  literalsFrom_oneSpaced Nesting.sound_initial t

theorem literalsFrom_blanks {blanks : Text} (blank : allBlank blanks = true) (depth : Nat) (t : Text) :
    literalsFrom (.code depth) (blanks ++ t) = literalsFrom (.code depth) t := by
  induction blanks with
  | nil => rfl
  | cons c rest ih =>
    obtain ⟨here, later⟩ := Bool.and_eq_true_iff.mp blank
    have sound : (Nesting.code depth).Sound := trivial
    rw [List.cons_append, literalsFrom_cons_blank sound here]
    exact ih later

/-- Blanks behind a text that leaves no literal open are in no literal. -/
theorem literalsFrom_append_blanks {nesting : Nesting} {t : Text} {depth : Nat}
    (closed : nesting.after t = .code depth) {blanks : Text} (blank : allBlank blanks = true) :
    literalsFrom nesting (t ++ blanks) = literalsFrom nesting t := by
  induction t generalizing nesting with
  | nil =>
    have none := literalsFrom_blanks blank depth []
    rw [List.append_nil] at none
    rw [Nesting.after_nil] at closed
    rw [closed, List.nil_append, none]
  | cons c rest ih => rw [List.cons_append, literalsFrom, literalsFrom, ih closed]

/-- **The literals of a text that leaves none open, written with its words one space apart**, are its
literals, spaced. -/
theorem literals_squeeze {t : Text} (closed : Closed t) :
    literals (squeeze t) = (literals t).map oneSpaced := by
  obtain ⟨lead, tail, leadBlank, tailBlank, split⟩ := exists_blanks_trim t
  have same : literals t = literals (trim t) := by
    conv_lhs => rw [split]
    exact (literalsFrom_blanks leadBlank 0 _).trans
      (literalsFrom_append_blanks (closed_trim closed) tailBlank)
  rw [squeeze_eq_oneSpaced, literals_oneSpaced, same]

end Declaration

namespace DeclaredParam

/-! ### Parameters -/

/-- The parameter with the words of its texts one space apart. -/
def squeezed (p : DeclaredParam) : DeclaredParam :=
  ⟨squeeze p.name, squeeze p.declaredType, p.default.map squeeze⟩

/-- An entry is cut at the same mark, however it is spaced. -/
theorem cutEntry_oneSpaced {mark : Char} (isMark : IsMark mark) (written : isBlank mark = false)
    (t : Text) :
    cutEntry mark (oneSpaced t) = (oneSpaced (cutEntry mark t).1, (cutEntry mark t).2.map squeeze) := by
  rcases cutEntry_cases t isMark with ⟨lacks, cut⟩ | ⟨before, after, rfl, lacks, closed, cut⟩
  · have missing := lacks_oneSpaced Nesting.sound_initial written lacks
    rw [cut]
    unfold cutEntry cutTop?
    rw [missing]
    rfl
  · have found := (cutTopFrom?_eq_some_iff isMark).mpr
      ⟨oneSpaced_append_cons before written after, lacks_oneSpaced Nesting.sound_initial written lacks,
        closed_oneSpaced closed⟩
    rw [cut]
    unfold cutEntry cutTop?
    rw [found]
    simp only [trim_oneSpaced, Option.map_some, squeeze_trim]

theorem isSeparator_oneSpaced (entry : Text) : isSeparator (oneSpaced entry) = isSeparator entry := by
  rw [isSeparator, isSeparator, isEmpty_oneSpaced]
  simp only [oneSpaced_eq_singleton_iff (c := '*') (by decide),
    oneSpaced_eq_singleton_iff (c := '/') (by decide)]

/-- **An entry of the parameter list is read alike**, however it is spaced. -/
theorem read?_oneSpaced (entry : Text) : read? (oneSpaced entry) = (read? entry).map squeezed := by
  have values := cutEntry_oneSpaced isMark_equals (by decide) (trim entry)
  have types := cutEntry_oneSpaced isMark_colon (by decide) (cutEntry '=' (trim entry)).1
  unfold read?
  simp only [trim_oneSpaced, squeeze_eq_oneSpaced, isSeparator_oneSpaced, values, types]
  split
  · rfl
  · rw [Option.map_some, squeezed, squeeze_trim, ← squeeze_eq_oneSpaced]
    cases (cutEntry ':' (cutEntry '=' (trim entry)).1).2 <;> rfl

theorem read?_trim (entry : Text) : read? (trim entry) = read? entry := by
  unfold read?
  rw [trim_trim]

theorem readAll_oneSpaced (t : Text) : readAll (oneSpaced t) = (readAll t).map squeezed := by
  unfold readAll
  rw [splitTop_oneSpaced isMark_comma (by decide), List.filterMap_map, List.map_filterMap]
  exact List.filterMap_congr fun entry _ => read?_oneSpaced entry

/-- Blanks around a parameter text belong to its outer entries. -/
theorem readAll_trim (t : Text) : readAll (trim t) = readAll t := by
  obtain ⟨lead, tail, leadBlank, tailBlank, split⟩ := exists_blanks_trim t
  obtain ⟨first, others, isSplit, isSplit'⟩ :=
    splitTop_blanks_append isMark_comma (by decide) leadBlank (trim t ++ tail)
  obtain ⟨before, last, isSplitEnd, isSplitEnd'⟩ :=
    splitTop_append_blanks isMark_comma (by decide) (trim t) tailBlank
  have starts : read? (lead ++ first) = read? first := by
    rw [← read?_trim, trim_append_blanks leadBlank, read?_trim]
  have ends : read? (last ++ tail) = read? last := by
    rw [← read?_trim, trim_append_blank last tailBlank, read?_trim]
  unfold readAll
  conv_rhs => rw [split, isSplit', List.filterMap_cons, starts, ← List.filterMap_cons, ← isSplit,
    isSplitEnd', List.filterMap_append, List.filterMap_cons, ends, ← List.filterMap_cons,
    ← List.filterMap_append, ← isSplitEnd]

/-- **The parameters of a text with its words one space apart** are the parameters of the text, spaced
likewise. -/
theorem readAll_squeeze (t : Text) : readAll (squeeze t) = (readAll t).map squeezed := by
  rw [squeeze_eq_oneSpaced, readAll_oneSpaced, readAll_trim]

end DeclaredParam

end ReferencePages
