/-
**Names between spaces and tabs.**

Declarations are written with spaces and tabs between their words. A reader passes over them up to the
next word, and takes a name up to the first character that does not go on with it.

* `IsIdentifier`: a name that does not open with a digit; `IsIdentifier.identifier?_append` reads it in
  front of anything else;
* `IsGap`: the space between two words; `afterWord?_append`: a word in front of a gap is passed over,
  and `afterWord?_eq_none`: no other name is;
* `append_of_identifier?`: what is read is where it was written.
-/

import ReferencePages.Declaration.Header
import ReferencePages.Proofs.Text.Cuts
import ReferencePages.Proofs.Text.Names

namespace ReferencePages.Text

open Declaration

/-! ### Spaces and tabs -/

theorem isBlank_of_isPad {c : Char} (pad : isPad c = true) : isBlank c = true := by
  unfold isPad at pad
  rw [Bool.or_eq_true, beq_iff_eq, beq_iff_eq] at pad
  rcases pad with rfl | rfl <;> decide

theorem isPad_eq_false_of_isBlank {c : Char} (written : isBlank c = false) : isPad c = false := by
  by_contra pad
  rw [isBlank_of_isPad (eq_true_of_ne_false pad)] at written
  cases written

theorem isPad_eq_false_of_isNameRest {c : Char} (letter : isNameRest c = true) : isPad c = false :=
  isPad_eq_false_of_isBlank (isBlank_of_isNameRest letter)

theorem allBlank_of_isPad {t : Text} (pads : ∀ c ∈ t, isPad c = true) : allBlank t = true :=
  List.all_eq_true.mpr fun c member => isBlank_of_isPad (pads c member)

theorem dropPads_append_of_isPad {pads : Text} (each : ∀ c ∈ pads, isPad c = true) (t : Text) :
    dropPads (pads ++ t) = dropPads t := List.dropWhile_append_of_pos each

theorem dropPads_cons_of_not_isPad {c : Char} (noPad : isPad c = false) (t : Text) :
    dropPads (c :: t) = c :: t := List.dropWhile_cons_of_neg (by simp [noPad])

/-- The space between two words of a declaration. -/
structure IsGap (gap : Text) : Prop where
  nonempty : gap ≠ []
  pads : ∀ c ∈ gap, isPad c = true

theorem isGap_space : IsGap [' '] := ⟨List.cons_ne_nil _ _, List.forall_mem_singleton.mpr rfl⟩

theorem afterPads?_append {gap : Text} (isGap : IsGap gap) (t : Text) :
    afterPads? (gap ++ t) = some (dropPads t) := by
  obtain ⟨c, more, rfl⟩ := List.exists_cons_of_ne_nil isGap.nonempty
  rw [List.cons_append, afterPads?, if_pos (isGap.pads c List.mem_cons_self),
    dropPads_append_of_isPad fun d member => isGap.pads d (List.mem_cons_of_mem _ member)]

theorem exists_isGap_of_afterPads? {t rest : Text} (same : afterPads? t = some rest) :
    ∃ gap, IsGap gap ∧ t = gap ++ rest := by
  cases t with
  | nil => cases same
  | cons c more =>
    rw [afterPads?] at same
    split at same
    · rename_i pad
      cases same
      refine ⟨c :: more.takeWhile isPad, ⟨List.cons_ne_nil _ _, fun d member => ?_⟩, ?_⟩
      · rcases List.mem_cons.mp member with rfl | inMore
        · exact pad
        · exact List.mem_takeWhile_imp inMore
      · exact congrArg (c :: ·) List.takeWhile_append_dropWhile.symm
    · cases same

/-- **A word in front of a gap is passed over.** -/
theorem afterWord?_append {gap : Text} (isGap : IsGap gap) (word : String) (t : Text) :
    afterWord? word (word.toList ++ (gap ++ t)) = some (dropPads t) := by
  have opens := after?_eq_some_iff.mpr (Eq.refl (word.toList ++ (gap ++ t)))
  unfold afterWord?
  rw [opens, Option.bind_eq_bind, Option.bind_some, afterPads?_append isGap]

theorem exists_isGap_of_afterWord? {word : String} {t rest : Text}
    (same : afterWord? word t = some rest) :
    ∃ gap, IsGap gap ∧ t = word.toList ++ (gap ++ rest) := by
  obtain ⟨behind, opens, same⟩ := Option.bind_eq_some_iff.mp same
  obtain ⟨gap, isGap, rfl⟩ := exists_isGap_of_afterPads? same
  exact ⟨gap, isGap, after?_eq_some_iff.mp opens⟩

/-! ### Identifiers -/

theorem append_of_identifier? {t name rest : Text} (read : identifier? t = some (name, rest)) :
    t = name ++ rest := by
  cases t with
  | nil => cases read
  | cons c more =>
    rw [identifier?, name?] at read
    split at read
    · obtain ⟨rfl, rfl⟩ := Prod.mk.inj (Option.some.inj read)
      exact congrArg (c :: ·) List.takeWhile_append_dropWhile.symm
    · cases read

/-- An ASCII letter or an underscore, with letters, digits and underscores behind. -/
def IsIdentifier (name : Text) : Prop :=
  ∃ first rest, name = first :: rest ∧ isNameStart first = true ∧ ∀ c ∈ rest, isNameRest c = true

instance (name : Text) : Decidable (IsIdentifier name) :=
  match name with
  | [] => .isFalse fun ⟨_, _, same, _⟩ => by cases same
  | first :: rest =>
    decidable_of_iff (isNameStart first = true ∧ rest.all isNameRest = true)
      ⟨fun ⟨start, more⟩ => ⟨first, rest, rfl, start, List.all_eq_true.mp more⟩,
        fun ⟨_, _, same, start, more⟩ => by cases same; exact ⟨start, List.all_eq_true.mpr more⟩⟩

theorem IsIdentifier.isName {name : Text} (isIdentifier : IsIdentifier name) : IsName name := by
  obtain ⟨first, rest, rfl, start, more⟩ := isIdentifier
  refine ⟨List.cons_ne_nil _ _, fun c member => ?_⟩
  rcases List.mem_cons.mp member with rfl | inRest
  · exact isNameRest_of_isNameStart start
  · exact more c inRest

/-- **An identifier is read up to a character that does not go on with it.** -/
theorem IsIdentifier.identifier?_append {name : Text} (isIdentifier : IsIdentifier name) {more : Text}
    (stops : ∀ c ∈ more.head?, isNameRest c = false) :
    identifier? (name ++ more) = some (name, more) := by
  obtain ⟨first, rest, rfl, start, letters⟩ := isIdentifier
  rw [identifier?, List.cons_append, name?, if_pos start, List.takeWhile_append_of_pos letters,
    List.dropWhile_append_of_pos letters]
  cases more with
  | nil => simp
  | cons c more =>
    have stop : isNameRest c = false := stops c rfl
    rw [List.takeWhile_cons_of_neg (by simp [stop]), List.dropWhile_cons_of_neg (by simp [stop]),
      List.append_nil]

theorem isIdentifier_of_identifier? {name : Text} (same : identifier? name = some (name, [])) :
    IsIdentifier name := by
  cases name with
  | nil => cases same
  | cons first rest =>
    rw [identifier?, name?] at same
    split at same
    · rename_i start
      obtain ⟨whole, -⟩ := Prod.mk.inj (Option.some.inj same)
      refine ⟨first, rest, rfl, start, fun c member => ?_⟩
      rw [← (List.cons.inj whole).2] at member
      exact List.mem_takeWhile_imp member
    · cases same

/-- Neither spaces and tabs nor a mark behind them go on with a name. -/
theorem stops_append {pads more : Text} (each : ∀ c ∈ pads, isPad c = true)
    (stops : ∀ c ∈ more.head?, isNameRest c = false) :
    ∀ c ∈ (pads ++ more).head?, isNameRest c = false := by
  cases pads with
  | nil => exact stops
  | cons d pads =>
    intro c member
    obtain rfl : d = c := Option.some.inj member
    by_contra letter
    have noPad := isPad_eq_false_of_isNameRest (eq_true_of_ne_false letter)
    rw [each d List.mem_cons_self] at noPad
    cases noPad

theorem IsName.dropPads_append {name : Text} (isName : IsName name) (more : Text) :
    dropPads (name ++ more) = name ++ more := by
  obtain ⟨first, rest, rfl⟩ := List.exists_cons_of_ne_nil isName.nonempty
  exact dropPads_cons_of_not_isPad
    (isPad_eq_false_of_isNameRest (isName.letters first List.mem_cons_self)) _

theorem trim_of_isName {name : Text} (isName : IsName name) : trim name = name := by
  have space : allBlank [' '] = true := by decide
  rw [← trim_append_blanks space name]
  exact isName.trim_space

/-- **A name in front of a gap is read as a word only when it is the word.** -/
theorem afterWord?_eq_none {word : String} {name : Text} (letters : IsName word.toList)
    (isName : IsName name) (other : name ≠ word.toList) {gap : Text} (isGap : IsGap gap) (t : Text) :
    afterWord? word (name ++ (gap ++ t)) = none := by
  -- The name and the word both end at the first space or tab.
  have upToPad {letters : Text} (isName : IsName letters) {c : Char} (pad : isPad c = true)
      (more : Text) :
      (letters ++ c :: more).takeWhile isNameRest = letters := by
    have stop : ¬ isNameRest c = true := fun letter => by
      rw [isPad_eq_false_of_isNameRest letter] at pad
      cases pad
    rw [List.takeWhile_append_of_pos isName.letters, List.takeWhile_cons_of_neg stop, List.append_nil]
  by_contra found
  obtain ⟨result, found⟩ := Option.ne_none_iff_exists'.mp found
  obtain ⟨rest, opens, found⟩ := Option.bind_eq_some_iff.mp found
  obtain ⟨c, gap', rfl⟩ := List.exists_cons_of_ne_nil isGap.nonempty
  cases rest with
  | nil => cases found
  | cons d rest =>
    rw [afterPads?] at found
    split at found
    · rename_i pad
      have same := congrArg (List.takeWhile isNameRest) (after?_eq_some_iff.mp opens)
      rw [List.cons_append, upToPad isName (isGap.pads c List.mem_cons_self),
        upToPad letters pad] at same
      exact other same
    · cases found

end ReferencePages.Text
