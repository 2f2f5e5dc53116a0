/-
**Names.**

A name is written in letters, digits and underscores, so it holds neither blanks nor any mark of the
layout, and a heading that shows it is read back as the name:

* `isName_of_identifier?`: what is read as an identifier is a name;
* `IsName.trim_space`, `IsName.unescape_escapeHeading`: a name behind a space and behind escapes.
-/

import ReferencePages.Markdown.Escape
import ReferencePages.Proofs.Text.Ends
import ReferencePages.Text.Identifier

namespace ReferencePages.Text

open Markdown

/-- A text of letters, digits and underscores that is not empty. -/
structure IsName (name : Text) : Prop where
  nonempty : name ≠ []
  letters : ∀ c ∈ name, isNameRest c = true

theorem IsName.not_mem {name : Text} (isName : IsName name) {c : Char}
    (other : isNameRest c = false) : c ∉ name := by
  intro member
  rw [isName.letters c member] at other
  cases other

theorem IsName.unbroken {name : Text} (isName : IsName name) : '\n' ∉ name :=
  isName.not_mem (by decide)

theorem IsName.noBacktick {name : Text} (isName : IsName name) : '\x60' ∉ name :=
  isName.not_mem (by decide)

/-! ### Reading names -/

theorem isNameRest_of_isNameStart {c : Char} (start : isNameStart c = true) :
    isNameRest c = true := by
  unfold isNameStart at start
  unfold isNameRest Char.isAlphanum
  simp only [Bool.or_eq_true] at start ⊢
  exact start.elim (fun alpha => Or.inl (Or.inl alpha)) Or.inr

theorem isName_of_identifier? {t name rest : Text} (read : identifier? t = some (name, rest)) :
    IsName name := by
  cases t with
  | nil => cases read
  | cons first tail =>
    rw [identifier?, name?] at read
    by_cases start : isNameStart first = true
    · rw [if_pos start] at read
      obtain ⟨rfl, -⟩ := Prod.mk.inj (Option.some.inj read)
      refine ⟨List.cons_ne_nil _ _, fun c member => ?_⟩
      rcases List.mem_cons.mp member with rfl | inTail
      · exact isNameRest_of_isNameStart start
      · exact List.mem_takeWhile_imp inTail
    · rw [if_neg start] at read
      cases read

/-! ### Blanks and names -/

theorem isBlank_of_isNameRest {c : Char} (letter : isNameRest c = true) : isBlank c = false := by
  have range : (48 ≤ c.toNat ∧ c.toNat ≤ 57) ∨ (65 ≤ c.toNat ∧ c.toNat ≤ 90) ∨
      (97 ≤ c.toNat ∧ c.toNat ≤ 122) ∨ c.toNat = 95 := by
    change (((decide (65 ≤ c.val ∧ c.val ≤ 90) || (97 ≤ c.val && c.val ≤ 122)) ||
      (48 ≤ c.val && c.val ≤ 57)) || c == '_') = true at letter
    simp only [Bool.or_eq_true, Bool.and_eq_true, decide_eq_true_eq, UInt32.le_iff_toNat_le,
      beq_iff_eq] at letter
    rcases letter with ((upper | lower) | digit) | underscore
    · exact Or.inr (Or.inl upper)
    · exact Or.inr (Or.inr (Or.inl lower))
    · exact Or.inl digit
    · exact Or.inr (Or.inr (Or.inr (by rw [underscore]; rfl)))
  unfold isBlank
  simp only [Bool.or_eq_false_iff, Bool.and_eq_false_iff, decide_eq_false_iff_not, beq_eq_false_iff_ne]
  omega

/-- A text without blanks is left alone, also behind a space. -/
theorem trim_space_of_not_blank {t : Text} (written : ∀ c ∈ t, isBlank c = false) :
    trim (' ' :: t) = t := by
  have start : trimStart (' ' :: t) = t := by
    show t.dropWhile isBlank = t
    cases t with
    | nil => rfl
    | cons c rest => exact List.dropWhile_cons_of_neg (by simp [written c List.mem_cons_self])
  unfold trim
  rw [start]
  rcases List.eq_nil_or_concat' t with rfl | ⟨before, c, rfl⟩
  · rfl
  · exact trimEnd_of_endsWritten ⟨before, c, rfl, written c (by simp)⟩

theorem IsName.endsWritten {name : Text} (isName : IsName name) : EndsWritten name := by
  obtain ⟨before, c, rfl⟩ := (List.eq_nil_or_concat' name).resolve_left isName.nonempty
  exact ⟨before, c, rfl, isBlank_of_isNameRest (isName.letters c (by simp))⟩

theorem IsName.trim_space {name : Text} (isName : IsName name) : trim (' ' :: name) = name :=
  trim_space_of_not_blank fun c member => isBlank_of_isNameRest (isName.letters c member)

/-! ### Names in headings -/

theorem unescape_cons {c : Char} (noSlash : c ≠ '\\') (rest : Text) :
    unescape (c :: rest) = c :: unescape rest := by
  cases rest with
  | nil => rfl
  | cons next rest =>
    rw [unescape, if_neg (by simpa using noSlash)]

theorem unescape_of_not_mem {t : Text} (noSlash : '\\' ∉ t) : unescape t = t := by
  induction t with
  | nil => rfl
  | cons c rest ih =>
    rw [List.mem_cons, not_or] at noSlash
    rw [unescape_cons (Ne.symm noSlash.1), ih noSlash.2]

theorem unescape_escapeChar {mark : Char} {t : Text} (noSlash : '\\' ∉ t) :
    unescape (escapeChar mark t) = t := by
  induction t with
  | nil => rfl
  | cons c rest ih =>
    rw [List.mem_cons, not_or] at noSlash
    have others := ih noSlash.2
    unfold escapeChar at others ⊢
    rw [List.flatMap_cons]
    by_cases same : (c == mark) = true
    · rw [if_pos same]
      exact congrArg (c :: ·) others
    · rw [if_neg same, List.singleton_append, unescape_cons (Ne.symm noSlash.1), others]

theorem IsName.unescape {name : Text} (isName : IsName name) : Markdown.unescape name = name :=
  unescape_of_not_mem (isName.not_mem (by decide))

/-- An escaped name ends as the name does. -/
theorem endsWritten_escapeChar {mark : Char} {t : Text} (written : EndsWritten t) :
    EndsWritten (escapeChar mark t) := by
  obtain ⟨before, c, rfl, notBlank⟩ := written
  unfold escapeChar
  rw [List.flatMap_append]
  refine EndsWritten.append ?_ _
  by_cases same : (c == mark) = true
  · refine ⟨['\\'], c, ?_, notBlank⟩
    rw [List.flatMap_singleton, if_pos same]
    rfl
  · refine ⟨[], c, ?_, notBlank⟩
    rw [List.flatMap_singleton, if_neg same]
    rfl

/-- **A name is read back from its heading.** -/
theorem IsName.unescape_escapeHeading {name : Text} (isName : IsName name) :
    Markdown.unescape (trim (' ' :: escapeHeading name)) = name := by
  have written : ∀ c ∈ escapeHeading name, isBlank c = false := by
    intro c member
    obtain ⟨d, inside, shown⟩ := List.mem_flatMap.mp member
    have letter := isBlank_of_isNameRest (isName.letters d inside)
    by_cases same : (d == '_') = true
    · rw [if_pos same] at shown
      rcases List.mem_cons.mp shown with rfl | shown
      · decide
      · rwa [List.mem_singleton.mp shown]
    · rw [if_neg same] at shown
      rwa [List.mem_singleton.mp shown]
  rw [trim_space_of_not_blank written]
  exact unescape_escapeChar (isName.not_mem (by decide))

end ReferencePages.Text
