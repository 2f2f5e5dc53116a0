/-
**Replacing a mark.**

`replaceAll` walks over a text from the left and passes over each occurrence of the mark it replaces.
`replaceAll_induction` follows this walk: at each place the text keeps a character, or the mark gives
way to the new text. From it:

* `replaceAll_append_of_elsewhere`: what no occurrence starts in stays; so does a text without the mark
  (`replaceAll_of_elsewhere`), or without a character of it (`replaceAll_of_not_mem`);
* `getLast?_replaceAll`: the text ends as before when the mark and the new text end alike;
* `replaceAll_shape`: up to the first occurrence, and with what the mark and the new text have in
  common, the text starts as before; so it opens with the same texts that do not reach beyond that
  (`isPrefix_replaceAll_iff`);
* `replaceAll_joinLines`: a mark without a break is replaced line by line.
-/

import ReferencePages.Proofs.Text.Lines

namespace ReferencePages.Text

variable {mark new : Text}

/-! ### The walk -/

theorem opensWith_eq_true_iff {t : Text} : opensWith mark t = true ↔ mark <+: t := by
  unfold opensWith
  exact List.isPrefixOf_iff_prefix

theorem opensWith_eq_false_iff {t : Text} : opensWith mark t = false ↔ ¬ mark <+: t := by
  rw [← opensWith_eq_true_iff, Bool.not_eq_true]

theorem replaceFrom_skip (mark new skipped rest : Text) :
    replaceFrom mark new skipped.length (skipped ++ rest) = replaceFrom mark new 0 rest := by
  induction skipped with
  | nil => rfl
  | cons c skipped ih =>
    rw [List.cons_append, List.length_cons, replaceFrom]
    exact ih

/-- An occurrence of the mark gives way to the new text. -/
theorem replaceAll_mark (nonempty : mark ≠ []) (new rest : Text) :
    replaceAll mark new (mark ++ rest) = new ++ replaceAll mark new rest := by
  obtain ⟨c, tail, rfl⟩ := List.exists_cons_of_ne_nil nonempty
  have opens : opensWith (c :: tail) (c :: (tail ++ rest)) = true :=
    opensWith_eq_true_iff.mpr (List.prefix_append (c :: tail) rest)
  unfold replaceAll
  rw [List.cons_append, replaceFrom, if_pos opens]
  exact congrArg (new ++ ·) (replaceFrom_skip (c :: tail) new tail rest)

/-- A character that no occurrence starts at stays. -/
theorem replaceAll_cons {c : Char} {rest : Text} (elsewhere : opensWith mark (c :: rest) = false) :
    replaceAll mark new (c :: rest) = c :: replaceAll mark new rest := by
  unfold replaceAll
  rw [replaceFrom, if_neg (by simp [elsewhere])]

/-- **Induction along the walk.** -/
theorem replaceAll_induction {P : Text → Text → Prop} (nonempty : mark ≠ []) (nil : P [] [])
    (keep : ∀ c rest, opensWith mark (c :: rest) = false → P rest (replaceAll mark new rest) →
      P (c :: rest) (c :: replaceAll mark new rest))
    (swap : ∀ rest, P rest (replaceAll mark new rest) →
      P (mark ++ rest) (new ++ replaceAll mark new rest)) (t : Text) :
    P t (replaceAll mark new t) := by
  induction length : t.length using Nat.strong_induction_on generalizing t with
  | _ n ih =>
    cases t with
    | nil => exact nil
    | cons c rest =>
      by_cases opens : opensWith mark (c :: rest) = true
      · obtain ⟨after, same⟩ := opensWith_eq_true_iff.mp opens
        have shorter : after.length < n := by
          have total := congrArg List.length same
          have positive := List.length_pos_of_ne_nil nonempty
          rw [List.length_append] at total
          omega
        rw [← same, replaceAll_mark nonempty]
        exact swap after (ih after.length shorter after rfl)
      · have elsewhere : opensWith mark (c :: rest) = false := by simpa using opens
        rw [List.length_cons] at length
        rw [replaceAll_cons elsewhere]
        exact keep c rest elsewhere (ih rest.length (by omega) rest rfl)

/-! ### What stays -/

/-- **What no occurrence starts in stays.** -/
theorem replaceAll_append_of_elsewhere {start rest : Text}
    (elsewhere : ∀ i, i < start.length → ¬ mark <+: (start ++ rest).drop i) :
    replaceAll mark new (start ++ rest) = start ++ replaceAll mark new rest := by
  induction start with
  | nil => rfl
  | cons c start ih =>
    have here : opensWith mark (c :: (start ++ rest)) = false :=
      opensWith_eq_false_iff.mpr (elsewhere 0 (Nat.succ_pos _))
    rw [List.cons_append, replaceAll_cons here,
      ih fun i inside => elsewhere (i + 1) (Nat.succ_lt_succ inside), List.cons_append]

/-- A text without the mark stays as it is. -/
theorem replaceAll_of_elsewhere {t : Text} (elsewhere : ∀ i, ¬ mark <+: t.drop i) :
    replaceAll mark new t = t := by
  have stays : replaceAll mark new (t ++ []) = t ++ replaceAll mark new [] :=
    replaceAll_append_of_elsewhere fun i _ => by
      rw [List.append_nil]
      exact elsewhere i
  rw [List.append_nil] at stays
  exact stays.trans (List.append_nil t)

/-- A text without a character of the mark holds no occurrence. -/
theorem replaceAll_of_not_mem {c : Char} (inMark : c ∈ mark) {t : Text} (missing : c ∉ t) :
    replaceAll mark new t = t := by
  refine replaceAll_induction (P := fun t shown => c ∉ t → shown = t) (List.ne_nil_of_mem inMark)
    (fun _ => rfl) (fun d rest _ same missing => ?_) (fun rest _ missing => ?_) t missing
  · rw [same fun inside => missing (List.mem_cons_of_mem _ inside)]
  · exact absurd (List.mem_append_left _ inMark) missing

theorem not_mem_replaceAll {c : Char} (nonempty : mark ≠ []) (notNew : c ∉ new) {t : Text}
    (missing : c ∉ t) : c ∉ replaceAll mark new t := by
  refine replaceAll_induction (P := fun t shown => c ∉ t → c ∉ shown) nonempty
    (fun missing => missing) (fun d rest _ ih missing => ?_) (fun rest ih missing => ?_) t missing
  · rw [List.mem_cons, not_or] at missing ⊢
    exact ⟨missing.1, ih missing.2⟩
  · rw [List.mem_append, not_or] at missing ⊢
    exact ⟨notNew, ih missing.2⟩

/-- **The text ends as before** when the mark and the new text end alike. -/
theorem getLast?_replaceAll (nonempty : mark ≠ []) (alike : new.getLast? = mark.getLast?) (t : Text) :
    (replaceAll mark new t).getLast? = t.getLast? := by
  refine replaceAll_induction (P := fun t shown => shown.getLast? = t.getLast?) nonempty rfl
    (fun c rest _ same => ?_) (fun rest same => ?_) t
  · rw [List.getLast?_cons, List.getLast?_cons, same]
  · rw [List.getLast?_append, List.getLast?_append, same, alike]

/-- **The text starts as before** up to the first occurrence and what both marks start with. -/
theorem replaceAll_shape {lead : Text} (nonempty : lead ≠ []) (old other t : Text) :
    replaceAll (lead ++ old) (lead ++ other) t = t ∨
      ∃ before after shown, t = before ++ (lead ++ after) ∧
        replaceAll (lead ++ old) (lead ++ other) t = before ++ (lead ++ shown) := by
  refine replaceAll_induction (P := fun t shown => shown = t ∨ ∃ before after rest,
      t = before ++ (lead ++ after) ∧ shown = before ++ (lead ++ rest))
    (List.append_ne_nil_of_left_ne_nil nonempty _) (Or.inl rfl) (fun c rest _ ih => ?_)
    (fun rest _ => ?_) t
  · rcases ih with same | ⟨before, after, shown, split, starts⟩
    · exact Or.inl (by rw [same])
    · exact Or.inr ⟨c :: before, after, shown, by rw [split, List.cons_append], by
        rw [starts, List.cons_append]⟩
  · exact Or.inr ⟨[], old ++ rest, other ++ replaceAll (lead ++ old) (lead ++ other) rest, by simp,
      by simp⟩

/-- A text that does not hold what both marks start with opens the replaced text exactly when it opens
the text itself. -/
theorem isPrefix_replaceAll_iff {lead start : Text} (nonempty : lead ≠ []) (noLead : ¬ lead <:+: start)
    (old other t : Text) : start <+: replaceAll (lead ++ old) (lead ++ other) t ↔ start <+: t := by
  have upToLead : ∀ before more : Text,
      start <+: before ++ (lead ++ more) ↔ start <+: before ++ lead := by
    intro before more
    rw [← List.append_assoc]
    refine ⟨fun opens => ?_, fun opens => opens.trans (List.prefix_append _ _)⟩
    refine (List.prefix_or_prefix_of_prefix opens (List.prefix_append _ more)).resolve_right ?_
    exact fun reaches => noLead ((List.suffix_append before lead).isInfix.trans reaches.isInfix)
  rcases replaceAll_shape nonempty old other t with same | ⟨before, after, shown, rfl, starts⟩
  · rw [same]
  · rw [starts, upToLead, upToLead]

/-- A character behind the text that the mark does not end with is of no occurrence. -/
theorem replaceAll_concat (nonempty : mark ≠ []) {c : Char} (other : mark.getLast? ≠ some c)
    (t : Text) : replaceAll mark new (t ++ [c]) = replaceAll mark new t ++ [c] := by
  have ends : ∀ rest : Text, mark <+: rest ++ [c] → mark <+: rest := by
    intro rest opens
    refine (List.prefix_concat_iff.mp opens).resolve_left fun same => other ?_
    rw [same, List.getLast?_concat]
  refine replaceAll_induction (P := fun t shown => replaceAll mark new (t ++ [c]) = shown ++ [c])
    nonempty ?_ (fun d rest elsewhere same => ?_) (fun rest same => ?_) t
  · have missing : ¬ mark <+: [c] := fun opens => nonempty (List.prefix_nil.mp (ends [] opens))
    exact replaceAll_cons (opensWith_eq_false_iff.mpr missing)
  · have missing : ¬ mark <+: d :: (rest ++ [c]) := fun opens =>
      opensWith_eq_false_iff.mp elsewhere (ends (d :: rest) opens)
    rw [List.cons_append, replaceAll_cons (opensWith_eq_false_iff.mpr missing), same,
      List.cons_append]
  · rw [List.append_assoc, replaceAll_mark nonempty, same, List.append_assoc]

/-! ### Line by line -/

/-- A character that is not of the mark bounds its occurrences. -/
theorem opensWith_append_cons {c : Char} (other : c ∉ mark) (t rest : Text) :
    opensWith mark (t ++ c :: rest) = opensWith mark t := by
  unfold opensWith
  induction t generalizing mark with
  | nil =>
    cases mark with
    | nil => rfl
    | cons m mark =>
      rw [List.mem_cons, not_or] at other
      simp [List.isPrefixOf, Ne.symm other.1]
  | cons d t ih =>
    cases mark with
    | nil => rfl
    | cons m mark =>
      rw [List.mem_cons, not_or] at other
      simp only [List.cons_append, List.isPrefixOf, ih other.2]

theorem replaceAll_break (nonempty : mark ≠ []) (unbroken : '\n' ∉ mark) (line rest : Text) :
    replaceAll mark new (line ++ '\n' :: rest) =
      replaceAll mark new line ++ '\n' :: replaceAll mark new rest := by
  refine replaceAll_induction (P := fun t shown => replaceAll mark new (t ++ '\n' :: rest) =
    shown ++ '\n' :: replaceAll mark new rest) nonempty ?_ (fun c tail elsewhere same => ?_)
    (fun tail same => ?_) line
  · have elsewhere : opensWith mark ('\n' :: rest) = false := by
      have alone := opensWith_append_cons unbroken [] rest
      rw [List.nil_append] at alone
      rw [alone]
      cases mark with
      | nil => exact absurd rfl nonempty
      | cons m mark => rfl
    exact replaceAll_cons elsewhere
  · have further : opensWith mark (c :: (tail ++ '\n' :: rest)) = false :=
      (opensWith_append_cons unbroken (c :: tail) rest).trans elsewhere
    rw [List.cons_append, replaceAll_cons further, same, List.cons_append]
  · rw [List.append_assoc, replaceAll_mark nonempty, same, List.append_assoc]

/-- **A mark without a break is replaced line by line.** -/
theorem replaceAll_joinLines (nonempty : mark ≠ []) (unbroken : '\n' ∉ mark) (ls : List Text) :
    replaceAll mark new (joinLines ls) = joinLines (ls.map (replaceAll mark new)) := by
  induction ls with
  | nil => rfl
  | cons line rest ih =>
    by_cases last : rest = []
    · rw [last, List.map_singleton, joinLines_singleton, joinLines_singleton]
    · rw [joinLines_cons line last, replaceAll_break nonempty unbroken, ih, List.map_cons,
        joinLines_cons _ (by simpa using last)]

end ReferencePages.Text
