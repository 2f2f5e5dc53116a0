/-
**Which calls are renamed.**

A call of a class opens with two stars, a backtick, the name of the class and a bracket or a dot. No
opening starts inside another one, and none is made of a renamed call and what stands around it. So the
two passes of `renameCalls`, one for each mark, are one walk over the text that takes the calls of the
parent as they come:

* `callAt_append_iff`: the calls in a text that starts with a call;
* `CallNames.renameCalls_cons`, `CallNames.renameCalls_append`: one step of the walk, and
  `CallNames.induction`: **induction along it**;
* `CallNames.not_callAt`: no call of the parent is left, so renaming once more changes nothing;
* `CallNames.other_call`: the calls of a class with any other name stay;
* `CallNames.exists_pieces`: the calls of the parent are renamed, and nothing else;
* `CallNames.headings_renameCalls`: headings without such calls stay;
* `renameCalls_exact`: **exactly the calls of the parent are renamed**;
* `not_callAt_of_mem_inherit`: a document inherits no call of its parent.
-/

import ReferencePages.Proofs.Inheritance.Renamed
import ReferencePages.Proofs.Inheritance.Union
import ReferencePages.Proofs.Text.Pads

namespace ReferencePages

open Text Markdown

/-! ### Openings of calls -/

/-- What can follow the name of the class in a call. -/
def callMarks : List Char := ['(', '.']

/-- A name that stands out from what is around it in a call: it is not empty and holds neither a star, nor
a mark of a call, nor a break. Identifiers are such names, also those with letters beyond ASCII. -/
structure IsCallName (name : Text) : Prop where
  nonempty : name ≠ []
  plain : ∀ c ∈ name, c ∉ '*' :: '\n' :: callMarks

theorem Text.IsIdentifier.isCallName {name : Text} (isIdentifier : IsIdentifier name) :
    IsCallName name := by
  have special : ('*' :: '\n' :: callMarks).all (! isNameRest ·) = true := by decide
  refine ⟨isIdentifier.isName.nonempty, fun c member isSpecial => ?_⟩
  have other := List.all_eq_true.mp special c isSpecial
  rw [isIdentifier.isName.letters c member] at other
  cases other

/-- A call of the class opens the text. -/
def OpensCall (name t : Text) : Prop := ∃ mark ∈ callMarks, callOpening name mark <+: t

/-- A call of the class stands at the position. -/
def CallAt (name t : Text) (i : Nat) : Prop := OpensCall name (t.drop i)

section Openings

variable {name other : Text} {mark mark' : Char}

theorem IsCallName.noStar (isName : IsCallName name) : '*' ∉ name :=
  fun member => isName.plain _ member List.mem_cons_self

theorem IsCallName.unbroken (isName : IsCallName name) : '\n' ∉ name :=
  fun member => isName.plain _ member (by simp)

theorem IsCallName.noMark (isName : IsCallName name) (isMark : mark ∈ callMarks) : mark ∉ name :=
  fun member => isName.plain _ member (by simp [isMark])

theorem ne_star_of_mem_callMarks (isMark : mark ∈ callMarks) : mark ≠ '*' := by
  rintro rfl
  exact absurd isMark (by decide)

/-- Behind its first two characters, an opening holds no star. -/
theorem noStar_opening (isName : IsCallName name) (isMark : mark ∈ callMarks) :
    '*' ∉ '\x60' :: (name ++ [mark]) := by
  simp [isName.noStar, (ne_star_of_mem_callMarks isMark).symm]

/-- **A text that starts with an opening** starts with no other one. -/
theorem isPrefix_callOpening_append_iff (isName : IsCallName name) (isOther : IsCallName other)
    (isMark : mark ∈ callMarks) (isMark' : mark' ∈ callMarks) (rest : Text) :
    callOpening name mark <+: callOpening other mark' ++ rest ↔ name = other ∧ mark = mark' := by
  -- one opening starts the other, and ends there, since no name holds a mark
  have within : ∀ {name other : Text} {mark mark' : Char}, mark ∉ other →
      name ++ [mark] <+: other ++ [mark'] → name = other ∧ mark = mark' := by
    intro name other mark mark' missing opens
    rcases List.prefix_concat_iff.mp opens with same | shorter
    · exact (List.append_inj' same rfl).imp id List.singleton_injective.eq_iff.mp
    · exact absurd (shorter.subset (by simp)) missing
  constructor
  · intro opens
    rw [callOpening_eq, callOpening_eq, List.append_assoc, List.prefix_append_right_inj] at opens
    rcases List.prefix_or_prefix_of_prefix opens (List.prefix_append _ rest) with one | two
    · exact within (isOther.noMark isMark) one
    · exact (within (isName.noMark isMark') two).imp Eq.symm Eq.symm
  · rintro ⟨rfl, rfl⟩
    exact List.prefix_append _ _

/-- **No opening starts inside another one.** -/
theorem not_isPrefix_drop_callOpening (isOther : IsCallName other) (isMark' : mark' ∈ callMarks) {i : Nat}
    (positive : 0 < i) (inside : i < (callOpening other mark').length) (name : Text) (mark : Char)
    (rest : Text) : ¬ callOpening name mark <+: (callOpening other mark' ++ rest).drop i := by
  intro opens
  -- two stars would have to stand there: a backtick follows the second one, and no star is behind it
  match i, positive with
  | 1, _ =>
    have second := (List.cons_prefix_cons.mp (List.cons_prefix_cons.mp opens).2).1
    exact absurd second (by decide)
  | i + 2, _ =>
    have within : i < ('\x60' :: (other ++ [mark'])).length := Nat.lt_of_add_lt_add_right inside
    change callOpening name mark <+: (('\x60' :: (other ++ [mark'])) ++ rest).drop i at opens
    rw [List.drop_append_of_le_length within.le, List.drop_eq_getElem_cons within] at opens
    have isStar : '*' = ('\x60' :: (other ++ [mark']))[i] := (List.cons_prefix_cons.mp opens).1
    exact noStar_opening isOther isMark' (isStar ▸ List.getElem_mem within)

theorem not_callAt_nil (name : Text) (i : Nat) : ¬ CallAt name [] i := by
  rintro ⟨mark, -, opens⟩
  rw [List.drop_nil, List.prefix_nil] at opens
  exact callOpening_ne_nil name mark opens

/-- **The calls in a text that starts with a call.** -/
theorem callAt_append_iff (isName : IsCallName name) (isOther : IsCallName other)
    (isMark' : mark' ∈ callMarks) (rest : Text) (i : Nat) :
    CallAt name (callOpening other mark' ++ rest) i ↔
      (i = 0 ∧ name = other) ∨
        ∃ j, i = (callOpening other mark').length + j ∧ CallAt name rest j := by
  constructor
  · rintro ⟨mark, isMark, opens⟩
    rcases Nat.lt_or_ge i (callOpening other mark').length with inside | behind
    · rcases Nat.eq_zero_or_pos i with rfl | positive
      · have same := (isPrefix_callOpening_append_iff isName isOther isMark isMark' rest).mp opens
        exact Or.inl ⟨rfl, same.1⟩
      · exact absurd opens
          (not_isPrefix_drop_callOpening isOther isMark' positive inside name mark rest)
    · obtain ⟨j, rfl⟩ := Nat.exists_eq_add_of_le behind
      rw [List.drop_length_add_append] at opens
      exact Or.inr ⟨j, rfl, mark, isMark, opens⟩
  · rintro (⟨rfl, rfl⟩ | ⟨j, rfl, mark, isMark, opens⟩)
    · exact ⟨mark', isMark', List.prefix_append _ _⟩
    · exact ⟨mark, isMark, by rwa [List.drop_length_add_append]⟩

/-- What stands in front of an opening starts with the openings that it starts with by itself. -/
theorem isPrefix_append_callOpening_iff (isName : IsCallName name) (isMark : mark ∈ callMarks)
    {start : Text} (nonempty : start ≠ []) (other : Text) (mark' : Char) (rest : Text) :
    callOpening name mark <+: start ++ (callOpening other mark' ++ rest) ↔
      callOpening name mark <+: start := by
  refine ⟨fun opens => ?_, fun opens => opens.trans (List.prefix_append _ _)⟩
  rcases Nat.lt_or_ge start.length (callOpening name mark).length with inside | fits
  · -- otherwise the second opening would start inside the first one
    obtain ⟨after, same⟩ := opens
    have second : callOpening other mark' <+: (callOpening name mark ++ after).drop start.length := by
      rw [same, List.drop_left]
      exact List.prefix_append _ _
    have positive := List.length_pos_of_ne_nil nonempty
    exact absurd second
      (not_isPrefix_drop_callOpening isName isMark positive inside other mark' after)
  · exact List.prefix_of_prefix_length_le opens (List.prefix_append _ _) fits

/-- A pass over the text leaves the other openings alone. -/
theorem replaceAll_callOpening_append (isName : IsCallName name) (isOther : IsCallName other)
    (isMark : mark ∈ callMarks) (isMark' : mark' ∈ callMarks)
    (different : ¬ (name = other ∧ mark = mark')) (new rest : Text) :
    replaceAll (callOpening name mark) new (callOpening other mark' ++ rest) =
      callOpening other mark' ++ replaceAll (callOpening name mark) new rest := by
  refine replaceAll_append_of_elsewhere fun i inside opens => ?_
  rcases Nat.eq_zero_or_pos i with rfl | positive
  · exact different ((isPrefix_callOpening_append_iff isName isOther isMark isMark' rest).mp opens)
  · exact not_isPrefix_drop_callOpening isOther isMark' positive inside name mark rest opens

end Openings

/-! ### One walk -/

/-- The names of a parent and of a child that differ and stand out in calls. -/
structure CallNames (parent child : Text) : Prop where
  ofParent : IsCallName parent
  ofChild : IsCallName child
  different : parent ≠ child

namespace CallNames

variable {parent child : Text}

theorem renameCalls_eq (names : CallNames parent child) (t : Text) :
    renameCalls t parent child =
      replaceAll (callOpening parent '.') (callOpening child '.')
        (replaceAll (callOpening parent '(') (callOpening child '(') t) := by
  unfold renameCalls
  rw [if_neg]
  simp [names.ofParent.nonempty, names.ofChild.nonempty, names.different]

/-- A text without a call of the parent stays. -/
theorem renameCalls_of_not_callAt (names : CallNames parent child) {t : Text}
    (uncalled : ∀ i, ¬ CallAt parent t i) : renameCalls t parent child = t := by
  have elsewhere : ∀ mark ∈ callMarks, ∀ i, ¬ callOpening parent mark <+: t.drop i :=
    fun mark isMark i opens => uncalled i ⟨mark, isMark, opens⟩
  rw [names.renameCalls_eq, replaceAll_of_elsewhere (elsewhere '(' (by decide)),
    replaceAll_of_elsewhere (elsewhere '.' (by decide))]

/-- One pass over what follows a character makes no opening that starts there. -/
theorem isPrefix_cons_replaceAll_iff (names : CallNames parent child) {mark : Char}
    (isMark : mark ∈ callMarks) (c : Char) (mark' : Char) (rest : Text) :
    callOpening parent mark <+:
        c :: replaceAll (callOpening parent mark') (callOpening child mark') rest ↔
      callOpening parent mark <+: c :: rest := by
  -- what follows the first star of an opening holds one star, so no renamed call can be part of it
  have noLead : ¬ ['*', '*', '\x60'] <:+: '*' :: '\x60' :: (parent ++ [mark]) := by
    intro lead
    have oneStar : List.count '*' ('*' :: '\x60' :: (parent ++ [mark])) = 1 := by
      rw [List.count_cons_self, List.count_eq_zero.mpr (noStar_opening names.ofParent isMark)]
    have twoStars := lead.sublist.count_le '*'
    rw [oneStar] at twoStars
    exact absurd twoStars (by decide)
  have opening : callOpening parent mark = '*' :: '*' :: '\x60' :: (parent ++ [mark]) := rfl
  rw [opening, List.cons_prefix_cons, List.cons_prefix_cons, callOpening_eq, callOpening_eq,
    isPrefix_replaceAll_iff (List.cons_ne_nil _ _) noLead]

/-- **A character that no call of the parent starts at stays.** -/
theorem renameCalls_cons (names : CallNames parent child) {c : Char} {rest : Text}
    (elsewhere : ¬ OpensCall parent (c :: rest)) :
    renameCalls (c :: rest) parent child = c :: renameCalls rest parent child := by
  have first : opensWith (callOpening parent '(') (c :: rest) = false :=
    opensWith_eq_false_iff.mpr fun opens => elsewhere ⟨'(', by decide, opens⟩
  rw [names.renameCalls_eq, names.renameCalls_eq, replaceAll_cons first]
  refine replaceAll_cons (opensWith_eq_false_iff.mpr fun opens => elsewhere ⟨'.', by decide, ?_⟩)
  exact (names.isPrefix_cons_replaceAll_iff (by decide) c '(' rest).mp opens

/-- **A call of the parent becomes a call of the child.** -/
theorem renameCalls_append (names : CallNames parent child) {mark : Char} (isMark : mark ∈ callMarks)
    (rest : Text) :
    renameCalls (callOpening parent mark ++ rest) parent child =
      callOpening child mark ++ renameCalls rest parent child := by
  have cases : mark = '(' ∨ mark = '.' := by simpa [callMarks] using isMark
  rw [names.renameCalls_eq, names.renameCalls_eq]
  -- the first pass renames calls before a bracket, the second those before a dot
  rcases cases with rfl | rfl
  · rw [replaceAll_mark (callOpening_ne_nil _ _),
      replaceAll_callOpening_append names.ofParent names.ofChild (by decide) isMark
        fun same => names.different same.1]
  · rw [replaceAll_callOpening_append names.ofParent names.ofParent (by decide) isMark (by simp),
      replaceAll_mark (callOpening_ne_nil _ _)]

/-- **Induction along the walk.** -/
theorem induction (names : CallNames parent child) {P : Text → Text → Prop} (nil : P [] [])
    (keep : ∀ c rest, ¬ OpensCall parent (c :: rest) → P rest (renameCalls rest parent child) →
      P (c :: rest) (c :: renameCalls rest parent child))
    (rename : ∀ mark, mark ∈ callMarks → ∀ rest, P rest (renameCalls rest parent child) →
      P (callOpening parent mark ++ rest) (callOpening child mark ++ renameCalls rest parent child))
    (t : Text) : P t (renameCalls t parent child) := by
  induction length : t.length using Nat.strong_induction_on generalizing t with
  | _ n ih =>
    cases t with
    | nil =>
      rw [names.renameCalls_eq]
      exact nil
    | cons c rest =>
      by_cases opens : OpensCall parent (c :: rest)
      · obtain ⟨mark, isMark, after, same⟩ := opens
        have shorter : after.length < n := by
          have positive := List.length_pos_of_ne_nil (callOpening_ne_nil parent mark)
          rw [← length, ← same, List.length_append]
          omega
        rw [← same, names.renameCalls_append isMark]
        exact rename mark isMark after (ih after.length shorter after rfl)
      · rw [List.length_cons] at length
        rw [names.renameCalls_cons opens]
        exact keep c rest opens (ih rest.length (by omega) rest rfl)

/-! ### What is left and what stays -/

theorem opensCall_cons_iff (names : CallNames parent child) (c : Char) (rest : Text) :
    OpensCall parent (c :: renameCalls rest parent child) ↔ OpensCall parent (c :: rest) := by
  rw [names.renameCalls_eq]
  refine exists_congr fun mark => and_congr_right fun isMark => ?_
  rw [names.isPrefix_cons_replaceAll_iff isMark, names.isPrefix_cons_replaceAll_iff isMark]

/-- **No call of the parent is left.** -/
theorem not_callAt (names : CallNames parent child) (t : Text) :
    ∀ i, ¬ CallAt parent (renameCalls t parent child) i := by
  refine names.induction (P := fun _ shown => ∀ i, ¬ CallAt parent shown i) (not_callAt_nil parent)
    (fun c rest elsewhere uncalled i isCall => ?_) (fun mark isMark rest uncalled i isCall => ?_) t
  · cases i with
    | zero => exact elsewhere ((names.opensCall_cons_iff c rest).mp isCall)
    | succ i => exact uncalled i isCall
  · rcases (callAt_append_iff names.ofParent names.ofChild isMark _ i).mp isCall with
      ⟨-, same⟩ | ⟨j, -, further⟩
    · exact names.different same
    · exact uncalled j further

/-- **Calls of a class with any other name stay**, whatever stands around them. -/
theorem other_call (names : CallNames parent child) {other : Text} (isOther : IsCallName other)
    (different : other ≠ parent) {mark : Char} (isMark : mark ∈ callMarks) (before after : Text) :
    renameCalls (before ++ (callOpening other mark ++ after)) parent child =
      renameCalls before parent child ++
        (callOpening other mark ++ renameCalls after parent child) := by
  refine names.induction (P := fun t shown =>
    renameCalls (t ++ (callOpening other mark ++ after)) parent child =
      shown ++ (callOpening other mark ++ renameCalls after parent child)) ?_
    (fun c rest elsewhere same => ?_) (fun mark' isMark' rest same => ?_) before
  · have apart : ∀ mark', ¬ (parent = other ∧ mark' = mark) := fun _ same => different same.1.symm
    rw [List.nil_append, List.nil_append, names.renameCalls_eq, names.renameCalls_eq,
      replaceAll_callOpening_append names.ofParent isOther (by decide) isMark (apart '('),
      replaceAll_callOpening_append names.ofParent isOther (by decide) isMark (apart '.')]
  · have further : ¬ OpensCall parent (c :: (rest ++ (callOpening other mark ++ after))) := by
      rintro ⟨mark', isMark', opens⟩
      exact elsewhere ⟨mark', isMark', (isPrefix_append_callOpening_iff names.ofParent isMark'
        (List.cons_ne_nil c rest) other mark after).mp opens⟩
    rw [List.cons_append, names.renameCalls_cons further, same, List.cons_append]
  · rw [List.append_assoc, names.renameCalls_append isMark', same, List.append_assoc]

end CallNames

/-! ### Pieces -/

/-- A piece of a text: a character, or the opening of a call with its mark. -/
inductive CallPiece where
  | kept (c : Char)
  | call (mark : Char) (isMark : mark ∈ callMarks)

/-- The piece as it is written when the calls are those of the class `name`. -/
def CallPiece.text (name : Text) : CallPiece → Text
  | .kept c => [c]
  | .call mark _ => callOpening name mark

/-- The text that the pieces make up when the calls are those of the class `name`. -/
def piecesText (name : Text) (pieces : List CallPiece) : Text := pieces.flatMap (·.text name)

/-- The positions of the calls in it. -/
def callPlaces (name : Text) : List CallPiece → List Nat
  | [] => []
  | .kept _ :: rest => (callPlaces name rest).map (· + 1)
  | .call mark _ :: rest => 0 :: (callPlaces name rest).map ((callOpening name mark).length + ·)

/-- **The calls of the parent are renamed, and nothing else.** -/
theorem CallNames.exists_pieces {parent child : Text} (names : CallNames parent child) (t : Text) :
    ∃ pieces, piecesText parent pieces = t ∧ piecesText child pieces = renameCalls t parent child ∧
      ∀ i, CallAt parent t i ↔ i ∈ callPlaces parent pieces := by
  refine names.induction (P := fun t shown => ∃ pieces, piecesText parent pieces = t ∧
    piecesText child pieces = shown ∧ ∀ i, CallAt parent t i ↔ i ∈ callPlaces parent pieces) ?_
    (fun c rest elsewhere found => ?_) (fun mark isMark rest found => ?_) t
  · exact ⟨[], rfl, rfl, fun i => iff_of_false (not_callAt_nil parent i) List.not_mem_nil⟩
  · obtain ⟨pieces, rfl, shown, places⟩ := found
    refine ⟨.kept c :: pieces, rfl, congrArg (c :: ·) shown, fun i => ?_⟩
    cases i with
    | zero =>
      refine iff_of_false elsewhere ?_
      simp [callPlaces]
    | succ i =>
      refine (places i).trans ?_
      simp [callPlaces]
  · obtain ⟨pieces, rfl, shown, places⟩ := found
    refine ⟨.call mark isMark :: pieces, rfl, congrArg (callOpening child mark ++ ·) shown, fun i => ?_⟩
    rw [callAt_append_iff names.ofParent names.ofParent isMark, callPlaces, List.mem_cons, List.mem_map]
    refine or_congr (and_iff_left rfl) (exists_congr fun j => ?_)
    rw [places, and_comm, eq_comm]

/-! ### Headings -/

theorem Markdown.headingsFrom_congr {first second : List MarkedLine}
    (same : first.map (·.heading) = second.map (·.heading)) (pos : Nat) :
    headingsFrom pos first = headingsFrom pos second := by
  induction first generalizing second pos with
  | nil =>
    rw [List.map_nil, eq_comm, List.map_eq_nil_iff] at same
    rw [same]
  | cons line rest ih =>
    obtain ⟨other, others, rfl, isHeading, areHeadings⟩ := List.map_eq_cons_iff.mp same.symm
    rw [headingsFrom, headingsFrom, isHeading, ih areHeadings.symm]

/-- **Headings without calls of the parent stay.** -/
theorem CallNames.headings_renameCalls {parent child t : Text} (names : CallNames parent child)
    (uncalled : ∀ line ∈ marked t, line.heading ≠ none → ∀ i, ¬ CallAt parent line.text i) :
    headings (renameCalls t parent child) = headings t := by
  unfold headings marked at *
  rw [lines_renameCalls names.ofParent.unbroken names.ofChild.unbroken]
  refine headingsFrom_congr (map_heading_markLines (fun line _ => ?_) none
    fun line member isHeading => ?_) 0
  · exact sameLine_renameCalls names.ofChild.unbroken parent line
  · exact names.renameCalls_of_not_callAt (uncalled line member isHeading)

/-! ### Exactly the calls of the parent -/

/-- **Exactly the calls of the parent are renamed.** No call of the parent is left. The text and the renamed
text are written with the same pieces, in which the calls of the parent in the text, and only they, are those
of the child in the renamed text. A call of any other class stays, and what stands before and behind it is
renamed by itself, so it does not matter how the two names are alike. Renaming once more changes nothing. The
lines stay as many, each with the same fence open before it, and so do the headings when no call of the
parent stands in them. -/
theorem renameCalls_exact {parent child : Text} (isParent : IsCallName parent)
    (isChild : IsCallName child) (different : parent ≠ child) (t : Text) :
    (∀ i, ¬ CallAt parent (renameCalls t parent child) i) ∧
    (∃ pieces, piecesText parent pieces = t ∧ piecesText child pieces = renameCalls t parent child ∧
      ∀ i, CallAt parent t i ↔ i ∈ callPlaces parent pieces) ∧
    (∀ other, IsCallName other → other ≠ parent → ∀ mark ∈ callMarks, ∀ before after,
      t = before ++ (callOpening other mark ++ after) →
        renameCalls t parent child =
          renameCalls before parent child ++
            (callOpening other mark ++ renameCalls after parent child)) ∧
    renameCalls (renameCalls t parent child) parent child = renameCalls t parent child ∧
    (lines (renameCalls t parent child)).length = (lines t).length ∧
    (∀ n, fenceAfterAll none ((lines (renameCalls t parent child)).take n) =
      fenceAfterAll none ((lines t).take n)) ∧
    ((∀ line ∈ marked t, line.heading ≠ none → ∀ i, ¬ CallAt parent line.text i) →
      headings (renameCalls t parent child) = headings t) := by
  have names : CallNames parent child := ⟨isParent, isChild, different⟩
  have shown := lines_renameCalls (t := t) isParent.unbroken isChild.unbroken
  refine ⟨names.not_callAt t, names.exists_pieces t, ?_, ?_, ?_, fun n => ?_,
    names.headings_renameCalls⟩
  · rintro other isOther notParent mark isMark before after rfl
    exact names.other_call isOther notParent isMark before after
  · exact names.renameCalls_of_not_callAt (names.not_callAt t)
  · rw [shown, List.length_map]
  · rw [shown, ← List.map_take]
    refine Document.fenceAfterAll_map (fun line _ => ?_) none
    exact (sameLine_renameCalls isChild.unbroken parent line).marks

/-- Calls of a class, one of them behind a third star and one in a fence, and calls of classes whose names
start or end with its name. -/
def calledText : Text :=
  joinLines (["#### of\r", "**`Base.of()`**", "***`Base(1)`*, **`Base2(2)`**, **`MyBase.of()`**", "~~~",
    "# **`Base("].map (·.toList))

def renamedText : Text :=
  joinLines (["#### of\r", "**`Base2.of()`**", "***`Base2(1)`*, **`Base2(2)`**, **`MyBase.of()`**", "~~~",
    "# **`Base2("].map (·.toList))

theorem renameCalls_exact_sample :
    renameCalls calledText "Base".toList "Base2".toList = renamedText ∧
      (∀ i, ¬ CallAt "Base".toList renamedText i) ∧
      renameCalls renamedText "Base".toList "Base2".toList = renamedText ∧
      (lines renamedText).length = 5 ∧
      fenceAfterAll none ((lines renamedText).take 4) = some .tildes ∧
      headings renamedText = [(⟨4, "of".toList⟩, 0)] := by
  have isParent : IsIdentifier "Base".toList := by decide
  have isChild : IsIdentifier "Base2".toList := by decide
  have renamed : renameCalls calledText "Base".toList "Base2".toList = renamedText := by decide +kernel
  have heading : ∀ line ∈ marked calledText, line.heading ≠ none → line.text = "#### of".toList := by
    decide +kernel
  obtain ⟨uncalled, -, -, again, count, fences, same⟩ :=
    renameCalls_exact isParent.isCallName isChild.isCallName (by decide) calledText
  rw [renamed] at uncalled again count fences same
  refine ⟨renamed, uncalled, again, count.trans (by decide +kernel),
    (fences 4).trans (by decide +kernel), (same ?_).trans (by decide +kernel)⟩
  rintro line member isHeading i ⟨mark, -, opens⟩
  have star : '*' ∈ line.text := List.drop_subset _ _ (opens.subset List.mem_cons_self)
  rw [heading line member isHeading] at star
  exact absurd star (by decide)

/-! ### Inherited functions -/

/-- **A document inherits no call of its parent**: its functions are its own ones and others without such
calls. -/
theorem not_callAt_of_mem_inherit {document parent : Document} (isParent : IsCallName parent.title)
    (isChild : IsCallName document.title) (different : parent.title ≠ document.title) {name t : Text}
    (member : .function name t ∈ (document.inherit parent).functions) :
    .function name t ∈ document.functions ∨ ∀ i, ¬ CallAt parent.title t i := by
  rw [Document.inherit_eq] at member
  simp only [Document.foldl_addBlock, List.mem_append] at member
  refine member.imp_right fun inherited => ?_
  obtain ⟨block, isNew, same⟩ := List.mem_map.mp inherited
  obtain ⟨offered, -, rfl⟩ := List.mem_map.mp (mem_of_mem_firstNew isNew)
  cases same
  exact CallNames.not_callAt ⟨isParent, isChild, different⟩ offered.2

end ReferencePages
