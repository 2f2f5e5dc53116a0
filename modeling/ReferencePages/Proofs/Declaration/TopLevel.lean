/-
**Where a text is cut into parts.**

Each position of a text has its nesting, read from the start of the text (`nestingAt`). A text is cut at
the separators that stand where nothing is open. So a part starts where nothing is open, and reading it
on its own finds every character of it at the nesting that it has in the whole text:

* `cuts_splitTopFrom`: the positions of the cuts are those of the separators outside brackets and literals;
* `SitsIn`: a piece of a text that starts where nothing is open; `SitsIn.nestingAt_add`,
  `SitsIn.standsTop_iff`: **it is nested as in the whole text**;
* `cutTop?_eq_some_iff`, `SitsIn.cutTop?_iff`: a mark is found in it where it stands first at top level in
  the whole text;
* `sitsIn_part`, `sitsIn_entry`: parts sit in their text, and so does what blanks precede in a part;
* `splitTop_exact`: **a text is cut without loss, at the right places, and its parts can be read one by
  one**.

The texts may close brackets that they have not opened, and leave brackets and literals open.
-/

import ReferencePages.Proofs.Declaration.Nesting

namespace ReferencePages.Declaration

open Text

/-! ### Positions -/

/-- The nesting at a position of a text, read from its start. -/
def nestingAt (t : Text) (i : Nat) : Nesting := Nesting.initial.after (t.take i)

/-- The character stands at the position, at top level. -/
def StandsTop (t : Text) (i : Nat) (c : Char) : Prop :=
  t[i]? = some c ∧ (nestingAt t i).isTop c = true

instance (t : Text) (i : Nat) (c : Char) : Decidable (StandsTop t i c) :=
  inferInstanceAs (Decidable (_ ∧ _))

theorem StandsTop.lt {t : Text} {i : Nat} {c : Char} (stands : StandsTop t i c) : i < t.length :=
  (List.getElem?_eq_some_iff.mp stands.1).1

/-- A mark is missing at top level when it stands at no position there. -/
theorem lacks_iff {mark : Char} {nesting : Nesting} {t : Text} :
    Lacks mark nesting t ↔
      ∀ i, t[i]? = some mark → (nesting.after (t.take i)).isTop mark = false := by
  induction t generalizing nesting with
  | nil => exact ⟨fun _ i isMark => by simp at isMark, fun _ => lacks_nil _ _⟩
  | cons c rest ih =>
    rw [lacks_cons, ih]
    constructor
    · rintro ⟨here, below⟩ i isMark
      cases i with
      | zero =>
        obtain rfl := Option.some.inj isMark
        rwa [beq_self_eq_true, Bool.and_true] at here
      | succ i => exact below i isMark
    · intro everywhere
      refine ⟨?_, fun i isMark => everywhere (i + 1) isMark⟩
      rw [Bool.and_eq_false_imp]
      intro top
      refine beq_false_of_ne ?_
      rintro rfl
      exact absurd (everywhere 0 rfl) (by simpa using top)

/-- **A mark is found where it stands first at top level.** -/
theorem cutTop?_eq_some_iff {mark : Char} (isMark : IsMark mark) {t before rest : Text} :
    cutTop? mark t = some (before, rest) ↔
      t = before ++ mark :: rest ∧ StandsTop t before.length mark ∧
        ∀ i, i < before.length → ¬ StandsTop t i mark := by
  unfold cutTop?
  rw [cutTopFrom?_eq_some_iff isMark, lacks_iff]
  refine and_congr_right ?_
  rintro rfl
  have upTo : ∀ i, i ≤ before.length → (before ++ mark :: rest).take i = before.take i :=
    fun i inside => List.take_append_of_le_length inside
  have here : nestingAt (before ++ mark :: rest) before.length = Nesting.initial.after before := by
    rw [nestingAt, upTo _ le_rfl, List.take_length]
  have first : StandsTop (before ++ mark :: rest) before.length mark ↔
      Nesting.initial.after before = .initial := by
    rw [StandsTop, here, isMark.isTop_iff]
    simp
  rw [first, and_comm]
  refine and_congr_right fun _ => forall_congr' fun i => ?_
  constructor
  · rintro lacks inside ⟨isHere, top⟩
    rw [List.getElem?_append_left inside] at isHere
    rw [nestingAt, upTo i inside.le, lacks isHere] at top
    cases top
  · intro missing isHere
    have inside := (List.getElem?_eq_some_iff.mp isHere).1
    refine Bool.eq_false_iff.mpr fun top => missing inside ⟨?_, ?_⟩
    · rwa [List.getElem?_append_left inside]
    · rwa [nestingAt, upTo i inside.le]

/-! ### Pieces of a text -/

/-- The piece stands in the text from the position on, and nothing is open there. -/
def SitsIn (piece : Text) (start : Nat) (t : Text) : Prop :=
  ∃ lead tail, t = lead ++ (piece ++ tail) ∧ lead.length = start ∧ Closed lead

namespace SitsIn

variable {piece t : Text} {start : Nat}

theorem getElem?_add (sits : SitsIn piece start t) {i : Nat} (inside : i < piece.length) :
    t[start + i]? = piece[i]? := by
  obtain ⟨lead, tail, rfl, rfl, -⟩ := sits
  rw [List.getElem?_append_right (Nat.le_add_right _ _), Nat.add_sub_cancel_left,
    List.getElem?_append_left inside]

/-- **A piece is nested as in the whole text.** -/
theorem nestingAt_add (sits : SitsIn piece start t) {i : Nat} (inside : i ≤ piece.length) :
    nestingAt t (start + i) = nestingAt piece i := by
  obtain ⟨lead, tail, rfl, rfl, closed⟩ := sits
  unfold nestingAt
  rw [List.take_length_add_append, List.take_append_of_le_length inside, Nesting.after_append, closed]

theorem standsTop_iff (sits : SitsIn piece start t) (i : Nat) (c : Char) :
    StandsTop piece i c ↔ i < piece.length ∧ StandsTop t (start + i) c := by
  have same : i < piece.length → (StandsTop piece i c ↔ StandsTop t (start + i) c) := by
    intro inside
    rw [StandsTop, StandsTop, sits.getElem?_add inside, sits.nestingAt_add inside.le]
  exact ⟨fun stands => ⟨stands.lt, (same stands.lt).mp stands⟩,
    fun stands => (same stands.1).mpr stands.2⟩

/-- **A mark is found in a piece where it stands first at top level in the whole text.** -/
theorem cutTop?_iff (sits : SitsIn piece start t) {mark : Char} (isMark : IsMark mark)
    {before rest : Text} :
    cutTop? mark piece = some (before, rest) ↔
      piece = before ++ mark :: rest ∧ StandsTop t (start + before.length) mark ∧
        ∀ i, i < before.length → ¬ StandsTop t (start + i) mark := by
  rw [cutTop?_eq_some_iff isMark]
  refine and_congr_right ?_
  rintro rfl
  have inside : ∀ i, i ≤ before.length → i < (before ++ mark :: rest).length := by
    intro i below
    rw [List.length_append, List.length_cons]
    omega
  refine and_congr ?_ (forall_congr' fun i => imp_congr_right fun below => ?_)
  · rw [sits.standsTop_iff, and_iff_right (inside _ le_rfl)]
  · rw [sits.standsTop_iff, and_iff_right (inside i below.le)]

/-- What only blanks precede in a piece sits in the text, too. -/
theorem of_blanks {blanks inner tail : Text} (sits : SitsIn (blanks ++ inner ++ tail) start t)
    (blank : allBlank blanks = true) : SitsIn inner (start + blanks.length) t := by
  obtain ⟨lead, rest, rfl, rfl, closed⟩ := sits
  refine ⟨lead ++ blanks, tail ++ rest, by simp, List.length_append, ?_⟩
  rw [closed.append]
  exact after_blanks blank 0

end SitsIn

/-! ### Parts -/

/-- What stands in a text before the part that follows the given ones: each of them with the separator
behind it. -/
def partsBefore (separator : Char) (front : List Text) : Text :=
  front.flatMap fun part => part ++ [separator]

/-- The positions of the separators between parts, the first of which starts at `pos`. -/
def cuts : Nat → List Text → List Nat
  | _, [] => []
  | _, [_] => []
  | pos, first :: second :: rest =>
    (pos + first.length) :: cuts (pos + first.length + 1) (second :: rest)

theorem cuts_nil_cons {parts : List Text} (nonempty : parts ≠ []) (pos : Nat) :
    cuts pos ([] :: parts) = pos :: cuts (pos + 1) parts := by
  obtain ⟨first, rest, rfl⟩ := List.exists_cons_of_ne_nil nonempty
  rfl

/-- A character in front of the first part moves every cut by one. -/
theorem cuts_consFirst (c : Char) {parts : List Text} (nonempty : parts ≠ []) (pos : Nat) :
    cuts pos (consFirst c parts) = cuts (pos + 1) parts := by
  obtain ⟨first, rest, rfl⟩ := List.exists_cons_of_ne_nil nonempty
  cases rest with
  | nil => rfl
  | cons second rest =>
    rw [consFirst, cuts, cuts, List.length_cons,
      show pos + (first.length + 1) = pos + 1 + first.length by omega]

/-- A text is cut at its first character when that is a separator and nothing is open. -/
theorem splitTopFrom_cons {separator : Char} (isMark : IsMark separator) (nesting : Nesting) (c : Char)
    (rest : Text) :
    splitTopFrom separator nesting (c :: rest) =
      if c = separator ∧ nesting = .code 0 then [] :: splitTopFrom separator (nesting.step c) rest
      else consFirst c (splitTopFrom separator (nesting.step c) rest) := by
  have isCut : (nesting.isTop c && c == separator) = true ↔ c = separator ∧ nesting = .code 0 := by
    rw [Bool.and_eq_true, beq_iff_eq, and_comm]
    refine and_congr_right ?_
    rintro rfl
    exact isMark.isTop_iff
  rw [splitTopFrom]
  exact if_congr isCut rfl rfl

theorem splitTopFrom_ne_nil (separator : Char) (nesting : Nesting) (t : Text) :
    splitTopFrom separator nesting t ≠ [] := by
  cases t with
  | nil => exact List.cons_ne_nil _ _
  | cons c rest =>
    rw [splitTopFrom]
    split
    · exact List.cons_ne_nil _ _
    · cases splitTopFrom separator (nesting.step c) rest <;> exact List.cons_ne_nil _ _

/-- The positions at which a text that starts at the given nesting holds the separator where nothing is
open. -/
def separatorsFrom (separator : Char) (nesting : Nesting) (t : Text) : List Nat :=
  (List.range t.length).filter fun i =>
    t[i]? = some separator ∧ nesting.after (t.take i) = .code 0

theorem separatorsFrom_cons (separator c : Char) (nesting : Nesting) (rest : Text) :
    separatorsFrom separator nesting (c :: rest) =
      (if c = separator ∧ nesting = .code 0 then [0] else []) ++
        (separatorsFrom separator (nesting.step c) rest).map (· + 1) := by
  unfold separatorsFrom
  rw [List.length_cons, List.range_succ_eq_map, List.filter_cons, List.filter_map]
  simp only [List.getElem?_cons_zero, Option.some.injEq, List.take_zero, Nesting.after_nil,
    decide_eq_true_eq]
  split <;> rfl

/-- **A text is cut at the separators outside brackets and literals**, and nowhere else. -/
theorem cuts_splitTopFrom {separator : Char} (isMark : IsMark separator) (nesting : Nesting) (t : Text)
    (pos : Nat) :
    cuts pos (splitTopFrom separator nesting t) =
      (separatorsFrom separator nesting t).map (pos + ·) := by
  induction t generalizing nesting pos with
  | nil => rfl
  | cons c rest ih =>
    have below := splitTopFrom_ne_nil separator (nesting.step c) rest
    have moved : ∀ found : List Nat, found.map (pos + 1 + ·) = (found.map (· + 1)).map (pos + ·) := by
      intro found
      rw [List.map_map]
      exact List.map_congr_left fun i _ => by show pos + 1 + i = pos + (i + 1); omega
    rw [splitTopFrom_cons isMark, separatorsFrom_cons, List.map_append, ← moved, ← ih]
    by_cases isCut : c = separator ∧ nesting = .code 0
    · rw [if_pos isCut, if_pos isCut, cuts_nil_cons below]
      rfl
    · rw [if_neg isCut, if_neg isCut, cuts_consFirst c below]
      rfl

theorem closed_partsBefore {separator : Char} (isMark : IsMark separator) {front : List Text}
    (closed : ∀ part ∈ front, Closed part) : Closed (partsBefore separator front) := by
  induction front with
  | nil => rfl
  | cons part rest ih =>
    obtain ⟨here, others⟩ := List.forall_mem_cons.mp closed
    show Closed ((part ++ [separator]) ++ partsBefore separator rest)
    rw [List.append_assoc, here.append, List.singleton_append, isMark.closed_cons]
    exact ih others

theorem join_append_cons (separator : Char) (front : List Text) (part : Text) (back : List Text) :
    ∃ tail, join [separator] (front ++ part :: back) =
      partsBefore separator front ++ (part ++ tail) := by
  induction front with
  | nil =>
    by_cases last : back = []
    · exact ⟨[], by rw [last]; simp [partsBefore, join]⟩
    · refine ⟨[separator] ++ join [separator] back, ?_⟩
      rw [List.nil_append, join_cons _ _ last, List.append_assoc]
      rfl
  | cons first rest ih =>
    obtain ⟨tail, joined⟩ := ih
    refine ⟨tail, ?_⟩
    rw [List.cons_append, join_cons _ _ (by simp), joined, partsBefore, partsBefore, List.flatMap_cons]
    simp only [List.append_assoc]

/-- **A part sits in its text**, behind the parts before it. -/
theorem sitsIn_part {separator : Char} (isMark : IsMark separator) {t part : Text}
    {front back : List Text} (split : splitTop separator t = front ++ part :: back) :
    SitsIn part (partsBefore separator front).length t := by
  obtain ⟨parts, joined⟩ := (splitTop_eq_iff isMark).mp split
  obtain ⟨tail, whole⟩ := join_append_cons separator front part back
  refine ⟨_, tail, joined.symm.trans whole, rfl, closed_partsBefore isMark fun other member => ?_⟩
  exact (List.pairwise_append.mp parts.closed).2.2 other member part List.mem_cons_self

/-- So does an entry, with blanks before it in its part and anything behind it. -/
theorem sitsIn_entry {separator : Char} (isMark : IsMark separator) {t blanks entry tail : Text}
    {front back : List Text} (split : splitTop separator t = front ++ (blanks ++ entry ++ tail) :: back)
    (blank : allBlank blanks = true) :
    SitsIn entry ((partsBefore separator front).length + blanks.length) t :=
  (sitsIn_part isMark split).of_blanks blank

/-- **A text is cut without loss, at the right places, and its parts can be read one by one.** The parts
join to the text; the cuts are the separators outside brackets and literals; each part but the last
leaves nothing open; the characters at top level in a part are those that stand there at top level in the
text. So a mark is found in an entry, which blanks may precede in its part, exactly where it stands first
at top level in the text. -/
theorem splitTop_exact {separator : Char} (isMark : IsMark separator) (t : Text) :
    join [separator] (splitTop separator t) = t ∧
    cuts 0 (splitTop separator t) =
      (List.range t.length).filter (fun i => t[i]? = some separator ∧ nestingAt t i = .code 0) ∧
    (∀ part ∈ (splitTop separator t).dropLast, Closed part) ∧
    (∀ front part back, splitTop separator t = front ++ part :: back →
      ∀ i c, StandsTop part i c ↔
        i < part.length ∧ StandsTop t ((partsBefore separator front).length + i) c) ∧
    ∀ front blanks entry tail back,
      splitTop separator t = front ++ (blanks ++ entry ++ tail) :: back → allBlank blanks = true →
      ∀ mark, IsMark mark → ∀ before rest,
        cutTop? mark entry = some (before, rest) ↔
          entry = before ++ mark :: rest ∧
          StandsTop t
            ((partsBefore separator front).length + blanks.length + before.length) mark ∧
          ∀ i, i < before.length →
            ¬ StandsTop t ((partsBefore separator front).length + blanks.length + i) mark := by
  obtain ⟨parts, joined⟩ := (splitTop_eq_iff isMark).mp (Eq.refl (splitTop separator t))
  refine ⟨joined, ?_, fun part member => ?_, fun front part back split => ?_,
    fun front blanks entry tail back split blank mark marks before rest => ?_⟩
  · have places := cuts_splitTopFrom isMark .initial t 0
    simp only [Nat.zero_add, List.map_id'] at places
    exact places
  · have whole := List.dropLast_concat_getLast parts.nonempty
    have closed := parts.closed
    rw [← whole] at closed
    exact (List.pairwise_append.mp closed).2.2 part member _ List.mem_cons_self
  · exact (sitsIn_part isMark split).standsTop_iff
  · exact (sitsIn_entry isMark split blank).cutTop?_iff marks

/-- A text that closes a bracket too many and leaves a literal open. -/
def looseText : Text := "a=[1, ')'], b: x) , 'c, d".toList

theorem splitTop_exact_sample :
    splitTop ',' looseText = ["a=[1, ')']".toList, " b: x) ".toList, " 'c, d".toList] ∧
      cuts 0 (splitTop ',' looseText) = [10, 18] ∧
      (StandsTop " b: x) ".toList 2 ':' ∧ StandsTop looseText 13 ':') ∧
      ¬ StandsTop looseText 22 ',' ∧
      cutTop? ':' "b: x)".toList = some ("b".toList, " x)".toList) := by
  obtain ⟨-, places, -, visited, found⟩ := splitTop_exact isMark_comma looseText
  have parts : splitTop ',' looseText =
      ["a=[1, ')']".toList, " b: x) ".toList, " 'c, d".toList] := by
    decide +kernel
  have here : StandsTop looseText 13 ':' := by decide +kernel
  refine ⟨parts, ?_, ⟨?_, here⟩, by decide +kernel, ?_⟩
  · rw [places]
    decide +kernel
  · exact (visited [_] _ [_] parts 2 ':').mpr ⟨by decide, here⟩
  · refine (found [_] [' '] "b: x)".toList [' '] [_] parts (by decide) ':' isMark_colon _ _).mpr
      ⟨by decide, here, ?_⟩
    decide +kernel

end ReferencePages.Declaration
