/-
**Which anchors are distinct.**

A heading asks for the anchor of its text (`plainAnchor`); when earlier headings have asked for it, it
gets the anchor with their number behind it. Headings that ask for the same anchor are told apart, but
a number may lead to an anchor that another heading asks for:

* `numberedAnchor_inj`: anchors with a number are as different as what they are made of;
* `mem_numberings`, `nodup_numberings`: every heading has a number of its own among those that ask for
  the same anchor;
* `linksHome_iff`: every link leads to its own heading exactly when the anchors are distinct;
* `contents_distinct_iff`: **the anchors of a document are distinct, and its links lead to their own
  headings, exactly when no numbered anchor is asked for by a heading itself**.

`numbered_anchor_clashes` shows a document where one is.
-/

import ReferencePages.Contents
import Mathlib.Data.List.Nodup

namespace ReferencePages

open Text Markdown

/-! ### Numbered anchors -/

theorem hyphen_not_mem_ofNat (n : Nat) : '-' ∉ Text.ofNat n := by
  intro member
  have digit := Nat.isDigit_of_mem_toDigits (by decide) (by decide) member
  exact absurd digit (by decide)

theorem ofNat_injective : Function.Injective Text.ofNat := by
  intro first second same
  calc
    first = Nat.ofDigitChars 10 (Text.ofNat first) 0 := Nat.ofDigitChars_ten_toDigits.symm
    _ = Nat.ofDigitChars 10 (Text.ofNat second) 0 := by rw [same]
    _ = second := Nat.ofDigitChars_ten_toDigits

/-- Two texts that agree are cut at their last mark into the same parts. -/
theorem append_cons_inj {mark : Char} {before before' after after' : Text} (last : mark ∉ after)
    (last' : mark ∉ after') (same : before ++ mark :: after = before' ++ mark :: after') :
    before = before' ∧ after = after' := by
  have inside : ∀ {more first second : Text}, mark ∉ first →
      mark :: first = more ++ mark :: second → more = [] ∧ first = second := by
    intro more first second missing equal
    cases more with
    | nil => exact ⟨rfl, (List.cons.inj equal).2⟩
    | cons c rest =>
      refine absurd ?_ missing
      rw [(List.cons.inj equal).2]
      exact List.mem_append_right _ List.mem_cons_self
  rcases List.append_eq_append_iff.mp same with ⟨more, rfl, equal⟩ | ⟨more, rfl, equal⟩
  · obtain ⟨rfl, rfl⟩ := inside last equal
    exact ⟨(List.append_nil _).symm, rfl⟩
  · obtain ⟨rfl, rfl⟩ := inside last' equal
    exact ⟨List.append_nil _, rfl⟩

@[simp] theorem numberedAnchor_zero (base : Text) : numberedAnchor base 0 = base := rfl

theorem numberedAnchor_of_pos (base : Text) {n : Nat} (positive : 0 < n) :
    numberedAnchor base n = base ++ '-' :: Text.ofNat n := by
  unfold numberedAnchor
  rw [if_neg (by omega), List.append_assoc, List.singleton_append]

/-- **Anchors with a number are as different as what they are made of.** -/
theorem numberedAnchor_inj {base base' : Text} {n n' : Nat} (positive : 0 < n) (positive' : 0 < n')
    (same : numberedAnchor base n = numberedAnchor base' n') : base = base' ∧ n = n' := by
  rw [numberedAnchor_of_pos base positive, numberedAnchor_of_pos base' positive'] at same
  obtain ⟨bases, numbers⟩ :=
    append_cons_inj (hyphen_not_mem_ofNat n) (hyphen_not_mem_ofNat n') same
  exact ⟨bases, ofNat_injective numbers⟩

/-! ### The numbers of headings -/

/-- The anchor that a heading asks for. -/
def plainAnchor (heading : Heading) : Text := anchor (unescape heading.text)

/-- The anchors that the headings of a document ask for. -/
def plainAnchors (t : Text) : List Text := (headings t).map fun found => plainAnchor found.1

/-- The anchors that are asked for, each with the number of times it was asked for before. -/
def numberings (used : List Text) : List Text → List (Text × Nat)
  | [] => []
  | base :: rest => (base, used.count base) :: numberings (base :: used) rest

theorem anchors_contentsFrom (used : List Text) (found : List Heading) :
    (contentsFrom used found).map (·.anchor) =
      (numberings used (found.map plainAnchor)).map fun pair => numberedAnchor pair.1 pair.2 := by
  induction found generalizing used with
  | nil => rfl
  | cons heading rest ih =>
    rw [contentsFrom, List.map_cons, ih, List.map_cons, numberings, List.map_cons]
    rfl

/-- **The numbers that go with an anchor** start where it was left and are as many as the headings
that ask for it. -/
theorem mem_numberings {used bases : List Text} {base : Text} {n : Nat} :
    (base, n) ∈ numberings used bases ↔
      used.count base ≤ n ∧ n < used.count base + bases.count base := by
  induction bases generalizing used with
  | nil =>
    rw [numberings, List.count_nil]
    refine ⟨fun member => absurd member List.not_mem_nil, fun between => ?_⟩
    omega
  | cons first rest ih =>
    rw [numberings, List.mem_cons, ih, Prod.mk.injEq]
    by_cases here : first = base
    · subst here
      rw [List.count_cons_self, List.count_cons_self]
      constructor
      · rintro (⟨-, rfl⟩ | between) <;> omega
      · intro between
        by_cases least : n = used.count first
        · exact Or.inl ⟨rfl, least⟩
        · exact Or.inr (by omega)
    · rw [List.count_cons_of_ne here, List.count_cons_of_ne here]
      constructor
      · rintro (⟨rfl, -⟩ | between)
        · exact absurd rfl here
        · exact between
      · exact Or.inr

theorem nodup_numberings (used bases : List Text) : (numberings used bases).Nodup := by
  induction bases generalizing used with
  | nil => exact List.nodup_nil
  | cons base rest ih =>
    rw [numberings, List.nodup_cons, mem_numberings, List.count_cons_self]
    refine ⟨?_, ih _⟩
    rintro ⟨late, -⟩
    omega

/-! ### Clashes -/

/-- Some anchor is asked for so often that the number it is given makes an anchor that is asked for
itself. -/
def NumberClash (bases : List Text) : Prop :=
  ∃ base n, 0 < n ∧ n < bases.count base ∧ numberedAnchor base n ∈ bases

/-- **Numbered anchors are distinct exactly when there is no clash.** Only a first heading and a
repeated one can meet: two first ones ask for different anchors, and two numbers do not mix. -/
theorem nodup_numbered_iff (bases : List Text) :
    ((numberings [] bases).map fun pair => numberedAnchor pair.1 pair.2).Nodup ↔
      ¬ NumberClash bases := by
  have member : ∀ {base : Text} {n : Nat},
      (base, n) ∈ numberings [] bases ↔ n < bases.count base := by
    intro base n
    rw [mem_numberings, List.count_nil, Nat.zero_add]
    exact ⟨fun both => both.2, fun below => ⟨Nat.zero_le _, below⟩⟩
  rw [List.nodup_map_iff_inj_on (nodup_numberings [] bases)]
  constructor
  · rintro injective ⟨base, n, positive, below, taken⟩
    have repeated := member.mpr below
    have first := member.mpr (List.count_pos_iff.mpr taken)
    have equal := injective _ repeated _ first (numberedAnchor_zero _).symm
    have zero := (Prod.mk.inj equal).2
    omega
  · rintro noClash ⟨base, n⟩ here ⟨base', n'⟩ there same
    simp only at same
    have below := member.mp here
    have below' := member.mp there
    rcases Nat.eq_zero_or_pos n with rfl | positive <;>
      rcases Nat.eq_zero_or_pos n' with rfl | positive'
    · exact congrArg (·, 0) same
    · refine absurd ⟨base', n', positive', below', ?_⟩ noClash
      rw [← same]
      exact List.count_pos_iff.mp below
    · refine absurd ⟨base, n, positive, below, ?_⟩ noClash
      rw [same]
      exact List.count_pos_iff.mp below'
    · obtain ⟨rfl, rfl⟩ := numberedAnchor_inj positive positive' same
      rfl

/-! ### Links -/

/-- The heading that a link to an anchor leads to: the first one that has it. -/
def linkedHeading? (entries : List ContentsEntry) (target : Text) : Option Nat :=
  entries.findIdx? fun entry => entry.anchor = target

/-- The link of every entry leads to the heading of the entry. -/
def LinksHome (entries : List ContentsEntry) : Prop :=
  ∀ i entry, entries[i]? = some entry → linkedHeading? entries entry.anchor = some i

theorem linksHome_iff (entries : List ContentsEntry) :
    LinksHome entries ↔ (entries.map (·.anchor)).Nodup := by
  rw [List.nodup_iff_getElem?_ne_getElem?]
  constructor
  · intro home i j before inside same
    rw [List.length_map] at inside
    have here := List.getElem?_eq_getElem inside
    have earlier := List.getElem?_eq_getElem (Nat.lt_trans before inside)
    rw [List.getElem?_map, List.getElem?_map, here, earlier, Option.map_some, Option.map_some,
      Option.some.injEq] at same
    have first := home i _ earlier
    rw [same, home j _ here] at first
    have equal := Option.some.inj first
    omega
  · intro distinct i entry here
    obtain ⟨inside, rfl⟩ := List.getElem?_eq_some_iff.mp here
    unfold linkedHeading?
    rw [List.findIdx?_eq_some_iff_getElem]
    refine ⟨inside, decide_eq_true rfl, fun j before => ?_⟩
    intro same
    refine distinct j i before (by rwa [List.length_map]) ?_
    rw [List.getElem?_map, List.getElem?_map, here,
      List.getElem?_eq_getElem (Nat.lt_trans before inside), Option.map_some, Option.map_some,
      of_decide_eq_true same]

/-- **The anchors of a document are distinct, and every link of its table of contents leads to its own
heading, exactly when no numbered anchor is asked for by a heading itself.** -/
theorem contents_distinct_iff (t : Text) :
    (((contents t).map (·.anchor)).Nodup ↔ ¬ NumberClash (plainAnchors t)) ∧
      (LinksHome (contents t) ↔ ¬ NumberClash (plainAnchors t)) := by
  have distinct : ((contents t).map (·.anchor)).Nodup ↔ ¬ NumberClash (plainAnchors t) := by
    unfold contents plainAnchors
    rw [anchors_contentsFrom, List.map_map]
    exact nodup_numbered_iff _
  exact ⟨distinct, (linksHome_iff _).trans distinct⟩

/-- A heading that is repeated, and one that asks for the anchor of the repetition. -/
def clashingHeadings : Text := "# a\n# a\n# a-1\n".toList

/-- The second and the third heading have the same anchor, so the third link leads to the second
heading. -/
theorem numbered_anchor_clashes :
    ¬ ((contents clashingHeadings).map (·.anchor)).Nodup ∧
      ¬ LinksHome (contents clashingHeadings) ∧
      renderContents (contents clashingHeadings) =
        "- [a](#a)\n- [a](#a-1)\n- [a-1](#a-1)\n".toList ∧
      linkedHeading? (contents clashingHeadings) "a-1".toList = some 1 := by
  have repeated : ¬ ((contents clashingHeadings).map (·.anchor)).Nodup := by decide +kernel
  exact ⟨repeated, fun home => repeated ((linksHome_iff _).mp home), by decide +kernel,
    by decide +kernel⟩

end ReferencePages
