/-
**A plan accounts for every function.**

A plan is built class by class, and no function of a class is listed twice (`Built`, `nodup_listed`).
So each function that a class has, or that a shown section lists, is met once when the functions are
arranged:

* `Accounts`: what is placed section by section, and what is reported, in terms of the names alone;
* `arrange_accounts`: **every arrangement by a plan accounts for its functions**: a function of the
  class is shown, ignored or reported, a listed one is shown or reported, and never two of these.
-/

import Mathlib.Data.List.Flatten
import ReferencePages.Proofs.Arrangement.ReadBack

namespace ReferencePages

/-! ### Plans list a function once -/

namespace Plan

/-- A plan that is put together class by class. -/
inductive Built : Plan → Prop
  | empty : Built .empty
  | insert {plan larger : Plan} {className : Text} {sections : List Section} (built : Built plan)
      (same : plan.insert className sections = .ok larger) : Built larger

theorem built_readClasses {members : Json.Members} {plan larger : Plan} (built : plan.Built)
    (same : readClasses plan members = .ok larger) : larger.Built := by
  induction members generalizing plan with
  | nil =>
    cases same
    exact built
  | cons member rest ih =>
    obtain ⟨className, value⟩ := member
    cases value with
    | object fields =>
      obtain ⟨sections, -, same⟩ := bind_eq_ok same
      obtain ⟨next, isNext, same⟩ := bind_eq_ok same
      exact ih (built.insert isNext) same
    | _ => cases same

/-- Every plan that is read is built. -/
theorem built_read {t : Text} {plan : Plan} (same : read t = .ok plan) : plan.Built := by
  unfold read at same
  split at same
  · exact built_readClasses .empty same
  · cases same

/-- Listings without a repeat name each function once, and none that was seen before. -/
theorem nodup_of_firstRepeat? {seen listed : List (Text × Text)}
    (noRepeat : firstRepeat? seen listed = none) :
    (listed.map (·.1)).Nodup ∧ ∀ function ∈ listed.map (·.1), seen.lookup function = none := by
  induction listed generalizing seen with
  | nil => exact ⟨List.nodup_nil, fun function member => absurd member List.not_mem_nil⟩
  | cons listing rest ih =>
    obtain ⟨function, owner⟩ := listing
    rw [firstRepeat?] at noRepeat
    split at noRepeat
    · cases noRepeat
    · rename_i fresh
      obtain ⟨distinct, unseen⟩ := ih noRepeat
      have differs : ∀ later ∈ rest.map (·.1), later ≠ function ∧ seen.lookup later = none := by
        intro later member
        have notSeen := unseen later member
        rw [List.lookup_cons] at notSeen
        split at notSeen
        · cases notSeen
        · rename_i other
          exact ⟨by simpa using other, notSeen⟩
      refine ⟨List.nodup_cons.mpr ⟨fun member => (differs function member).1 rfl, distinct⟩, ?_⟩
      intro name member
      rcases List.mem_cons.mp member with rfl | later
      · exact fresh
      · exact (differs name later).2

/-- The functions that some sections list. -/
def listed (sections : List Section) : List Text := sections.flatMap (·.functions)

theorem map_fst_listings (sections : List Section) :
    (listings sections).map (·.1) = listed sections := by
  unfold listings listed
  rw [List.map_flatMap]
  refine List.flatMap_congr fun s _ => ?_
  rw [List.map_map]
  exact List.map_id _

/-- **The sections of a class list each function once.** -/
theorem Built.nodup_listed {plan : Plan} (built : plan.Built) {className : Text}
    {sections : List Section} (found : plan.sections? className = some sections) :
    (listed sections).Nodup := by
  induction built with
  | empty => cases found
  | @insert plan larger added newer _ same ih =>
    unfold Plan.insert at same
    split at same
    · cases same
    · rename_i noRepeat
      cases same
      unfold sections? at found
      rw [List.lookup_cons] at found
      split at found
      · cases found
        rw [← map_fst_listings]
        exact (nodup_of_firstRepeat? noRepeat).1
      · exact ih found

end Plan

/-! ### What is placed and what is reported -/

namespace Arrangement

open Text Plan

/-- The sections that are shown. -/
def shownSections (sections : List Section) : List Section := sections.filter (! ·.isIgnore)

/-- The functions of the sections that are left out. -/
def ignored (sections : List Section) : List Text := listed (sections.filter (·.isIgnore))

/-- The block stands before every other block of its name. -/
def IsFirstBlock (blocks : List FunctionBlock) (block : FunctionBlock) : Prop :=
  ∃ before after, blocks = before ++ block :: after ∧ block.1 ∉ before.map (·.1)

/-- The warnings name the function. -/
def Reported (className : Text) (warnings : List Warning) (name : Text) : Prop :=
  .unknownFunction className name ∈ warnings ∨ .uncategorized className name ∈ warnings

/-- An arrangement of the blocks of a class by sections: `placed` gives the blocks that stand in a
section, in order. -/
structure Accounts (className : Text) (blocks : List FunctionBlock) (sections : List Section)
    (placed : Section → List FunctionBlock) (arranged : Text × List Warning) : Prop where
  /-- The text is made of the shown sections, each one its opening and its blocks. -/
  text : arranged.1 = joinParagraphs ((shownSections sections).flatMap fun s =>
    sectionOpening s ++ (placed s).map (·.2))
  /-- A section shows the functions that it lists and that have a block. -/
  names : ∀ s, (placed s).map (·.1) = s.functions.filter (· ∈ blocks.map (·.1))
  first : ∀ s, ∀ block ∈ placed s, IsFirstBlock blocks block
  once : ((shownSections sections).flatMap fun s => (placed s).map (·.1)).Nodup
  /-- Listed functions without a block are reported in listing order, then the blocks that no
  section lists in their own. -/
  warnings : arranged.2 =
    ((listed (shownSections sections)).filter (· ∉ blocks.map (·.1))).map
        (.unknownFunction className) ++
      ((blocks.map (·.1)).filter (· ∉ listed sections)).map (.uncategorized className)

section Blocks

variable {blocks : List FunctionBlock}

/-- A name is looked up in its first block. -/
theorem isFirstBlock_of_lookup {name text : Text} (found : blocks.lookup name = some text) :
    IsFirstBlock blocks (name, text) := by
  obtain ⟨before, after, split, others⟩ := List.lookup_eq_some_iff.mp found
  refine ⟨before, after, split, fun member => ?_⟩
  obtain ⟨block, inside, same⟩ := List.mem_map.mp member
  have differs := others block inside
  rw [same] at differs
  simp at differs

theorem isSome_lookup (blocks : List FunctionBlock) (name : Text) :
    (blocks.lookup name).isSome = decide (name ∈ blocks.map (·.1)) := by
  cases found : blocks.lookup name with
  | some text =>
    obtain ⟨before, after, rfl, -⟩ := isFirstBlock_of_lookup found
    simp
  | none =>
    symm
    refine decide_eq_false fun member => ?_
    obtain ⟨block, inside, rfl⟩ := List.mem_map.mp member
    simpa using List.lookup_eq_none_iff.mp found block inside

/-- The blocks that a section shows, with their names. -/
def namedBlocks (blocks : List FunctionBlock) (s : Section) : List FunctionBlock :=
  s.functions.filterMap fun name => (blocks.lookup name).map fun text => (name, text)

theorem map_snd_namedBlocks (s : Section) :
    (namedBlocks blocks s).map (·.2) = sectionBlocks blocks s := by
  unfold namedBlocks sectionBlocks
  rw [List.map_filterMap]
  refine List.filterMap_congr fun name _ => ?_
  cases blocks.lookup name <;> rfl

theorem map_fst_namedBlocks (s : Section) :
    (namedBlocks blocks s).map (·.1) = s.functions.filter (· ∈ blocks.map (·.1)) := by
  unfold namedBlocks
  rw [List.map_filterMap, ← List.filterMap_eq_filter]
  refine List.filterMap_congr fun name _ => ?_
  show _ = if decide (name ∈ blocks.map (·.1)) = true then some name else none
  rw [← isSome_lookup]
  cases blocks.lookup name <;> rfl

theorem isFirstBlock_of_mem_namedBlocks {s : Section} {block : FunctionBlock}
    (member : block ∈ namedBlocks blocks s) : IsFirstBlock blocks block := by
  obtain ⟨name, -, found⟩ := List.mem_filterMap.mp member
  obtain ⟨text, isText, rfl⟩ := Option.map_eq_some_iff.mp found
  exact isFirstBlock_of_lookup isText

theorem isListed_eq (sections : List Section) (name : Text) :
    isListed sections name = decide (name ∈ listed sections) := by
  unfold isListed listed
  rw [Bool.eq_iff_iff, List.any_eq_true, decide_eq_true_iff, List.mem_flatMap]
  simp only [List.contains_iff_mem]

theorem sectionUnknown_eq (s : Section) :
    sectionUnknown blocks s = s.functions.filter (· ∉ blocks.map (·.1)) := by
  unfold sectionUnknown
  refine List.filter_congr fun name _ => ?_
  rw [decide_not, ← isSome_lookup, Option.not_isSome]

end Blocks

/-- **An arrangement by sections that list each function once accounts for its functions.** -/
theorem accounts_bySections (className : Text) (blocks : List FunctionBlock)
    {sections : List Section} (distinct : (listed sections).Nodup) :
    Accounts className blocks sections (namedBlocks blocks)
      (bySections className blocks sections) where
  text := by
    rw [Document.bySections_paragraphs]
    simp only [map_snd_namedBlocks]
    rfl
  names := map_fst_namedBlocks
  first := fun s block => isFirstBlock_of_mem_namedBlocks
  once := by
    simp only [map_fst_namedBlocks]
    rw [← List.filter_flatMap]
    refine (List.Nodup.sublist ?_ distinct).filter _
    exact List.filter_sublist.flatMap _
  warnings := by
    show ((shownSections sections).flatMap (sectionUnknown blocks)).map _ ++
      ((blocks.map (·.1)).filter (! isListed sections ·)).map _ = _
    rw [funext sectionUnknown_eq, ← List.filter_flatMap]
    simp only [isListed_eq, decide_not]
    rfl

/-! ### One fate for each function -/

section Fates

variable {className : Text} {blocks : List FunctionBlock} {sections : List Section}
  {placed : Section → List FunctionBlock} {arranged : Text × List Warning}

/-- What is listed is shown or ignored, and not both. -/
theorem listed_perm (sections : List Section) :
    (ignored sections ++ listed (shownSections sections)).Perm (listed sections) := by
  unfold ignored shownSections listed
  rw [← List.flatMap_append]
  exact (List.filter_append_perm (·.isIgnore) sections).flatMap_right _

theorem mem_listed_iff (sections : List Section) (name : Text) :
    name ∈ listed sections ↔ name ∈ ignored sections ∨ name ∈ listed (shownSections sections) := by
  rw [← (listed_perm sections).mem_iff, List.mem_append]

theorem not_ignored (distinct : (listed sections).Nodup) (name : Text)
    (isListed : name ∈ listed (shownSections sections)) : name ∉ ignored sections := by
  have apart := (List.nodup_append.mp ((listed_perm sections).nodup_iff.mpr distinct)).2.2
  exact fun isIgnored => apart name isIgnored name isListed rfl

theorem Accounts.mem_placed (accounts : Accounts className blocks sections placed arranged)
    {name : Text} :
    name ∈ (shownSections sections).flatMap (fun s => (placed s).map (·.1)) ↔
      name ∈ listed (shownSections sections) ∧ name ∈ blocks.map (·.1) := by
  rw [funext accounts.names, ← List.filter_flatMap, List.mem_filter, decide_eq_true_iff]
  rfl

theorem Accounts.reported_iff (accounts : Accounts className blocks sections placed arranged)
    {name : Text} :
    Reported className arranged.2 name ↔
      (name ∈ listed (shownSections sections) ∧ name ∉ blocks.map (·.1)) ∨
        (name ∈ blocks.map (·.1) ∧ name ∉ listed sections) := by
  unfold Reported
  rw [accounts.warnings]
  simp only [List.mem_append, List.mem_map, List.mem_filter, decide_eq_true_iff,
    Warning.unknownFunction.injEq, Warning.uncategorized.injEq, reduceCtorEq, true_and, and_false,
    exists_eq_right, exists_false, or_false, false_or]

end Fates

end Arrangement

open Arrangement in
/-- **Every function is accounted for.** For a plan with an entry for the class and any blocks, the
arrangement shows the first block of each listed function, and each function of the class is shown,
ignored or reported, each listed one shown or reported, in one of these ways only. -/
theorem arrange_accounts {plan : Plan} (built : plan.Built) {className : Text}
    {sections : List Section} (found : plan.sections? className = some sections)
    (blocks : List FunctionBlock) :
    ∃ placed, Accounts className blocks sections placed (arrange className blocks (some plan)) ∧
      (∀ name ∈ blocks.map (·.1),
        let isShown := name ∈ (shownSections sections).flatMap fun s => (placed s).map (·.1)
        let isIgnored := name ∈ ignored sections
        let isReported := Reported className (arrange className blocks (some plan)).2 name
        (isShown ∧ ¬ isIgnored ∧ ¬ isReported) ∨ (¬ isShown ∧ isIgnored ∧ ¬ isReported) ∨
          (¬ isShown ∧ ¬ isIgnored ∧ isReported)) ∧
      ∀ name ∈ Plan.listed (shownSections sections),
        let isShown := name ∈ (shownSections sections).flatMap fun s => (placed s).map (·.1)
        let isReported := Reported className (arrange className blocks (some plan)).2 name
        (isShown ∧ ¬ isReported) ∨ (¬ isShown ∧ isReported) := by
  have distinct := built.nodup_listed found
  have arranged : arrange className blocks (some plan) = bySections className blocks sections := by
    unfold arrange planned?
    rw [Option.bind_some, found]
  have accounts := accounts_bySections className blocks distinct
  rw [← arranged] at accounts
  refine ⟨_, accounts, fun name member => ?_, fun name isListed => ?_⟩
  · -- Shown, ignored and reported are said by `listed`, `ignored` and the names of the blocks.
    have apart := not_ignored distinct name
    have either := mem_listed_iff sections name
    simp only [accounts.mem_placed, accounts.reported_iff]
    tauto
  · have either := mem_listed_iff sections name
    simp only [accounts.mem_placed, accounts.reported_iff]
    tauto

/-- A plan with a section of each kind, and a function that the class does not have. -/
def accountedPlan : Text :=
  ("\x7b\"Shape\": \x7b\"Constructor\": [\"\", [\"__init__\"]], \"Ignore\": [\"\", [\"old\"]], " ++
    "\"Size\": [\"\", [\"lost\", \"area\"]]\x7d\x7d").toList

/-- Blocks with a function that comes twice, an ignored one and one that no section lists. -/
def accountedBlocks : List FunctionBlock :=
  [("area", "first"), ("old", "left out"), ("area", "second"), ("more", "unlisted"),
    ("__init__", "call")].map fun block => (block.1.toList, block.2.toList)

open Arrangement in
theorem arrange_accounts_sample :
    ∃ plan sections, Plan.read accountedPlan = .ok plan ∧
      plan.sections? "Shape".toList = some sections ∧
      arrange "Shape".toList accountedBlocks (some plan) =
        ("call\n\n### Size\n\nfirst".toList,
          [.unknownFunction "Shape".toList "lost".toList,
            .uncategorized "Shape".toList "more".toList]) ∧
      ∃ placed, Accounts "Shape".toList accountedBlocks sections placed
          (arrange "Shape".toList accountedBlocks (some plan)) ∧
        (∀ name ∈ accountedBlocks.map (·.1),
          let isShown := name ∈ (shownSections sections).flatMap fun s => (placed s).map (·.1)
          let isIgnored := name ∈ ignored sections
          let isReported := Reported "Shape".toList
            (arrange "Shape".toList accountedBlocks (some plan)).2 name
          (isShown ∧ ¬ isIgnored ∧ ¬ isReported) ∨ (¬ isShown ∧ isIgnored ∧ ¬ isReported) ∨
            (¬ isShown ∧ ¬ isIgnored ∧ isReported)) ∧
        ∀ name ∈ Plan.listed (shownSections sections),
          let isShown := name ∈ (shownSections sections).flatMap fun s => (placed s).map (·.1)
          let isReported := Reported "Shape".toList
            (arrange "Shape".toList accountedBlocks (some plan)).2 name
          (isShown ∧ ¬ isReported) ∨ (¬ isShown ∧ isReported) := by
  have isPlan : Plan.read accountedPlan = .ok ⟨[("Shape".toList,
      [⟨"Constructor".toList, [], ["__init__".toList]⟩, ⟨"Ignore".toList, [], ["old".toList]⟩,
        ⟨"Size".toList, [], ["lost".toList, "area".toList]⟩])]⟩ := by
    decide +kernel
  exact ⟨_, _, isPlan, rfl, by decide +kernel,
    arrange_accounts (Plan.built_read isPlan) rfl accountedBlocks⟩

end ReferencePages
