/-
**A plan over its life.**

A plan begins empty and is changed by calls: a text is read in its place, or sections are inserted
for one class. A call that is refused leaves the plan as it was.

* `IsFirstRepeat`, `insert_eq_error_iff`: an insertion is refused for the first function that is
  listed again, with the section of its one earlier listing and its own;
* `sections?_of_insert`: an insertion changes the sections of its class alone;
* `Describes`, `Holds`, `holds_of_read`: **a plan that is read has the classes of the text, and their
  sections in the order of the text**: a repeated key keeps its first place and takes its last value;
* `built_after`, `built_reached`: one call, and any number of them, leave a plan that is built;
* `reached_plan`: **what holds of every plan that calls can reach**, and of the next call.
-/

import ReferencePages.Proofs.Arrangement.Accounting
import ReferencePages.Proofs.Json.Spelling

namespace ReferencePages.Plan

open Json

/-! ### The first repeat -/

/-- The first listing of a function that has been listed before, with the section of that earlier
listing. -/
def IsFirstRepeat (listings : List (Text × Text)) (function first second : Text) : Prop :=
  ∃ before after, listings = before ++ (function, second) :: after ∧
    (before.map (·.1)).Nodup ∧ (function, first) ∈ before

section Entries

variable {α : Type} {entries : List (Text × α)}

theorem lookup_eq_none_iff_not_mem (key : Text) :
    entries.lookup key = none ↔ key ∉ entries.map (·.1) := by
  rw [List.lookup_eq_none_iff, List.mem_map]
  simp only [bne_iff_ne, ne_eq]
  grind

/-- Where no key comes twice, a key is looked up in its only entry. -/
theorem lookup_eq_some_iff_mem (distinct : (entries.map (·.1)).Nodup) (key : Text) (value : α) :
    entries.lookup key = some value ↔ (key, value) ∈ entries := by
  induction entries with
  | nil => simp
  | cons entry rest ih =>
    obtain ⟨other, old⟩ := entry
    rw [List.map_cons] at distinct
    obtain ⟨fresh, distinct⟩ := List.nodup_cons.mp distinct
    by_cases hit : key = other
    · have absent : (other, value) ∉ rest := by
        intro member
        exact fresh (List.mem_map.mpr ⟨_, member, rfl⟩)
      rw [hit]
      simp [absent, eq_comm]
    · rw [List.lookup_cons, beq_false_of_ne hit]
      simp [ih distinct, hit]

end Entries

theorem firstRepeat?_eq_some_iff {seen : List (Text × Text)} (distinct : (seen.map (·.1)).Nodup)
    (listed : List (Text × Text)) (function first second : Text) :
    firstRepeat? seen listed = some (function, first, second) ↔
      ∃ before after, listed = before ++ (function, second) :: after ∧
        ((before.reverse ++ seen).map (·.1)).Nodup ∧ (function, first) ∈ before.reverse ++ seen := by
  induction listed generalizing seen with
  | nil => simp [firstRepeat?]
  | cons listing rest ih =>
    obtain ⟨name, owner⟩ := listing
    rw [firstRepeat?]
    cases found : seen.lookup name with
    | some earlier =>
      have member := (lookup_eq_some_iff_mem distinct name earlier).mp found
      constructor
      · intro same
        cases same
        exact ⟨[], rest, rfl, distinct, member⟩
      · rintro ⟨before, after, same, nodup, isFirst⟩
        cases before with
        | nil =>
          cases same
          have isEarlier := (lookup_eq_some_iff_mem distinct function first).mpr isFirst
          cases found.symm.trans isEarlier
          rfl
        | cons head before =>
          cases same
          -- The name would stand both among the listings passed and among those seen before.
          rw [List.reverse_cons, List.append_assoc, List.map_append] at nodup
          have fresh := (List.nodup_cons.mp (List.nodup_append.mp nodup).2.1).1
          exact absurd (List.mem_map_of_mem member) fresh
    | none =>
      have fresh := (lookup_eq_none_iff_not_mem name).mp found
      have distinctNow : (((name, owner) :: seen).map (·.1)).Nodup :=
        List.nodup_cons.mpr ⟨fresh, distinct⟩
      refine (ih distinctNow).trans ?_
      constructor
      · rintro ⟨before, after, rfl, nodup, isFirst⟩
        refine ⟨(name, owner) :: before, after, rfl, ?_, ?_⟩
        · rwa [List.reverse_cons, List.append_assoc]
        · rwa [List.reverse_cons, List.append_assoc]
      · rintro ⟨before, after, same, nodup, isFirst⟩
        cases before with
        | nil =>
          cases same
          exact absurd (List.mem_map_of_mem isFirst) fresh
        | cons head before =>
          cases same
          rw [List.reverse_cons, List.append_assoc] at nodup isFirst
          exact ⟨before, after, rfl, nodup, isFirst⟩

/-- **The repeat that is found is the first.** -/
theorem firstRepeat?_nil_iff (listed : List (Text × Text)) (function first second : Text) :
    firstRepeat? [] listed = some (function, first, second) ↔
      IsFirstRepeat listed function first second := by
  have distinct : (([] : List (Text × Text)).map (·.1)).Nodup := List.nodup_nil
  rw [firstRepeat?_eq_some_iff distinct]
  simp only [List.append_nil, List.map_reverse, List.nodup_reverse, List.mem_reverse]
  rfl

/-- **A repeat is found exactly when a function is listed twice.** -/
theorem exists_isFirstRepeat_iff (sections : List Section) :
    (∃ function first second, IsFirstRepeat (listings sections) function first second) ↔
      ¬ (listed sections).Nodup := by
  rw [← map_fst_listings]
  constructor
  · rintro ⟨function, first, second, before, after, split, -, earlier⟩ distinct
    rw [split, List.map_append] at distinct
    have apart := (List.nodup_append.mp distinct).2.2
    exact apart function (List.mem_map_of_mem earlier) function (by simp) rfl
  · intro repeats
    cases found : firstRepeat? [] (listings sections) with
    | none => exact absurd (nodup_of_firstRepeat? found).1 repeats
    | some found' =>
      obtain ⟨function, first, second⟩ := found'
      exact ⟨function, first, second, (firstRepeat?_nil_iff _ _ _ _).mp found⟩

/-! ### One insertion -/

theorem insert_eq_error_iff (plan : Plan) (className : Text) (sections : List Section)
    (error : PlanError) :
    plan.insert className sections = .error error ↔
      ∃ function first second, IsFirstRepeat (listings sections) function first second ∧
        error = .duplicateFunction className function first second := by
  simp only [← firstRepeat?_nil_iff]
  unfold insert
  cases found : firstRepeat? [] (listings sections) with
  | none => simp
  | some found' =>
    obtain ⟨function, first, second⟩ := found'
    constructor
    · intro same
      cases same
      exact ⟨function, first, second, rfl, rfl⟩
    · rintro ⟨function', first', second', same, rfl⟩
      cases same
      rfl

theorem exists_error_of_insert (plan : Plan) (className : Text) {sections : List Section}
    (repeats : ¬ (listed sections).Nodup) : ∃ error, plan.insert className sections = .error error := by
  obtain ⟨function, first, second, isFirst⟩ := (exists_isFirstRepeat_iff sections).mpr repeats
  exact ⟨_, (insert_eq_error_iff plan className sections _).mpr
    ⟨function, first, second, isFirst, rfl⟩⟩

/-- **An insertion is accepted exactly when it lists no function twice.** -/
theorem exists_insert_iff (plan : Plan) (className : Text) (sections : List Section) :
    (∃ larger, plan.insert className sections = .ok larger) ↔ (listed sections).Nodup := by
  constructor
  · rintro ⟨larger, inserted⟩
    by_contra repeats
    obtain ⟨error, refused⟩ := exists_error_of_insert plan className repeats
    rw [inserted] at refused
    cases refused
  · intro distinct
    cases inserted : plan.insert className sections with
    | ok larger => exact ⟨larger, rfl⟩
    | error error =>
      obtain ⟨function, first, second, isFirst, -⟩ :=
        (insert_eq_error_iff plan className sections error).mp inserted
      have repeats := (exists_isFirstRepeat_iff sections).mp ⟨function, first, second, isFirst⟩
      exact absurd distinct repeats

/-- **An insertion changes the sections of its class alone.** -/
theorem sections?_of_insert {plan larger : Plan} {className : Text} {sections : List Section}
    (inserted : plan.insert className sections = .ok larger) (wanted : Text) :
    larger.sections? wanted =
      if wanted = className then some sections else plan.sections? wanted := by
  unfold insert at inserted
  split at inserted
  · cases inserted
  · cases inserted
    unfold sections?
    by_cases hit : wanted = className
    · rw [if_pos hit, hit, List.lookup_cons_self]
    · rw [if_neg hit, List.lookup_cons, beq_false_of_ne hit]

/-! ### A plan that is read -/

/-- A value describes the section: an object with the functions under their key and perhaps the
description under its own, or the two in an array. -/
inductive Describes (s : Section) : Json → Prop
  | object {pairs : List (Text × Json)}
      (functions : pairs.reverse.lookup "functions".toList = some (.array (s.functions.map .text)))
      (description : pairs.reverse.lookup "description".toList = some (.text s.description) ∨
        pairs.reverse.lookup "description".toList = none ∧ s.description = []) :
      Describes s (.object pairs)
  | array : Describes s (.array [.text s.description, .array (s.functions.map .text)])

/-- The sections are those that the pairs describe, in the order of the pairs. -/
structure AreSections (pairs : List (Text × Json)) (sections : List Section) : Prop where
  names : sections.map (·.name) = (pairs.map (·.1)).eraseDups
  described : ∀ s ∈ sections, ∃ value, pairs.reverse.lookup s.name = some value ∧ Describes s value

/-- The plan has the classes of the pairs and no other, each with the sections that are given for it
last. -/
structure Holds (pairs : List (Text × Json)) (plan : Plan) : Prop where
  classes : ∀ className, plan.contains className = true ↔ className ∈ pairs.map (·.1)
  sections : ∀ className sections, plan.sections? className = some sections →
    ∃ body, pairs.reverse.lookup className = some (.object body) ∧ AreSections body sections

theorem texts?_settled {items : List Json} {texts : List Text}
    (same : texts? (items.map settled) = some texts) : items = texts.map .text := by
  unfold texts? at same
  induction items generalizing texts with
  | nil =>
    cases same
    rfl
  | cons item rest ih =>
    rw [List.map_cons, List.mapM_cons] at same
    obtain ⟨text, isText, same⟩ := Option.bind_eq_some_iff.mp same
    obtain ⟨others, areTexts, same⟩ := Option.bind_eq_some_iff.mp same
    cases same
    rw [ih areTexts, List.map_cons]
    congr 1
    refine settled_eq_text ?_
    split at isText
    · rename_i value isValue
      cases isText
      exact isValue
    · cases isText

theorem functions?_settled {spelt : Json} {functions : List Text}
    (same : functions? spelt.settled = some functions) : spelt = .array (functions.map .text) := by
  unfold functions? at same
  split at same
  · rename_i items isArray
    obtain ⟨spelled, rfl, rfl⟩ := settled_eq_array isArray
    rw [texts?_settled same]
  · cases same

theorem description?_settled {pairs : List (Text × Json)} {description : Text}
    (same : description? (settledMembers pairs) = some description) :
    pairs.reverse.lookup "description".toList = some (.text description) ∨
      pairs.reverse.lookup "description".toList = none ∧ description = [] := by
  unfold description? at same
  rw [get?_settledMembers] at same
  cases found : pairs.reverse.lookup "description".toList with
  | none =>
    rw [found] at same
    cases same
    exact .inr ⟨rfl, rfl⟩
  | some spelt =>
    rw [found, Option.map_some] at same
    split at same
    · rename_i absent
      cases absent
    · rename_i value isText
      cases same
      exact .inl (congrArg some (settled_eq_text (Option.some.inj isText)))
    · cases same

theorem name_of_section? {name : Text} {value : Json} {s : Section}
    (same : section? name value = some s) : s.name = name := by
  unfold section? at same
  split at same
  · obtain ⟨listed, -, same⟩ := Option.bind_eq_some_iff.mp same
    obtain ⟨functions, -, same⟩ := Option.bind_eq_some_iff.mp same
    obtain ⟨description, -, same⟩ := Option.bind_eq_some_iff.mp same
    cases same
    rfl
  · obtain ⟨functions, -, same⟩ := Option.map_eq_some_iff.mp same
    cases same
    rfl
  · cases same

/-- A section that is read is the one that the value describes. -/
theorem describes_of_section? {name : Text} {spelt : Json} {s : Section}
    (same : section? name spelt.settled = some s) : Describes s spelt := by
  unfold section? at same
  split at same
  · rename_i members isObject
    obtain ⟨pairs, rfl, rfl⟩ := settled_eq_object isObject
    obtain ⟨value, isValue, same⟩ := Option.bind_eq_some_iff.mp same
    obtain ⟨functions, areFunctions, same⟩ := Option.bind_eq_some_iff.mp same
    obtain ⟨description, isDescription, same⟩ := Option.bind_eq_some_iff.mp same
    cases same
    rw [get?_settledMembers] at isValue
    obtain ⟨listed, isListed, rfl⟩ := Option.map_eq_some_iff.mp isValue
    rw [functions?_settled areFunctions] at isListed
    exact .object isListed (description?_settled isDescription)
  · rename_i description value isArray
    obtain ⟨spelled, rfl, items⟩ := settled_eq_array isArray
    obtain ⟨functions, areFunctions, same⟩ := Option.map_eq_some_iff.mp same
    cases same
    obtain ⟨first, others, rfl, isText, items⟩ := List.map_eq_cons_iff.mp items.symm
    obtain ⟨listed, rest, rfl, rfl, noMore⟩ := List.map_eq_cons_iff.mp items
    cases List.map_eq_nil_iff.mp noMore
    rw [settled_eq_text isText, functions?_settled areFunctions]
    exact .array
  · cases same

/-- The sections that are read, one for each member. -/
theorem sections_of_readSections {className : Text} {members : Members} {sections : List Section}
    (same : readSections className members = .ok sections) :
    sections.map (·.name) = members.map (·.1) ∧
      ∀ s ∈ sections, ∃ value, (s.name, value) ∈ members ∧ section? s.name value = some s := by
  induction members generalizing sections with
  | nil =>
    cases same
    exact ⟨rfl, fun s member => absurd member List.not_mem_nil⟩
  | cons member rest ih =>
    obtain ⟨name, value⟩ := member
    rw [readSections] at same
    split at same
    · cases same
    · rename_i first isFirst
      obtain ⟨others, areOthers, rfl⟩ := map_eq_ok same
      obtain ⟨names, described⟩ := ih areOthers
      have isName := name_of_section? isFirst
      refine ⟨by rw [List.map_cons, List.map_cons, names, isName], fun s isSection => ?_⟩
      rcases List.mem_cons.mp isSection with rfl | later
      · rw [isName]
        exact ⟨value, List.mem_cons_self, isFirst⟩
      · obtain ⟨value, member, isRead⟩ := described s later
        exact ⟨value, List.mem_cons_of_mem _ member, isRead⟩

theorem nodup_keys_settledMembers (pairs : List (Text × Json)) :
    ((settledMembers pairs).map (·.1)).Nodup :=
  Members.nodup_keys_ofPairs _

/-- **The sections of a class that is read.** -/
theorem areSections_of_readSections {className : Text} {pairs : List (Text × Json)}
    {sections : List Section} (same : readSections className (settledMembers pairs) = .ok sections) :
    AreSections pairs sections := by
  obtain ⟨names, described⟩ := sections_of_readSections same
  refine ⟨names.trans (keys_settledMembers pairs), fun s isSection => ?_⟩
  obtain ⟨value, member, isRead⟩ := described s isSection
  have found : (settledMembers pairs).get? s.name = some value :=
    (lookup_eq_some_iff_mem (nodup_keys_settledMembers pairs) s.name value).mpr member
  rw [get?_settledMembers] at found
  obtain ⟨spelt, isLast, rfl⟩ := Option.map_eq_some_iff.mp found
  exact ⟨spelt, isLast, describes_of_section? isRead⟩

/-- The classes that are read, where none comes twice: each has the sections read for it, and every
other class the ones it had. -/
theorem sections?_of_readClasses {members : Members} {plan larger : Plan}
    (distinct : (members.map (·.1)).Nodup) (same : readClasses plan members = .ok larger)
    (className : Text) :
    (members.get? className = none ∧ larger.sections? className = plan.sections? className) ∨
      ∃ fields sections, members.get? className = some (.object fields) ∧
        readSections className fields = .ok sections ∧
        larger.sections? className = some sections := by
  unfold Members.get?
  induction members generalizing plan with
  | nil =>
    cases same
    exact .inl ⟨rfl, rfl⟩
  | cons member rest ih =>
    obtain ⟨name, value⟩ := member
    rw [List.map_cons] at distinct
    obtain ⟨fresh, distinctRest⟩ := List.nodup_cons.mp distinct
    cases value with
    | object fields =>
      obtain ⟨sections, areRead, same⟩ := bind_eq_ok same
      obtain ⟨next, isNext, same⟩ := bind_eq_ok same
      have step := sections?_of_insert isNext className
      have later := ih distinctRest same
      by_cases hit : className = name
      · subst hit
        have unread := (lookup_eq_none_iff_not_mem className).mpr fresh
        rw [unread] at later
        rw [if_pos rfl] at step
        rcases later with ⟨-, kept⟩ | ⟨fields', sections', found, -⟩
        · exact .inr ⟨fields, sections, List.lookup_cons_self, areRead, kept.trans step⟩
        · cases found
      · rw [if_neg hit] at step
        rwa [List.lookup_cons, beq_false_of_ne hit, ← step]
    | _ => cases same

/-- **A plan that is read has the classes of the text, and their sections in the order of the
text.** -/
theorem holds_of_read {t : Text} {plan : Plan} (same : read t = .ok plan) :
    ∃ pairs, Token.scan? t = some (Json.object pairs).spelling ∧ Holds pairs plan := by
  unfold read at same
  split at same
  · rename_i members isObject
    obtain ⟨spelt, scanned, isSettled⟩ := spelling_of_read? isObject
    obtain ⟨pairs, rfl, rfl⟩ := settled_eq_object isSettled.symm
    refine ⟨pairs, scanned, ?_⟩
    have classes := sections?_of_readClasses (nodup_keys_settledMembers pairs) same
    simp only [get?_settledMembers, Option.map_eq_none_iff, Option.map_eq_some_iff] at classes
    constructor
    · intro className
      have same : plan.contains className = (pairs.reverse.lookup className).isSome := by
        unfold contains
        rcases classes className with
          ⟨unread, kept⟩ | ⟨fields, sections, ⟨spelt, found, -⟩, -, given⟩
        · rw [kept, unread]
          rfl
        · rw [given, found]
          rfl
      rw [same, Option.isSome_iff_ne_none, ne_eq, lookup_eq_none_iff_not_mem, not_not,
        List.map_reverse, List.mem_reverse]
    · intro className sections isSections
      rcases classes className with
        ⟨-, kept⟩ | ⟨fields, others, ⟨spelt, found, isObject⟩, areRead, given⟩
      · rw [isSections] at kept
        cases kept
      · obtain ⟨body, rfl, rfl⟩ := settled_eq_object isObject
        cases isSections.symm.trans given
        exact ⟨body, found, areSections_of_readSections areRead⟩
  · cases same

/-! ### The life of a plan -/

/-- What can be asked of a plan. -/
inductive Call where
  | load (t : Text)
  | insert (className : Text) (sections : List Section)

/-- The plan that a call makes. -/
def Call.answer (plan : Plan) : Call → Except PlanError Plan
  | .load t => Plan.read t
  | .insert className sections => plan.insert className sections

/-- The plan after a call: a call that is refused leaves it as it was. -/
def after (plan : Plan) (call : Call) : Plan :=
  match call.answer plan with
  | .ok next => next
  | .error _ => plan

/-- The plan after some calls, the first one on the empty plan. -/
def reached (calls : List Call) : Plan := calls.foldl after empty

theorem after_of_ok {plan next : Plan} {call : Call} (answered : call.answer plan = .ok next) :
    plan.after call = next := by
  rw [after, answered]

theorem after_of_error {plan : Plan} {call : Call} {error : PlanError}
    (answered : call.answer plan = .error error) : plan.after call = plan := by
  rw [after, answered]

/-- **One call leaves a plan that is built.** -/
theorem built_after {plan : Plan} (built : plan.Built) (call : Call) : (plan.after call).Built := by
  cases answered : call.answer plan with
  | error error => rwa [after_of_error answered]
  | ok next =>
    rw [after_of_ok answered]
    cases call with
    | load t => exact built_read answered
    | insert className sections => exact built.insert answered

/-- **Any number of calls leave a plan that is built.** -/
theorem built_reached (calls : List Call) : (reached calls).Built := by
  unfold reached
  induction calls using List.reverseRecOn with
  | nil => exact .empty
  | append_singleton calls call ih =>
    rw [List.foldl_append]
    exact built_after ih call

/-- What an insertion does to the plan. -/
structure Inserts (plan : Plan) (className : Text) (sections : List Section) : Prop where
  refused_iff : ∀ error, plan.insert className sections = .error error ↔
    ∃ function first second, IsFirstRepeat (listings sections) function first second ∧
      error = .duplicateFunction className function first second
  accepted_iff : (∃ larger, plan.insert className sections = .ok larger) ↔ (listed sections).Nodup
  unchanged : ¬ (listed sections).Nodup → plan.after (.insert className sections) = plan
  changed : (listed sections).Nodup → ∀ wanted,
    (plan.after (.insert className sections)).sections? wanted =
      if wanted = className then some sections else plan.sections? wanted

theorem inserts (plan : Plan) (className : Text) (sections : List Section) :
    plan.Inserts className sections where
  refused_iff := insert_eq_error_iff plan className sections
  accepted_iff := exists_insert_iff plan className sections
  unchanged := by
    intro repeats
    obtain ⟨error, refused⟩ := exists_error_of_insert plan className repeats
    exact after_of_error refused
  changed := by
    intro distinct wanted
    obtain ⟨larger, inserted⟩ := (exists_insert_iff plan className sections).mpr distinct
    have isAfter : plan.after (.insert className sections) = larger := after_of_ok inserted
    rw [isAfter, sections?_of_insert inserted]

/-- What reading a text in place of the plan does. -/
structure Loads (plan : Plan) (t : Text) : Prop where
  unchanged : ∀ error, read t = .error error → plan.after (.load t) = plan
  changed : ∀ larger, read t = .ok larger → plan.after (.load t) = larger ∧
    ∃ pairs, Token.scan? t = some (Json.object pairs).spelling ∧ Holds pairs larger

theorem loads (plan : Plan) (t : Text) : plan.Loads t where
  unchanged := fun _ refused => after_of_error refused
  changed := fun _ accepted => ⟨after_of_ok accepted, holds_of_read accepted⟩

/-- **Whatever calls made the plan**, no class lists a function twice, within a section or across
sections; the next insertion is refused exactly when it lists one twice, for the first listing that
repeats, and else sets the sections of its class and no more; and a text that is read next gives the
plan its own classes, with their sections in order. -/
theorem reached_plan (calls : List Call) :
    (∀ className sections, (reached calls).sections? className = some sections →
      (listed sections).Nodup) ∧
    (∀ className sections, (reached calls).Inserts className sections) ∧
    (∀ t, (reached calls).Loads t) := by
  refine ⟨fun className sections found => ?_, fun className sections => ?_, fun t => ?_⟩
  · exact (built_reached calls).nodup_listed found
  · exact inserts (reached calls) className sections
  · exact loads (reached calls) t

/-- A plan with a class that comes twice, and in it a section that comes twice. -/
def repeatedKeys : Text :=
  ("\x7b\"A\": \x7b\x7d, \"B\": \x7b\x7d, \"A\": \x7b\"Size\": [\"\", [\"f\"]], " ++
    "\"More\": \x7b\"functions\": []\x7d, \"Size\": [\"How large\", [\"g\", \"h\"]]\x7d\x7d").toList

/-- Sections that list two functions twice: one across sections, and later one within a section. -/
def repeatedFunctions : List Section :=
  [⟨"One".toList, [], ["f".toList, "g".toList]⟩, ⟨"Two".toList, [], ["h".toList, "g".toList]⟩,
    ⟨"Three".toList, [], ["f".toList, "k".toList, "k".toList]⟩]

/-- Two calls that are refused, between two that are not. -/
def sampleCalls : List Call :=
  [.load repeatedKeys, .load "[".toList, .insert "A".toList repeatedFunctions,
    .insert "C".toList [⟨"Size".toList, [], ["g".toList]⟩]]

theorem reached_plan_sample :
    (reached sampleCalls).sections? "A".toList =
      some [⟨"Size".toList, "How large".toList, ["g".toList, "h".toList]⟩, ⟨"More".toList, [], []⟩] ∧
    (listed [⟨"Size".toList, "How large".toList, ["g".toList, "h".toList]⟩,
      ⟨"More".toList, [], []⟩]).Nodup ∧
    (reached sampleCalls).insert "A".toList repeatedFunctions =
      .error (.duplicateFunction "A".toList "g".toList "One".toList "Two".toList) ∧
    (∃ function first second, IsFirstRepeat (listings repeatedFunctions) function first second ∧
      PlanError.duplicateFunction "A".toList "g".toList "One".toList "Two".toList =
        .duplicateFunction "A".toList function first second) ∧
    (reached sampleCalls).after (.insert "A".toList repeatedFunctions) = reached sampleCalls ∧
    ∃ larger pairs, read repeatedKeys = .ok larger ∧
      Token.scan? repeatedKeys = some (Json.object pairs).spelling ∧ Holds pairs larger := by
  have found : (reached sampleCalls).sections? "A".toList =
      some [⟨"Size".toList, "How large".toList, ["g".toList, "h".toList]⟩,
        ⟨"More".toList, [], []⟩] := by decide +kernel
  have refused : (reached sampleCalls).insert "A".toList repeatedFunctions =
      .error (.duplicateFunction "A".toList "g".toList "One".toList "Two".toList) := by
    decide +kernel
  have accepted : read repeatedKeys = .ok ⟨[("B".toList, []), ("A".toList,
      [⟨"Size".toList, "How large".toList, ["g".toList, "h".toList]⟩,
        ⟨"More".toList, [], []⟩])]⟩ := by decide +kernel
  obtain ⟨distinct, insertion, loading⟩ := reached_plan sampleCalls
  have inserts := insertion "A".toList repeatedFunctions
  obtain ⟨-, pairs, scanned, holds⟩ := (loading repeatedKeys).changed _ accepted
  exact ⟨found, distinct _ _ found, refused, (inserts.refused_iff _).mp refused,
    inserts.unchanged (by decide +kernel), _, pairs, accepted, scanned, holds⟩

end ReferencePages.Plan
