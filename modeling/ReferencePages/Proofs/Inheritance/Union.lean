/-
**Inheritance is a union by name.**

The members that a document inherits are looked up in lists that grow while the parents are gone
through. What comes out does not depend on that: the own members come first, and of everything that
the parents offer, in order, each member whose name is neither an own one nor offered before.

* `firstNew`: the elements of a list whose keys are new;
* `foldl_firstNew`: adding elements one by one, each when its key is new, adds just these;
* `foldl_inherit`: all parents at once;
* `merge_eq_union`: **a merge without a plan for the class writes the union**.
-/

import Mathlib.Data.List.Induction
import ReferencePages.Inheritance

namespace ReferencePages

open Text Markdown

/-! ### New elements -/

section FirstNew

variable {α σ : Type}

/-- The elements whose key is neither among `taken` nor the key of an element before them. -/
def firstNew (key : α → Text) (taken : List Text) (offered : List α) : List α :=
  (offered.zipIdx.filter fun (a, pos) => key a ∉ taken ++ (offered.take pos).map key).map (·.1)

theorem firstNew_concat (key : α → Text) (taken : List Text) (offered : List α) (a : α) :
    firstNew key taken (offered ++ [a]) =
      firstNew key taken offered ++ if key a ∈ taken ++ offered.map key then [] else [a] := by
  have before : offered.zipIdx.filter (fun (b, pos) =>
      key b ∉ taken ++ ((offered ++ [a]).take pos).map key) =
        offered.zipIdx.filter fun (b, pos) => key b ∉ taken ++ (offered.take pos).map key := by
    refine List.filter_congr fun pair member => ?_
    obtain ⟨b, pos⟩ := pair
    have small : pos < offered.length := (List.mem_zipIdx' member).1
    simp only [List.take_append_of_le_length (Nat.le_of_lt small)]
  unfold firstNew
  rw [List.zipIdx_append, List.filter_append, before, List.map_append]
  congr 1
  have whole : (offered ++ [a]).take offered.length = offered := List.take_left
  by_cases known : key a ∈ taken ++ offered.map key
  · simp only [List.zipIdx_singleton, Nat.zero_add, List.filter_cons, whole, known, if_pos]
    simp
  · simp only [List.zipIdx_singleton, Nat.zero_add, List.filter_cons, whole, known]
    simp

theorem mem_of_mem_firstNew {key : α → Text} {taken : List Text} {offered : List α} {a : α}
    (member : a ∈ firstNew key taken offered) : a ∈ offered := by
  obtain ⟨pair, kept, rfl⟩ := List.mem_map.mp member
  exact List.fst_mem_of_mem_zipIdx (List.mem_filter.mp kept).1

/-- The keys of the new elements, together with those taken, are all keys. -/
theorem mem_firstNew (key : α → Text) (taken : List Text) (offered : List α) (name : Text) :
    name ∈ taken ++ (firstNew key taken offered).map key ↔ name ∈ taken ++ offered.map key := by
  induction offered using List.reverseRecOn with
  | nil => rfl
  | append_singleton offered a ih =>
    have same : name ∈ taken ++ (firstNew key taken (offered ++ [a])).map key ↔
        name ∈ taken ++ (firstNew key taken offered).map key ∨ name = key a := by
      rw [firstNew_concat, List.map_append, ← List.append_assoc, List.mem_append]
      by_cases known : key a ∈ taken ++ offered.map key
      · rw [if_pos known]
        refine ⟨fun member => Or.inl (member.resolve_right List.not_mem_nil), ?_⟩
        rintro (member | rfl)
        · exact Or.inl member
        · rw [ih]
          exact Or.inl known
      · rw [if_neg known]
        simp
    have all : name ∈ taken ++ (offered ++ [a]).map key ↔
        name ∈ taken ++ offered.map key ∨ name = key a := by
      rw [List.map_append, ← List.append_assoc, List.mem_append, List.map_singleton,
        List.mem_singleton]
    rw [same, ih, all]

/-- **Adding elements one by one, each when its key is new, adds the new ones in order.** -/
theorem foldl_firstNew {key : α → Text} {names : List σ → List Text} {make : α → σ}
    {add : List σ → α → List σ}
    (adds : ∀ own a, add own a = if key a ∈ names own then own else own ++ [make a])
    (grows : ∀ own a, names (own ++ [make a]) = names own ++ [key a])
    (own : List σ) (offered : List α) :
    offered.foldl add own = own ++ (firstNew key (names own) offered).map make := by
  have namesOf : ∀ fresh : List α, names (own ++ fresh.map make) = names own ++ fresh.map key := by
    intro fresh
    induction fresh using List.reverseRecOn with
    | nil => simp
    | append_singleton fresh a ih =>
      rw [List.map_append, List.map_singleton, ← List.append_assoc, grows, ih, List.map_append,
        List.map_singleton, List.append_assoc]
  induction offered using List.reverseRecOn with
  | nil => exact (List.append_nil own).symm
  | append_singleton offered a ih =>
    have known : key a ∈ names (own ++ (firstNew key (names own) offered).map make) ↔
        key a ∈ names own ++ offered.map key := by
      rw [namesOf, mem_firstNew]
    rw [List.foldl_append, List.foldl_cons, List.foldl_nil, ih, adds, firstNew_concat,
      List.map_append, ← List.append_assoc]
    by_cases offeredBefore : key a ∈ names own ++ offered.map key
    · rw [if_pos (known.mpr offeredBefore), if_pos offeredBefore, List.map_nil, List.append_nil]
    · rw [if_neg (mt known.mp offeredBefore), if_neg offeredBefore, List.map_singleton]

end FirstNew

/-! ### Members -/

theorem foldl_addMember (own offered : List Member) :
    offered.foldl addMember own = own ++ firstNew (·.name) (own.map (·.name)) offered := by
  have adds : ∀ (own : List Member) (m : Member), addMember own m =
      if m.name ∈ own.map (·.name) then own else own ++ [id m] := by
    intro own m
    unfold addMember
    simp only [List.any_eq_true, decide_eq_true_eq, List.mem_map, id]
  have grows : ∀ (own : List Member) (m : Member),
      (own ++ [id m]).map (·.name) = own.map (·.name) ++ [m.name] := by
    intro own m
    rw [List.map_append, List.map_singleton, id]
  rw [foldl_firstNew adds grows, List.map_id]

namespace Document

/-- The names of the function blocks among some entries. -/
def blockNames (items : List FunctionItem) : List Text :=
  (items.filterMap FunctionItem.block?).map (·.1)

theorem hasFunction_iff (document : Document) (name : Text) :
    document.hasFunction name = true ↔ name ∈ blockNames document.functions := by
  unfold hasFunction functionBlocks blockNames
  rw [List.any_eq_true, List.mem_map]
  simp only [decide_eq_true_eq]

theorem blockNames_append (first second : List FunctionItem) :
    blockNames (first ++ second) = blockNames first ++ blockNames second := by
  unfold blockNames
  rw [List.filterMap_append, List.map_append]

/-- A block as an entry. -/
def blockItem (block : Text × Text) : FunctionItem := .function block.1 block.2

/-- The entries with one more block when its name is new. -/
def addBlock (items : List FunctionItem) (block : Text × Text) : List FunctionItem :=
  if block.1 ∈ blockNames items then items else items ++ [blockItem block]

theorem foldl_addBlock (items : List FunctionItem) (offered : List (Text × Text)) :
    offered.foldl addBlock items =
      items ++ (firstNew (·.1) (blockNames items) offered).map blockItem := by
  refine foldl_firstNew (fun own block => rfl) (fun own block => ?_) items offered
  rw [blockNames_append]
  rfl

/-- The function blocks that a parent hands on to the class `title`. -/
def offeredBlocks (title : Text) (parent : Document) : List (Text × Text) :=
  parent.functionBlocks.map fun block => (block.1, renameCalls block.2 parent.title title)

theorem foldl_addFunction (parent : Text) (document : Document) (blocks : List (Text × Text)) :
    blocks.foldl (addFunction parent) document =
      { document with
        functions :=
          (blocks.map fun block => (block.1, renameCalls block.2 parent document.title)).foldl addBlock
            document.functions } := by
  induction blocks generalizing document with
  | nil => rfl
  | cons block rest ih =>
    have step : addFunction parent document block =
        { document with
          functions := addBlock document.functions
            (block.1, renameCalls block.2 parent document.title) } := by
      unfold addFunction addBlock
      by_cases known : block.1 ∈ blockNames document.functions
      · rw [if_pos ((hasFunction_iff document block.1).mpr known), if_pos known]
      · rw [if_neg (mt (hasFunction_iff document block.1).mp known), if_neg known]
        rfl
    rw [List.foldl_cons, ih, step, List.map_cons, List.foldl_cons]

/-- One parent. -/
theorem inherit_eq (document parent : Document) :
    document.inherit parent =
      { document with
        rows := parent.rows.foldl addMember document.rows
        fields := parent.fields.foldl addMember document.fields
        functions := (offeredBlocks document.title parent).foldl addBlock document.functions } := by
  unfold inherit
  rw [foldl_addFunction]
  rfl

/-- **All parents at once.** -/
theorem foldl_inherit (document : Document) (parents : List Document) :
    parents.foldl inherit document =
      { document with
        rows := (parents.flatMap (·.rows)).foldl addMember document.rows
        fields := (parents.flatMap (·.fields)).foldl addMember document.fields
        functions :=
          (parents.flatMap (offeredBlocks document.title)).foldl addBlock document.functions } := by
  induction parents generalizing document with
  | nil => rfl
  | cons parent rest ih =>
    rw [List.foldl_cons, ih, inherit_eq]
    simp only [List.flatMap_cons, List.foldl_append]

/-! ### The union -/

/-- The document needs a constructor: it has parents and a title, and neither it nor a parent has a
constructor. -/
def NeedsConstructor (child : Document) (parents : List Document) : Prop :=
  parents ≠ [] ∧ child.title ≠ [] ∧
    ∀ document ∈ child :: parents, constructorName ∉ blockNames document.functions

instance (child : Document) (parents : List Document) : Decidable (NeedsConstructor child parents) :=
  inferInstanceAs (Decidable (_ ∧ _ ∧ _))

/-- The members of the child, followed by those of the parents whose names are new, in order. -/
def union (child : Document) (parents : List Document) : Document :=
  { child with
    rows := child.rows ++
      firstNew (·.name) (child.rows.map (·.name)) (parents.flatMap (·.rows))
    fields := child.fields ++
      firstNew (·.name) (child.fields.map (·.name)) (parents.flatMap (·.fields))
    functions :=
      (if NeedsConstructor child parents then [bareConstructor child.title] else []) ++
        child.functions ++
        (firstNew (·.1) (blockNames child.functions)
          (parents.flatMap (offeredBlocks child.title))).map blockItem }

theorem map_offeredBlocks (title : Text) (parents : List Document) :
    (parents.flatMap (offeredBlocks title)).map (·.1) =
      parents.flatMap fun parent => blockNames parent.functions := by
  have names : ∀ parent : Document,
      (offeredBlocks title parent).map (·.1) = blockNames parent.functions := by
    intro parent
    unfold offeredBlocks blockNames
    rw [List.map_map]
    rfl
  rw [List.map_flatMap, funext names]

/-- The merged document has a function when the child or a parent has it. -/
theorem mem_blockNames_foldl_inherit (child : Document) (parents : List Document) (name : Text) :
    name ∈ blockNames (parents.foldl inherit child).functions ↔
      ∃ document ∈ child :: parents, name ∈ blockNames document.functions := by
  have blocks : ∀ fresh : List (Text × Text),
      blockNames (fresh.map blockItem) = fresh.map (·.1) := by
    intro fresh
    have shown : FunctionItem.block? ∘ blockItem = some := rfl
    unfold blockNames
    rw [List.filterMap_map, shown, List.filterMap_some]
  rw [foldl_inherit]
  simp only
  rw [foldl_addBlock, blockNames_append, blocks, mem_firstNew, map_offeredBlocks, List.mem_append,
    List.mem_flatMap]
  simp only [List.mem_cons, exists_eq_or_imp]

theorem inheritFrom_eq_union (child : Document) (parents : List Document) :
    child.inheritFrom parents = child.union parents := by
  have members := foldl_inherit child parents
  rw [foldl_addMember, foldl_addMember, foldl_addBlock] at members
  by_cases alone : parents = []
  · have noNeed : ¬ NeedsConstructor child parents := fun needed => needed.1 alone
    have kept : child.inheritFrom parents = parents.foldl inherit child := by
      rw [alone]
      rfl
    rw [kept, members]
    unfold union
    rw [if_neg noNeed, List.nil_append]
  · have title : (parents.foldl inherit child).title = child.title := by rw [foldl_inherit]
    have needs : ((parents.foldl inherit child).hasFunction constructorName ||
        (parents.foldl inherit child).title.isEmpty) = true ↔ ¬ NeedsConstructor child parents := by
      rw [title, Bool.or_eq_true, hasFunction_iff, mem_blockNames_foldl_inherit, List.isEmpty_iff]
      constructor
      · rintro (⟨document, inside, has⟩ | empty) needed
        · exact needed.2.2 document inside has
        · exact needed.2.1 empty
      · intro noNeed
        by_cases empty : child.title = []
        · exact Or.inr empty
        · refine Or.inl (by_contra fun lacks => noNeed ⟨alone, empty, fun document inside has => ?_⟩)
          exact lacks ⟨document, inside, has⟩
    unfold inheritFrom
    simp only
    rw [if_neg (by simpa using alone)]
    unfold withConstructor
    by_cases needed : NeedsConstructor child parents
    · rw [if_neg (fun has => needs.mp has needed), title, members]
      unfold union
      rw [if_pos needed]
      rfl
    · rw [if_pos (needs.mpr needed), members]
      unfold union
      rw [if_neg needed, List.nil_append]

end Document

/-- **A merge without a plan for the class writes the union by name**, child first, then the parents
in order, and reports nothing. -/
theorem merge_eq_union (child : Text) (parents : List Text) (plan : Option Plan)
    (unplanned : planned? plan (Document.parse child).title = none) :
    merge child parents plan =
      (Page.ofText ((Document.parse child).union (parents.map Document.parse)).render, []) := by
  have title : ((Document.parse child).union (parents.map Document.parse)).title =
      (Document.parse child).title := rfl
  unfold merge Document.arranged
  simp only [Document.inheritFrom_eq_union, title, unplanned]
  rfl

/-- A child that overrides a function of its parent, and a parent with that function twice. -/
def unionChild : Text :=
  joinLines (["# Square", "", "## Functions", "", "#### of", "", "**`Square.of()`**"].map (·.toList))

def unionParent : Text :=
  joinLines (["# Shape", "", "## Fields", "", "- `w`", "", "## Functions", "", "#### of", "",
    "#### at", "", "**`Shape.at()`**", "", "#### at"].map (·.toList))

theorem merge_eq_union_sample :
    planned? (some ⟨[("Shape".toList, [])]⟩) (Document.parse unionChild).title = none ∧
      merge unionChild [unionParent, unionParent] (some ⟨[("Shape".toList, [])]⟩) =
        (Page.ofText ((Document.parse unionChild).union
          ([unionParent, unionParent].map Document.parse)).render, []) :=
  have unplanned : planned? (some ⟨[("Shape".toList, [])]⟩) (Document.parse unionChild).title =
      none := by decide +kernel
  ⟨unplanned, merge_eq_union _ _ _ unplanned⟩

end ReferencePages
