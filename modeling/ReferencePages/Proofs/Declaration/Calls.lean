/-
**What a call shows of a declaration.**

The arguments of a call are read back as the parameters that they stand for, without their types:

* `Legible`: what reading an entry leaves of it; `legible_of_read?`;
* `read?_assigned`: an argument of a call is read as the parameter it stands for;
* `readAll_join`: so are arguments with commas between them, of which only the last may leave
  something open;
* `callSignatures_readBack`: **the long call is read back as the parameters that are no receiver, the
  short call as those of them without a default**;
* `last_callSignature_iff`: **the last call shows every parameter whose name is not a receiver's**, so
  it leaves out the receiver alone exactly when no later parameter has such a name
  (`later_receiver_left_out`).
-/

import ReferencePages.Declaration.Parameter
import ReferencePages.Proofs.Declaration.Nesting

namespace ReferencePages

open Text Declaration

namespace DeclaredParam

/-! ### Entries -/

/-- The parameter without its type. -/
def untyped (p : DeclaredParam) : DeclaredParam := { p with declaredType := [] }

/-- What reading an entry leaves of it: names and defaults are trimmed and hold no mark at which they
would be cut again, and a name with a default leaves nothing open. -/
structure Legible (p : DeclaredParam) : Prop where
  name_trimmed : trim p.name = p.name
  name_lacks : ∀ mark, mark = ',' ∨ mark = '=' ∨ mark = ':' → Lacks mark .initial p.name
  name_closed : p.default.isSome = true → Closed p.name
  default_trimmed : ∀ default, p.default = some default → trim default = default
  default_lacks : ∀ default, p.default = some default → Lacks ',' .initial default

theorem assigned_of_default {p : DeclaredParam} {default : Text} (isDefault : p.default = some default) :
    p.assigned = p.name ++ '=' :: default := by
  unfold assigned
  rw [isDefault]
  simp

theorem assigned_of_none {p : DeclaredParam} (noDefault : p.default = none) : p.assigned = p.name := by
  unfold assigned
  rw [noDefault]

theorem cutEntry_cases (t : Text) {mark : Char} (isMark : IsMark mark) :
    (Lacks mark .initial t ∧ cutEntry mark t = (t, none)) ∨
      ∃ before after, t = before ++ mark :: after ∧ Lacks mark .initial before ∧ Closed before ∧
        cutEntry mark t = (before, some (trim after)) := by
  unfold cutEntry cutTop?
  cases cut : cutTopFrom? mark .initial t with
  | none => exact Or.inl ⟨cut, rfl⟩
  | some pair =>
    obtain ⟨before, after⟩ := pair
    obtain ⟨whole, lacks, closed⟩ := (cutTopFrom?_eq_some_iff isMark).mp cut
    exact Or.inr ⟨before, after, whole, lacks, closed, rfl⟩

/-- The name at the start of an entry, cut off from its type. -/
theorem name_of_head {head : Text} (lacksComma : Lacks ',' .initial head)
    (lacksEquals : Lacks '=' .initial head) :
    (∀ mark, mark = ',' ∨ mark = '=' ∨ mark = ':' →
        Lacks mark .initial (trim (cutEntry ':' head).1)) ∧
      (Closed head → Closed (trim (cutEntry ':' head).1)) := by
  rcases cutEntry_cases head isMark_colon with
    ⟨lacksColon, cut⟩ | ⟨name, type, rfl, lacksColon, closedName, cut⟩
  · rw [cut]
    refine ⟨?_, closed_trim⟩
    rintro mark (rfl | rfl | rfl)
    exacts [lacks_trim lacksComma, lacks_trim lacksEquals, lacks_trim lacksColon]
  · rw [cut]
    refine ⟨?_, fun _ => closed_trim closedName⟩
    rintro mark (rfl | rfl | rfl)
    exacts [lacks_trim (isMark_colon.lacks_rest closedName lacksComma).1,
      lacks_trim (isMark_colon.lacks_rest closedName lacksEquals).1, lacks_trim lacksColon]

/-- **What reading an entry leaves of it.** An entry that leaves nothing open gives an argument that
leaves nothing open. -/
theorem legible_of_read? {entry : Text} {p : DeclaredParam} (same : read? entry = some p)
    (lacks : Lacks ',' .initial entry) : p.Legible ∧ (Closed entry → Closed p.assigned) := by
  unfold read? at same
  simp only at same
  split at same
  · cases same
  · have lacksComma := lacks_trim lacks
    have closedEntry : Closed entry → Closed (trim entry) := closed_trim
    generalize trim entry = trimmed at same lacksComma closedEntry
    rcases cutEntry_cases trimmed isMark_equals with
      ⟨lacksEquals, cut⟩ | ⟨head, value, rfl, lacksEquals, closedHead, cut⟩
    · obtain ⟨nameLacks, nameClosed⟩ := name_of_head lacksComma lacksEquals
      rw [cut] at same
      cases same
      exact ⟨⟨trim_trim _, nameLacks, by simp, by simp, by simp⟩,
        fun closed => nameClosed (closedEntry closed)⟩
    · obtain ⟨headLacks, valueLacks⟩ := isMark_equals.lacks_rest closedHead lacksComma
      obtain ⟨nameLacks, nameClosed⟩ := name_of_head headLacks lacksEquals
      rw [cut] at same
      cases same
      refine ⟨⟨trim_trim _, nameLacks, fun _ => nameClosed closedHead, ?_, ?_⟩, fun closed => ?_⟩
      · intro default isDefault
        cases isDefault
        exact trim_trim _
      · intro default isDefault
        cases isDefault
        exact lacks_trim valueLacks
      · have closedValue := isMark_equals.closed_cons.mp (closedHead.append.mp (closedEntry closed))
        rw [assigned_of_default rfl]
        exact (nameClosed closedHead).append.mpr (isMark_equals.closed_cons.mpr (closed_trim closedValue))

/-! ### Arguments -/

theorem Legible.assigned_lacks {p : DeclaredParam} (legible : p.Legible) :
    Lacks ',' .initial p.assigned := by
  have name := legible.name_lacks ',' (Or.inl rfl)
  cases isDefault : p.default with
  | none => rwa [assigned_of_none isDefault]
  | some default =>
    rw [assigned_of_default isDefault, lacks_append, legible.name_closed (by rw [isDefault]; rfl)]
    exact ⟨name, lacks_cons_of_ne (by decide) isMark_equals (legible.default_lacks _ isDefault)⟩

theorem Legible.assigned_trimmed {p : DeclaredParam} (legible : p.Legible) :
    trim p.assigned = p.assigned := by
  cases isDefault : p.default with
  | none =>
    rw [assigned_of_none isDefault]
    exact legible.name_trimmed
  | some default =>
    rw [assigned_of_default isDefault]
    exact trim_append_cons (by decide) legible.name_trimmed (legible.default_trimmed _ isDefault)

/-- A parameter without a default has a name that is not taken for a mark between parameters. -/
def IsNamed (p : DeclaredParam) : Prop :=
  p.default = none → p.name ≠ [] ∧ p.name ≠ ['*'] ∧ p.name ≠ ['/']

instance (p : DeclaredParam) : Decidable p.IsNamed :=
  inferInstanceAs (Decidable (p.default = none → p.name ≠ [] ∧ p.name ≠ ['*'] ∧ p.name ≠ ['/']))

theorem isSeparator_assigned {p : DeclaredParam} (named : p.IsNamed) :
    isSeparator p.assigned = false := by
  unfold isSeparator
  cases isDefault : p.default with
  | none =>
    obtain ⟨written, notStar, notSlash⟩ := named isDefault
    simp [assigned_of_none isDefault, written, notStar, notSlash]
  | some default => simp [assigned_of_default isDefault, List.append_eq_cons_iff]

/-- **An argument is read as the parameter that it stands for**, with blanks before it or not. -/
theorem read?_assigned {p : DeclaredParam} (legible : p.Legible) (named : p.IsNamed) (lead : Text)
    (blank : allBlank lead = true) : read? (lead ++ p.assigned) = some p.untyped := by
  have head : cutEntry ':' p.name = (p.name, none) := by
    unfold cutEntry cutTop?
    rw [legible.name_lacks ':' (Or.inr (Or.inr rfl))]
  have whole : cutEntry '=' p.assigned = (p.name, p.default) := by
    have lacks := legible.name_lacks '=' (Or.inr (Or.inl rfl))
    unfold cutEntry cutTop?
    cases isDefault : p.default with
    | none => rw [assigned_of_none isDefault, lacks]
    | some default =>
      have closed := legible.name_closed (by rw [isDefault]; rfl)
      rw [assigned_of_default isDefault,
        (cutTopFrom?_eq_some_iff isMark_equals).mpr ⟨rfl, lacks, closed⟩]
      simp only [legible.default_trimmed _ isDefault]
  unfold read?
  simp only [trim_append_blanks blank, legible.assigned_trimmed, isSeparator_assigned named, whole, head,
    legible.name_trimmed]
  rfl

/-- The arguments of a call, the spaces counted as part of the arguments that they stand before. -/
theorem join_comma_space (first : Text) (rest : List Text) :
    join [',', ' '] (first :: rest) = join [','] (first :: rest.map (' ' :: ·)) := by
  induction rest generalizing first with
  | nil => rfl
  | cons second rest ih =>
    rw [join_cons _ _ (List.cons_ne_nil _ _), ih, List.map_cons, join_cons _ _ (List.cons_ne_nil _ _)]
    cases rest with
    | nil => simp [join]
    | cons third rest =>
      rw [List.map_cons, join_cons _ _ (List.cons_ne_nil _ _), join_cons _ _ (List.cons_ne_nil _ _)]
      simp

/-- **Arguments with commas between them are read as the parameters that they stand for**, when each
of them but the last leaves nothing open. -/
theorem readAll_join {ps : List DeclaredParam} (legible : ∀ p ∈ ps, p.Legible)
    (named : ∀ p ∈ ps, p.IsNamed) (closed : ps.Pairwise fun p _ => Closed p.assigned) :
    readAll (join [',', ' '] (ps.map (·.assigned))) = ps.map (·.untyped) := by
  cases ps with
  | nil => rfl
  | cons first rest =>
    have space : ∀ t : Text, Closed t → Closed (' ' :: t) := fun t =>
      (isMark_of_isBlank (by decide)).closed_cons.mpr
    have parts : AreParts ',' (first.assigned :: (rest.map (·.assigned)).map (' ' :: ·)) := by
      obtain ⟨here, below⟩ := List.pairwise_cons.mp closed
      refine ⟨List.cons_ne_nil _ _, List.pairwise_cons.mpr ⟨?_, ?_⟩, ?_⟩
      · intro part member
        obtain ⟨_, inside, -⟩ := List.mem_map.mp member
        obtain ⟨p, inRest, -⟩ := List.mem_map.mp inside
        exact here p inRest
      · rw [List.pairwise_map, List.pairwise_map]
        exact below.imp fun closed => space _ closed
      · rintro part (- | ⟨_, member⟩)
        · exact (legible first List.mem_cons_self).assigned_lacks
        · obtain ⟨_, inside, rfl⟩ := List.mem_map.mp member
          obtain ⟨p, inRest, rfl⟩ := List.mem_map.mp inside
          exact lacks_cons_of_ne (by decide) (isMark_of_isBlank (by decide))
            (legible p (List.mem_cons_of_mem _ inRest)).assigned_lacks
    have split := (splitTop_eq_iff isMark_comma).mpr ⟨parts, rfl⟩
    have others : ((rest.map (·.assigned)).map (' ' :: ·)).filterMap read? = rest.map (·.untyped) := by
      rw [List.map_map, List.filterMap_map, ← List.filterMap_eq_map]
      refine List.filterMap_congr fun p inRest => ?_
      have inside := List.mem_cons_of_mem first inRest
      exact read?_assigned (legible p inside) (named p inside) [' '] (by decide)
    have here : read? first.assigned = some first.untyped :=
      read?_assigned (legible first List.mem_cons_self) (named first List.mem_cons_self) []
        (by decide)
    unfold readAll
    rw [List.map_cons, join_comma_space, split, List.filterMap_cons_some here, others, List.map_cons]

/-- What a parameter text declares is legible, and only its last parameter may leave something open. -/
theorem legible_readAll (params : Text) :
    (∀ p ∈ readAll params, p.Legible) ∧
      (readAll params).Pairwise fun p _ => Closed p.assigned := by
  obtain ⟨parts, -⟩ := (splitTop_eq_iff (t := params) isMark_comma).mp rfl
  refine ⟨?_, ?_⟩
  · intro p member
    obtain ⟨entry, inside, same⟩ := List.mem_filterMap.mp member
    exact (legible_of_read? same (parts.whole entry inside)).1
  · unfold readAll
    rw [List.pairwise_filterMap]
    refine (List.Pairwise.and_mem.mp parts.closed).imp ?_
    rintro entry other ⟨inside, -, closed⟩ p same _ -
    exact (legible_of_read? same (parts.whole entry inside)).2 closed

end DeclaredParam

/-! ### Calls -/

open DeclaredParam

/-- The parameters that calls show. -/
def shownParams (params : List DeclaredParam) : List DeclaredParam := params.filter (! ·.isReceiver)

theorem map_assigned_of_noDefault {ps : List DeclaredParam} (noDefault : ∀ p ∈ ps, p.default = none) :
    ps.map (·.assigned) = ps.map (·.name) :=
  List.map_congr_left fun p member => assigned_of_none (noDefault p member)

/-- The calls of a function: one that shows the parameters without a default, and one that shows them
all when there are others. -/
theorem callSignatures_eq (className functionName : Text) (style : CallStyle)
    (params : List DeclaredParam) :
    callSignatures className functionName style params =
      callText (style.callee className functionName)
          (((shownParams params).filter (·.default.isNone)).map (·.assigned)) ::
        (if (shownParams params).any (·.default.isSome) then
          [callText (style.callee className functionName) ((shownParams params).map (·.assigned))]
        else []) := by
  rw [map_assigned_of_noDefault fun p member =>
    Option.isNone_iff_eq_none.mp (List.mem_filter.mp member).2]
  rfl

theorem length_callSignatures (className functionName : Text) (style : CallStyle)
    (params : List DeclaredParam) :
    (callSignatures className functionName style params).length =
      if (shownParams params).any (·.default.isSome) then 2 else 1 := by
  rw [callSignatures_eq]
  split <;> rfl

/-- **The last call shows every parameter that is shown.** -/
theorem getLast?_callSignatures (className functionName : Text) (style : CallStyle)
    (params : List DeclaredParam) :
    (callSignatures className functionName style params).getLast? =
      some (callText (style.callee className functionName) ((shownParams params).map (·.assigned))) := by
  rw [callSignatures_eq]
  split
  · rfl
  · rename_i noDefault
    have all : (shownParams params).filter (·.default.isNone) = shownParams params := by
      refine List.filter_eq_self.mpr fun p member => ?_
      by_contra isDefault
      refine noDefault (List.any_eq_true.mpr ⟨p, member, ?_⟩)
      simpa [Option.isSome_iff_ne_none] using isDefault
    rw [all]
    rfl

/-- **Declared parameters survive in calls.** There are two calls exactly when some parameter that is
shown has a default. Between the parentheses of the last call the parameters that are shown are read
back without their types, and between those of the first call the ones without a default. -/
theorem callSignatures_readBack (params className functionName : Text) (style : CallStyle)
    (named : ∀ p ∈ shownParams (readAll params), p.IsNamed) :
    let shown := shownParams (readAll params)
    let calls := callSignatures className functionName style (readAll params)
    let callee := style.callee className functionName
    calls.length = (if shown.any (·.default.isSome) then 2 else 1) ∧
      ∃ first last : Text,
        calls.head? = some (callee ++ '(' :: first ++ [')']) ∧
        calls.getLast? = some (callee ++ '(' :: last ++ [')']) ∧
        readAll last = shown.map (·.untyped) ∧
        readAll first = (shown.filter (·.default.isNone)).map (·.untyped) := by
  intro shown calls callee
  obtain ⟨legible, closed⟩ := legible_readAll params
  have shownLegible : ∀ p ∈ shown, p.Legible := fun p member =>
    legible p (List.mem_of_mem_filter member)
  have shownClosed : shown.Pairwise fun p _ => Closed p.assigned := closed.filter _
  have isCalls : calls = _ := callSignatures_eq className functionName style (readAll params)
  have last : calls.getLast? = _ := getLast?_callSignatures className functionName style (readAll params)
  refine ⟨length_callSignatures className functionName style (readAll params), _, _, ?_, ?_,
    readAll_join shownLegible named shownClosed, readAll_join ?_ ?_ ?_⟩
  · rw [isCalls, callText]
    simp [callee, shown]
  · rw [last, callText]
    simp [callee, shown]
  · exact fun p member => shownLegible p (List.mem_of_mem_filter member)
  · exact fun p member => named p (List.mem_of_mem_filter member)
  · exact shownClosed.filter _

/-- Parameters with types, nested defaults, a separator, and a literal that the last one leaves open. -/
def openEndedParams : Text := "self, m: Dict[str, int] = \x7b\"a\": [1, 2]\x7d, *, key: str, sep=\", ".toList

theorem callSignatures_readBack_sample :
    (∀ p ∈ shownParams (readAll openEndedParams), p.IsNamed) ∧
      ∃ first last : Text,
        (callSignatures "A".toList "f".toList .onObject (readAll openEndedParams)).head? =
          some ("self.f".toList ++ '(' :: first ++ [')']) ∧
        (callSignatures "A".toList "f".toList .onObject (readAll openEndedParams)).getLast? =
          some ("self.f".toList ++ '(' :: last ++ [')']) ∧
        readAll last = [⟨"m".toList, [], some "\x7b\"a\": [1, 2]\x7d".toList⟩,
          ⟨"key".toList, [], none⟩, ⟨"sep".toList, [], some "\",".toList⟩] ∧
        readAll first = [⟨"key".toList, [], none⟩] := by
  have named : ∀ p ∈ shownParams (readAll openEndedParams), p.IsNamed := by decide +kernel
  obtain ⟨-, first, last, isFirst, isLast, long, short⟩ :=
    callSignatures_readBack openEndedParams "A".toList "f".toList .onObject named
  refine ⟨named, first, last, isFirst, isLast, ?_, ?_⟩
  · rw [long]
    decide +kernel
  · rw [short]
    decide +kernel

/-! ### Receivers -/

/-- The parameters without the receiver: without the first one, when it has the name of a receiver. -/
def withoutReceiver : List DeclaredParam → List DeclaredParam
  | [] => []
  | first :: rest => if first.isReceiver then rest else first :: rest

theorem shownParams_withoutReceiver (params : List DeclaredParam) :
    shownParams (withoutReceiver params) = shownParams params := by
  cases params with
  | nil => rfl
  | cons first rest =>
    rw [withoutReceiver]
    split
    · rename_i isReceiver
      rw [shownParams, shownParams, List.filter_cons_of_neg (by simp [isReceiver])]
    · rfl

/-- The receiver alone has the name of a receiver when no later parameter has one. -/
theorem forall_mem_withoutReceiver {params : List DeclaredParam} :
    (∀ p ∈ withoutReceiver params, p.isReceiver = false) ↔ ∀ p ∈ params.tail, p.isReceiver = false := by
  cases params with
  | nil => rfl
  | cons first rest =>
    rw [withoutReceiver, List.tail_cons]
    split
    · rfl
    · rename_i notReceiver
      rw [List.forall_mem_cons, Bool.not_eq_true] at *
      exact and_iff_right notReceiver

/-- Fewer parts make a text that is not longer. -/
theorem length_join_le (mark : Text) {fewer parts : List Text} (sublist : fewer.Sublist parts) :
    (join mark fewer).length ≤ (join mark parts).length := by
  induction sublist with
  | slnil => exact le_rfl
  | @cons fewer parts part inside ih =>
    by_cases alone : parts = []
    · rw [alone] at inside
      rw [List.eq_nil_of_sublist_nil inside]
      exact Nat.zero_le _
    · rw [join_cons _ _ alone, List.length_append]
      omega
  | @cons_cons fewer parts part inside ih =>
    by_cases alone : fewer = []
    · subst alone
      by_cases alone' : parts = []
      · rw [alone']
      · rw [join_cons _ _ alone', join, List.intercalate_singleton]
        simp only [List.length_append]
        omega
    · have more : parts ≠ [] := by
        rintro rfl
        exact alone (List.eq_nil_of_sublist_nil inside)
      rw [join_cons _ _ alone, join_cons _ _ more]
      simp only [List.length_append]
      omega

/-- A part that is not empty makes the joined text longer. -/
theorem length_join_lt (mark : Text) {part : Text} (written : part ≠ []) (before after : List Text) :
    (join mark (before ++ after)).length < (join mark (before ++ part :: after)).length := by
  have positive := List.length_pos_iff.mpr written
  induction before with
  | nil =>
    by_cases alone : after = []
    · subst alone
      simpa [join] using positive
    · rw [List.nil_append, List.nil_append, join_cons _ _ alone]
      simp only [List.length_append]
      omega
  | cons first before ih =>
    have more : before ++ part :: after ≠ [] := by simp
    rw [List.cons_append, List.cons_append, join_cons _ _ more]
    by_cases alone : before ++ after = []
    · rw [alone, join, List.intercalate_singleton]
      rw [alone] at ih
      simp only [List.length_append]
      omega
    · rw [join_cons _ _ alone]
      simp only [List.length_append]
      omega

/-- What is left out makes the joined text shorter. -/
theorem length_join_filter_lt {α : Type} (mark : Text) (shown : α → Text) (keeps : α → Bool)
    {items : List α} {item : α} (member : item ∈ items) (dropped : keeps item = false)
    (written : shown item ≠ []) :
    (join mark ((items.filter keeps).map shown)).length < (join mark (items.map shown)).length := by
  obtain ⟨before, after, rfl⟩ := List.append_of_mem member
  have same : (before ++ item :: after).filter keeps = (before ++ after).filter keeps := by
    rw [List.filter_append, List.filter_cons_of_neg (by simp [dropped]), List.filter_append]
  have fewer : (((before ++ after).filter keeps).map shown).Sublist ((before ++ after).map shown) :=
    List.filter_sublist.map shown
  calc
    (join mark (((before ++ item :: after).filter keeps).map shown)).length
    _ = (join mark (((before ++ after).filter keeps).map shown)).length := by rw [same]
    _ ≤ (join mark (before.map shown ++ after.map shown)).length := by
      rw [← List.map_append]
      exact length_join_le mark fewer
    _ < (join mark ((before ++ item :: after).map shown)).length := by
      rw [List.map_append, List.map_cons]
      exact length_join_lt mark written _ _

theorem receiver_ne_nil {p : DeclaredParam} (isReceiver : p.isReceiver = true) : p.assigned ≠ [] := by
  have written : p.name ≠ [] := by
    intro empty
    rw [DeclaredParam.isReceiver, empty] at isReceiver
    exact absurd isReceiver (by decide)
  cases isDefault : p.default with
  | none => rwa [assigned_of_none isDefault]
  | some default =>
    rw [assigned_of_default isDefault]
    exact List.append_ne_nil_of_left_ne_nil written _

/-- **Which parameters the last call shows**: those whose name is not a receiver's, in order. It leaves
out the receiver alone exactly when no later parameter has the name of a receiver. -/
theorem last_callSignature_iff (params className functionName : Text) (style : CallStyle) :
    let declared := readAll params
    let last := (callSignatures className functionName style declared).getLast?
    let callee := style.callee className functionName
    last = some (callText callee ((declared.filter (! ·.isReceiver)).map (·.assigned))) ∧
      (last = some (callText callee ((withoutReceiver declared).map (·.assigned))) ↔
        ∀ p ∈ declared.tail, p.isReceiver = false) := by
  intro declared last callee
  have isLast : last = some (callText callee ((shownParams declared).map (·.assigned))) :=
    getLast?_callSignatures className functionName style declared
  refine ⟨isLast, ?_⟩
  rw [isLast, ← forall_mem_withoutReceiver, ← shownParams_withoutReceiver, Option.some.injEq]
  constructor
  · intro same p member
    by_contra isReceiver
    rw [Bool.not_eq_false] at isReceiver
    have shorter := length_join_filter_lt [',', ' '] (fun p : DeclaredParam => p.assigned)
      (! ·.isReceiver) member (by simp [isReceiver]) (receiver_ne_nil isReceiver)
    have lengths := congrArg List.length same
    simp only [callText, List.length_append, shownParams] at lengths
    omega
  · intro noReceiver
    rw [shownParams, List.filter_eq_self.mpr fun p member => by simp [noReceiver p member]]

/-- A later parameter with the name of a receiver is left out of the calls, and so is its default. -/
theorem later_receiver_left_out :
    callSignatures "A".toList "register".toList .onObject (readAll "self, cls, key".toList) =
        ["self.register(key)".toList] ∧
      callText "self.register".toList
          ((withoutReceiver (readAll "self, cls, key".toList)).map (·.assigned)) =
        "self.register(cls, key)".toList ∧
      callSignatures "A".toList "f".toList .onObject (readAll "self, cls=None".toList) =
        ["self.f()".toList] := by
  decide +kernel

end ReferencePages
