/-
**A value is read from the tokens that spell it.**

The reader keeps the containers under way on a stack and settles an object when it is closed: a
repeated key keeps its first place and takes its last value. So a text is read as what its tokens
spell, pair by pair, with every object settled:

* `spelling`: the tokens of a value, whose objects may repeat a key;
* `settled`: the value with every object settled;
* `keys_ofPairs`, `get?_ofPairs`: **a repeated key keeps its first place and takes its last value**;
* `Took`, `took_step`, `took_steps`: the tokens that the reader has taken, one token more, and a run
  of them;
* `spelling_of_read?`: **a value that is read is settled from what the tokens of the text spell**.
-/

import Mathlib.Data.List.Induction
import Mathlib.Data.List.Nodup
import ReferencePages.Json.Reader

namespace ReferencePages.Json

/-! ### Settled objects -/

namespace Members

theorem keys_put (key : Text) (value : Json) (members : Members) :
    (members.put key value).map (·.1) =
      if key ∈ members.map (·.1) then members.map (·.1) else members.map (·.1) ++ [key] := by
  induction members with
  | nil => rfl
  | cons member rest ih =>
    obtain ⟨other, old⟩ := member
    rw [put]
    by_cases same : other = key
    · simp [same]
    · simp only [same, if_false, List.map_cons, List.mem_cons, Ne.symm same, false_or, ih]
      split <;> rfl

theorem get?_put (key : Text) (value : Json) (members : Members) (wanted : Text) :
    (members.put key value).get? wanted =
      if wanted = key then some value else members.get? wanted := by
  unfold get?
  induction members with
  | nil =>
    rw [put]
    by_cases hit : wanted = key
    · rw [if_pos hit, hit, List.lookup_cons_self]
    · rw [if_neg hit, List.lookup_cons, beq_false_of_ne hit]
  | cons member rest ih =>
    obtain ⟨other, old⟩ := member
    rw [put]
    by_cases same : other = key
    · rw [if_pos same, same]
      by_cases hit : wanted = key
      · rw [if_pos hit, hit, List.lookup_cons_self]
      · rw [if_neg hit, List.lookup_cons, List.lookup_cons, beq_false_of_ne hit]
    · rw [if_neg same]
      by_cases hit : wanted = other
      · rw [hit, List.lookup_cons_self, if_neg same, List.lookup_cons_self]
      · rw [List.lookup_cons, List.lookup_cons, beq_false_of_ne hit]
        exact ih

theorem ofPairs_concat (pairs : List (Text × Json)) (key : Text) (value : Json) :
    ofPairs (pairs ++ [(key, value)]) = (ofPairs pairs).put key value := by
  unfold ofPairs
  rw [List.foldl_append]
  rfl

/-- **A repeated key keeps its first place.** -/
theorem keys_ofPairs (pairs : List (Text × Json)) :
    (ofPairs pairs).map (·.1) = (pairs.map (·.1)).eraseDups := by
  induction pairs using List.reverseRecOn with
  | nil => rfl
  | append_singleton pairs pair ih =>
    obtain ⟨key, value⟩ := pair
    rw [ofPairs_concat, keys_put, ih, List.map_append, List.eraseDups_append]
    by_cases known : key ∈ pairs.map (·.1)
    · simp [List.mem_eraseDups, known, List.removeAll]
    · simp [List.mem_eraseDups, known, List.removeAll, List.eraseDups_cons]

theorem nodup_keys_ofPairs (pairs : List (Text × Json)) : ((ofPairs pairs).map (·.1)).Nodup := by
  induction pairs using List.reverseRecOn with
  | nil => exact List.nodup_nil
  | append_singleton pairs pair ih =>
    obtain ⟨key, value⟩ := pair
    rw [ofPairs_concat, keys_put]
    split
    · exact ih
    · rename_i fresh
      rw [← List.concat_eq_append]
      exact ih.concat fresh

/-- **A repeated key takes its last value.** -/
theorem get?_ofPairs (pairs : List (Text × Json)) (key : Text) :
    (ofPairs pairs).get? key = pairs.reverse.lookup key := by
  induction pairs using List.reverseRecOn with
  | nil => rfl
  | append_singleton pairs pair ih =>
    obtain ⟨other, value⟩ := pair
    rw [ofPairs_concat, get?_put, ih, List.reverse_concat]
    by_cases hit : key = other
    · rw [if_pos hit, hit, List.lookup_cons_self]
    · rw [if_neg hit, List.lookup_cons, beq_false_of_ne hit]

end Members

mutual

/-- The value with every object settled. -/
def settled : Json → Json
  | .null => .null
  | .bool value => .bool value
  | .number literal => .number literal
  | .text value => .text value
  | .array items => .array (settledItems items)
  | .object pairs => .object (Members.ofPairs (settledPairs pairs))

/-- The items of an array, with every object in them settled. -/
def settledItems : List Json → List Json
  | [] => []
  | item :: rest => item.settled :: settledItems rest

/-- The pairs of an object, with every object in them settled. -/
def settledPairs : List (Text × Json) → List (Text × Json)
  | [] => []
  | (key, value) :: rest => (key, value.settled) :: settledPairs rest

end

theorem settledItems_eq (items : List Json) : settledItems items = items.map settled := by
  induction items with
  | nil => rfl
  | cons item rest ih => rw [settledItems, ih, List.map_cons]

theorem settledPairs_eq (pairs : List (Text × Json)) :
    settledPairs pairs = pairs.map fun pair => (pair.1, pair.2.settled) := by
  induction pairs with
  | nil => rfl
  | cons pair rest ih => rw [settledPairs, ih, List.map_cons]

/-- The members of a settled object, by the pairs it is settled from. -/
def settledMembers (pairs : List (Text × Json)) : Members := Members.ofPairs (settledPairs pairs)

theorem settled_eq_object {spelt : Json} {members : Members}
    (same : spelt.settled = .object members) :
    ∃ pairs, spelt = .object pairs ∧ members = settledMembers pairs := by
  cases spelt with
  | object pairs =>
    cases same
    exact ⟨pairs, rfl, rfl⟩
  | _ => cases same

theorem settled_eq_array {spelt : Json} {items : List Json} (same : spelt.settled = .array items) :
    ∃ spelled, spelt = .array spelled ∧ items = spelled.map settled := by
  cases spelt with
  | array spelled =>
    cases same
    exact ⟨spelled, rfl, settledItems_eq spelled⟩
  | _ => cases same

theorem settled_eq_text {spelt : Json} {value : Text} (same : spelt.settled = .text value) :
    spelt = .text value := by
  cases spelt with
  | text spelled =>
    cases same
    rfl
  | _ => cases same

theorem keys_settledMembers (pairs : List (Text × Json)) :
    (settledMembers pairs).map (·.1) = (pairs.map (·.1)).eraseDups := by
  rw [settledMembers, Members.keys_ofPairs, settledPairs_eq, List.map_map]
  rfl

theorem get?_settledMembers (pairs : List (Text × Json)) (key : Text) :
    (settledMembers pairs).get? key = (pairs.reverse.lookup key).map settled := by
  rw [settledMembers, Members.get?_ofPairs, settledPairs_eq, ← List.map_reverse]
  induction pairs.reverse with
  | nil => rfl
  | cons pair rest ih =>
    rw [List.map_cons, List.lookup_cons, List.lookup_cons, ih]
    cases key == pair.1 <;> rfl

/-! ### Spellings -/

mutual

/-- The tokens that spell a value. -/
def spelling : Json → List Token
  | .null => [.nullWord]
  | .bool true => [.trueWord]
  | .bool false => [.falseWord]
  | .number literal => [.number literal]
  | .text value => [.text value]
  | .array items => .openArray :: ([Token.comma].intercalate (spellItems items) ++ [.closeArray])
  | .object pairs => .openObject :: ([Token.comma].intercalate (spellPairs pairs) ++ [.closeObject])

/-- The tokens of each item of an array. -/
def spellItems : List Json → List (List Token)
  | [] => []
  | item :: rest => item.spelling :: spellItems rest

/-- The tokens of each pair of an object. -/
def spellPairs : List (Text × Json) → List (List Token)
  | [] => []
  | (key, value) :: rest => (.text key :: .colon :: value.spelling) :: spellPairs rest

end

/-- The tokens of a pair of an object. -/
def spellPair (pair : Text × Json) : List Token := .text pair.1 :: .colon :: pair.2.spelling

theorem spellItems_eq (items : List Json) : spellItems items = items.map spelling := by
  induction items with
  | nil => rfl
  | cons item rest ih => rw [spellItems, ih, List.map_cons]

theorem spellPairs_eq (pairs : List (Text × Json)) : spellPairs pairs = pairs.map spellPair := by
  induction pairs with
  | nil => rfl
  | cons pair rest ih => rw [spellPairs, ih, List.map_cons, spellPair]

/-- Parts of a container, a comma behind each. -/
def listed (parts : List (List Token)) : List Token := parts.flatMap (· ++ [.comma])

theorem intercalate_concat (parts : List (List Token)) (last : List Token) :
    [Token.comma].intercalate (parts ++ [last]) = listed parts ++ last := by
  unfold listed
  induction parts with
  | nil => simp
  | cons part rest ih =>
    rw [List.cons_append, List.intercalate_cons_of_ne_nil (by simp), ih, List.flatMap_cons]
    simp

/-! ### The reader -/

/-- A container under way, settled as far as it has been read. -/
def Frame.settled : Frame → Frame
  | .array read => .array (read.map Json.settled)
  | .object read key => .object (read.map fun pair => (pair.1, pair.2.settled)) key

/-- The tokens of an array under way, up to the place of its next item. -/
def arrayOpening (read : List Json) : List Token :=
  .openArray :: listed (read.reverse.map spelling)

/-- The tokens of an object under way, up to the place of its next key. -/
def objectOpening (read : List (Text × Json)) : List Token :=
  .openObject :: listed (read.reverse.map spellPair)

/-- The tokens of a container under way, up to the place of its next value. -/
def Frame.opening : Frame → List Token
  | .array read => arrayOpening read
  | .object read key => objectOpening read ++ [.text key, .colon]

/-- The tokens of the containers under way, the outermost first. -/
def opened : List Frame → List Token
  | [] => []
  | frame :: outer => opened outer ++ frame.opening

theorem listed_concat (parts : List (List Token)) (last : List Token) :
    listed (parts ++ [last]) = listed parts ++ last ++ [.comma] := by
  rw [listed, List.flatMap_append, ← listed, List.flatMap_singleton, List.append_assoc]

/-- A comma behind an item of an array opens the place of the next. -/
theorem opened_item (read : List Json) (value : Json) (outer : List Frame) :
    opened (.array read :: outer) ++ value.spelling ++ [.comma] =
      opened (.array (value :: read) :: outer) := by
  simp [opened, Frame.opening, arrayOpening, listed_concat]

/-- A comma behind a pair of an object opens the place of the next key. -/
theorem opened_pair (read : List (Text × Json)) (key : Text) (value : Json) (outer : List Frame) :
    opened (.object read key :: outer) ++ value.spelling ++ [.comma] =
      opened outer ++ objectOpening ((key, value) :: read) := by
  simp [opened, Frame.opening, objectOpening, listed_concat, spellPair]

/-- The tokens that the reader has taken, by the containers under way, not yet settled, and by what it
awaits. -/
inductive Spells : List Frame → Await → List Token → Prop
  | value (stack : List Frame) : Spells stack .value (opened stack)
  | firstItem (outer : List Frame) :
    Spells (.array [] :: outer) .firstItem (opened (.array [] :: outer))
  | firstKey (outer : List Frame) :
    Spells (.object [] [] :: outer) .firstKey (opened outer ++ objectOpening [])
  | key (read : List (Text × Json)) (key : Text) (outer : List Frame) :
    Spells (.object read key :: outer) .key (opened outer ++ objectOpening read)
  | colon (read : List (Text × Json)) (key : Text) (outer : List Frame) :
    Spells (.object read key :: outer) .colon (opened outer ++ objectOpening read ++ [.text key])
  | moreItems (read : List Json) (value : Json) (outer : List Frame) :
    Spells (.array (value :: read) :: outer) .more (opened (.array read :: outer) ++ value.spelling)
  | morePairs (read : List (Text × Json)) (key : Text) (value : Json) (outer : List Frame) :
    Spells (.object ((key, value) :: read) [] :: outer) .more
      (opened (.object read key :: outer) ++ value.spelling)
  | nothing (value : Json) : Spells [] (.nothing value.settled) value.spelling

/-- The reader has taken the tokens. -/
def Took (reading : Reading) (tokens : List Token) : Prop :=
  ∃ stack, reading.stack = stack.map Frame.settled ∧ Spells stack reading.await tokens

/-- A finished value takes its place behind what has been opened. -/
theorem took_place (value : Json) (stack : List Frame) :
    Took (Reading.place value.settled (stack.map Frame.settled))
      (opened stack ++ value.spelling) := by
  cases stack with
  | nil => exact ⟨[], rfl, .nothing value⟩
  | cons frame outer =>
    cases frame with
    | array read => exact ⟨.array (value :: read) :: outer, rfl, .moreItems read value outer⟩
    | object read key =>
      exact ⟨.object ((key, value) :: read) [] :: outer, rfl, .morePairs read key value outer⟩

/-- A container is opened behind what has been opened. -/
theorem took_enter {frame : Frame} {await : Await} {stack : List Frame} {tokens : List Token}
    {next : Reading} (spells : Spells (frame :: stack) await tokens)
    (enters : Reading.enter frame.settled await (stack.map Frame.settled) = some next) :
    Took next tokens := by
  unfold Reading.enter at enters
  split at enters
  · cases enters
    exact ⟨frame :: stack, rfl, spells⟩
  · cases enters

/-- A token where a value is awaited. -/
theorem took_stepValue (stack : List Frame) {token : Token} {next : Reading}
    (steps : Reading.stepValue (stack.map Frame.settled) token = some next) :
    Took next (opened stack ++ [token]) := by
  cases token with
  | nullWord =>
    cases steps
    exact took_place .null stack
  | trueWord =>
    cases steps
    exact took_place (.bool true) stack
  | falseWord =>
    cases steps
    exact took_place (.bool false) stack
  | text value =>
    cases steps
    exact took_place (.text value) stack
  | number literal =>
    cases steps
    exact took_place (.number literal) stack
  | openArray => exact took_enter (.firstItem stack) steps
  | openObject => exact took_enter (.firstKey stack) steps
  | closeArray => cases steps
  | closeObject => cases steps
  | comma => cases steps
  | colon => cases steps

/-- A token where a key is awaited. -/
theorem took_stepKey (read : List (Text × Json)) (key : Text) (outer : List Frame) {token : Token}
    {next : Reading}
    (steps : Reading.stepKey ((Frame.object read key :: outer).map Frame.settled) token = some next) :
    Took next (opened outer ++ objectOpening read ++ [token]) := by
  cases token with
  | text key =>
    cases steps
    exact ⟨.object read key :: outer, rfl, .colon read key outer⟩
  | _ => cases steps

/-- An array is closed. -/
theorem took_closeArray (read : List Json) (outer : List Frame) :
    Took (Reading.place (.array (read.map settled).reverse) (outer.map Frame.settled))
      (opened outer ++ .openArray :: [Token.comma].intercalate (read.reverse.map spelling) ++
        [.closeArray]) := by
  have took := took_place (.array read.reverse) outer
  rw [settled, settledItems_eq, List.map_reverse, spelling, spellItems_eq] at took
  rwa [List.append_assoc, List.cons_append]

/-- An object is closed, and settled. -/
theorem took_closeObject (read : List (Text × Json)) (outer : List Frame) :
    Took (Reading.place
        (.object (Members.ofPairs (read.map fun pair => (pair.1, pair.2.settled)).reverse))
        (outer.map Frame.settled))
      (opened outer ++ .openObject :: [Token.comma].intercalate (read.reverse.map spellPair) ++
        [.closeObject]) := by
  have took := took_place (.object read.reverse) outer
  rw [settled, settledPairs_eq, List.map_reverse, spelling, spellPairs_eq] at took
  rwa [List.append_assoc, List.cons_append]

/-- **One token more.** -/
theorem took_step {reading next : Reading} {tokens : List Token} {token : Token}
    (took : Took reading tokens) (steps : reading.step token = some next) :
    Took next (tokens ++ [token]) := by
  obtain ⟨stack, isStack, spells⟩ := took
  obtain ⟨stack', await⟩ := reading
  simp only at isStack spells
  subst isStack
  cases spells with
  | value => exact took_stepValue stack steps
  | firstItem outer =>
    cases token
    case closeArray =>
      cases steps
      exact took_closeArray [] outer
    all_goals exact took_stepValue (.array [] :: outer) steps
  | firstKey outer =>
    cases token
    case closeObject =>
      cases steps
      exact took_closeObject [] outer
    all_goals exact took_stepKey [] [] outer steps
  | key read key outer => exact took_stepKey read key outer steps
  | colon read key outer =>
    cases token with
    | colon =>
      cases steps
      refine ⟨.object read key :: outer, rfl, ?_⟩
      have spells := Spells.value (.object read key :: outer)
      rw [opened, Frame.opening] at spells
      simpa using spells
    | _ => cases steps
  | moreItems read value outer =>
    cases token
    case comma =>
      cases steps
      rw [opened_item]
      exact ⟨.array (value :: read) :: outer, rfl, .value _⟩
    case closeArray =>
      cases steps
      have took := took_closeArray (value :: read) outer
      rw [List.reverse_cons, List.map_append, List.map_singleton, intercalate_concat] at took
      rw [opened, Frame.opening, arrayOpening, List.append_assoc (opened outer), List.cons_append]
      exact took
    all_goals cases steps
  | morePairs read key value outer =>
    cases token
    case comma =>
      cases steps
      rw [opened_pair]
      exact ⟨.object ((key, value) :: read) [] :: outer, rfl, .key _ _ _⟩
    case closeObject =>
      cases steps
      have took := took_closeObject ((key, value) :: read) outer
      rw [List.reverse_cons, List.map_append, List.map_singleton, intercalate_concat] at took
      rw [opened, Frame.opening, objectOpening, List.append_assoc (opened outer),
        List.append_assoc (_ :: _), List.cons_append]
      exact took
    all_goals cases steps
  | nothing value => cases steps

/-- **A run of tokens.** -/
theorem took_steps {reading next : Reading} {taken : List Token} (tokens : List Token)
    (took : Took reading taken) (steps : tokens.foldlM Reading.step reading = some next) :
    Took next (taken ++ tokens) := by
  induction tokens generalizing reading taken with
  | nil =>
    cases steps
    rwa [List.append_nil]
  | cons token rest ih =>
    rw [List.foldlM_cons] at steps
    obtain ⟨middle, first, others⟩ := Option.bind_eq_some_iff.mp steps
    rw [List.append_cons]
    exact ih (took_step took first) others

/-- **A value that is read is settled from what the tokens of the text spell.** -/
theorem spelling_of_read? {t : Text} {value : Json} (reads : read? t = some value) :
    ∃ spelt : Json, Token.scan? t = some spelt.spelling ∧ value = spelt.settled := by
  obtain ⟨tokens, scans, rest⟩ := Option.bind_eq_some_iff.mp reads
  obtain ⟨⟨stack, await⟩, steps, result⟩ := Option.bind_eq_some_iff.mp rest
  have start : Took ⟨[], .value⟩ [] := ⟨[], rfl, .value []⟩
  obtain ⟨frames, isStack, spells⟩ := took_steps tokens start steps
  cases spells with
  | nothing spelt =>
    cases result
    exact ⟨spelt, scans, rfl⟩
  | _ => cases result

end ReferencePages.Json
