/-
**JSON values.**

Objects keep the order of their members. A repeated key keeps its first place and takes its last
value (`Members.put`). A number is kept as it was written: this library passes numbers on and never
computes with them.
-/

import ReferencePages.Text.Basic

namespace ReferencePages

/-- A JSON value. -/
inductive Json where
  | null
  | bool (value : Bool)
  | number (literal : Text)
  | text (value : Text)
  | array (items : List Json)
  | object (members : List (Text × Json))

namespace Json

/-- The members of an object, in order. -/
abbrev Members := List (Text × Json)

/-- The members with `key` set to `value`: in place when the key is there, at the end otherwise. -/
def Members.put (key : Text) (value : Json) : Members → Members
  | [] => [(key, value)]
  | (other, old) :: rest =>
    if other = key then (key, value) :: rest else (other, old) :: Members.put key value rest

/-- The members that result from writing the pairs one after the other. -/
def Members.ofPairs (pairs : List (Text × Json)) : Members :=
  pairs.foldl (fun members (key, value) => members.put key value) []

/-- The value under `key`. -/
def Members.get? (members : Members) (key : Text) : Option Json := members.lookup key

/-- The texts of a list of values that are all texts. -/
def texts? (items : List Json) : Option (List Text) :=
  items.mapM fun
    | .text value => some value
    | _ => none

/-- The number `n`. -/
def ofNat (n : Nat) : Json := .number (Text.ofNat n)

end Json

end ReferencePages
