/-
**Reading JSON.**

`Json.read?` reads a text that holds one value and nothing else. The tokens drive a machine that
keeps the containers under way on a stack, so that the depth of a value is the height of the stack;
at most `maxDepth` containers may be nested.
-/

import ReferencePages.Json.Token
import ReferencePages.Json.Value

namespace ReferencePages.Json

/-- How many arrays and objects may be nested. -/
def maxDepth : Nat := 127

/-- A container under way, its parts last first. -/
inductive Frame where
  | array (read : List Json)
  /-- An object, with the key that the next value belongs to. -/
  | object (read : List (Text × Json)) (key : Text)

/-- What the next token has to be. -/
inductive Await where
  | value
  /-- A value, or the end of an array that is still empty. -/
  | firstItem
  /-- A key, or the end of an object that is still empty. -/
  | firstKey
  | key
  | colon
  /-- A comma, or the end of the innermost container. -/
  | more
  /-- Nothing: the value is complete. -/
  | nothing (result : Json)

/-- The state of the machine, the innermost container first. -/
structure Reading where
  stack : List Frame
  await : Await

namespace Reading

/-- A finished value takes its place in the innermost container. -/
def place (value : Json) : List Frame → Reading
  | [] => ⟨[], .nothing value⟩
  | .array read :: outer => ⟨.array (value :: read) :: outer, .more⟩
  | .object read key :: outer => ⟨.object ((key, value) :: read) [] :: outer, .more⟩

/-- A container is opened. -/
def enter (frame : Frame) (await : Await) (stack : List Frame) : Option Reading :=
  if stack.length < maxDepth then some ⟨frame :: stack, await⟩ else none

/-- A token where a value is awaited. -/
def stepValue (stack : List Frame) : Token → Option Reading
  | .nullWord => some (place .null stack)
  | .trueWord => some (place (.bool true) stack)
  | .falseWord => some (place (.bool false) stack)
  | .text value => some (place (.text value) stack)
  | .number literal => some (place (.number literal) stack)
  | .openArray => enter (.array []) .firstItem stack
  | .openObject => enter (.object [] []) .firstKey stack
  | _ => none

/-- The innermost container is closed by its own mark. -/
def close : List Frame → Token → Option Reading
  | .array read :: outer, .closeArray => some (place (.array read.reverse) outer)
  | .object read _ :: outer, .closeObject =>
    some (place (.object (Members.ofPairs read.reverse)) outer)
  | _, _ => none

/-- A token where a key is awaited. -/
def stepKey : List Frame → Token → Option Reading
  | .object read _ :: outer, .text key => some ⟨.object read key :: outer, .colon⟩
  | _, _ => none

/-- What follows a comma. -/
def stepComma : List Frame → Option Reading
  | .array read :: outer => some ⟨.array read :: outer, .value⟩
  | .object read key :: outer => some ⟨.object read key :: outer, .key⟩
  | [] => none

/-- The state after one more token. -/
def step (reading : Reading) (token : Token) : Option Reading :=
  match reading.await, token with
  | .value, token => stepValue reading.stack token
  | .firstItem, .closeArray => close reading.stack .closeArray
  | .firstItem, token => stepValue reading.stack token
  | .firstKey, .closeObject => close reading.stack .closeObject
  | .firstKey, token => stepKey reading.stack token
  | .key, token => stepKey reading.stack token
  | .colon, .colon => some ⟨reading.stack, .value⟩
  | .colon, _ => none
  | .more, .comma => stepComma reading.stack
  | .more, token => close reading.stack token
  | .nothing _, _ => none

/-- The value that has been read, once it is complete. -/
def result? (reading : Reading) : Option Json :=
  match reading.await with
  | .nothing result => some result
  | _ => none

end Reading

/-- The value that the text spells. -/
def read? (t : Text) : Option Json := do
  let tokens ← Token.scan? t
  let reading ← tokens.foldlM Reading.step ⟨[], .value⟩
  reading.result?

end ReferencePages.Json
