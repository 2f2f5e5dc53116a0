/-
**Writing JSON.**

Values are laid out over several lines, two spaces deeper for each container; empty containers stay
on one line. Characters outside ASCII are written as they are, and of the others only quotes,
backslashes and control characters are escaped.
-/

import ReferencePages.Json.Value

namespace ReferencePages.Json

/-- The hexadecimal digits of a control character. -/
def controlDigits (n : Nat) : Text := [Nat.digitChar (n / 16), Nat.digitChar (n % 16)]

/-- A character inside a quoted text. -/
def quotedChar (c : Char) : Text :=
  match c with
  | '"' => ['\\', '"']
  | '\\' => ['\\', '\\']
  | '\x08' => ['\\', 'b']
  | '\x0c' => ['\\', 'f']
  | '\n' => ['\\', 'n']
  | '\r' => ['\\', 'r']
  | '\t' => ['\\', 't']
  | c => if c.toNat < 0x20 then "\\u00".toList ++ controlDigits c.toNat else [c]

/-- A text in quotes. -/
def quoted (t : Text) : Text := ['"'] ++ t.flatMap quotedChar ++ ['"']

/-- A new line at the given depth. -/
def newLine (depth : Nat) : Text := '\n' :: List.replicate (2 * depth) ' '

/-- The parts of a container between its marks, each on a line of its own. -/
def layOut (opening closing : Char) (depth : Nat) (parts : List Text) : Text :=
  if parts.isEmpty then [opening, closing]
  else
    [opening] ++ newLine (depth + 1) ++ Text.join (',' :: newLine (depth + 1)) parts ++
      newLine depth ++ [closing]

mutual

/-- A value as it stands at the given depth. -/
def printAt (depth : Nat) : Json → Text
  | .null => "null".toList
  | .bool true => "true".toList
  | .bool false => "false".toList
  | .number literal => literal
  | .text value => quoted value
  | .array items => layOut '[' ']' depth (printItems (depth + 1) items)
  | .object members => layOut '\x7b' '\x7d' depth (printMembers (depth + 1) members)

/-- The items of an array. -/
def printItems (depth : Nat) : List Json → List Text
  | [] => []
  | item :: rest => printAt depth item :: printItems depth rest

/-- The members of an object. -/
def printMembers (depth : Nat) : List (Text × Json) → List Text
  | [] => []
  | (key, value) :: rest =>
    (quoted key ++ [':', ' '] ++ printAt depth value) :: printMembers depth rest

end

/-- The value as a text of its own. -/
def print (value : Json) : Text := printAt 0 value

end ReferencePages.Json
