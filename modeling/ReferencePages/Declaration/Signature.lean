/-
**The parameter text of a declaration.**

The text between the outer parentheses of a function header may run over several lines. `Reading`
follows it one character at a time: brackets nest, string literals hold anything and a backslash in
them escapes the next character of the same line, a `#` outside literals hides the rest of its line.
After the closing parenthesis the header goes on to the first colon.

`readSignature` gives the parameter text with its words one space apart, and the line after the
header.
-/

import ReferencePages.Declaration.Comment
import ReferencePages.Source.Error
import ReferencePages.Text.Blank

namespace ReferencePages.Declaration

/-- A character that opens a bracket. -/
def isOpening (c : Char) : Bool := c == '(' || c == '[' || c == '\x7b'

/-- A character that closes a bracket. -/
def isClosing (c : Char) : Bool := c == ')' || c == ']' || c == '\x7d'

/-- Where in a header the reading is. `inner` counts the brackets open inside the outer
parentheses. -/
inductive Reading where
  /-- Between the parentheses, outside literals. -/
  | params (inner : Nat)
  /-- In a literal opened with `quote`. -/
  | literal (inner : Nat) (quote : Char)
  /-- In a literal, right after a backslash. -/
  | escaped (inner : Nat) (quote : Char)
  /-- In a comment between the parentheses. -/
  | comment (inner : Nat)
  /-- After the closing parenthesis. -/
  | past
  /-- In a comment after the closing parenthesis. -/
  | pastComment
  /-- After the colon that ends the header. -/
  | ended
  deriving DecidableEq

namespace Reading

/-- The reading after one more character. -/
def step : Reading → Char → Reading
  | params inner, c =>
    if isQuote c then literal inner c
    else if isOpening c then params (inner + 1)
    else if isClosing c then
      match inner with
      | 0 => past
      | fewer + 1 => params fewer
    else if c == '#' then comment inner
    else params inner
  | literal inner quote, c =>
    if c == '\\' then escaped inner quote
    else if c == quote then params inner
    else literal inner quote
  | escaped inner quote, _ => literal inner quote
  | comment inner, _ => comment inner
  | past, c => if c == ':' then ended else if c == '#' then pastComment else past
  | pastComment, _ => pastComment
  | ended, _ => ended

/-- The character belongs to the parameter text. -/
def keeps : Reading → Char → Bool
  | params inner, c => c != '#' && ! (isClosing c && inner == 0)
  | literal _ _, _ => true
  | escaped _ _, _ => true
  | _, _ => false

/-- The reading at the start of a new line: comments end, and an escape does not reach over. -/
def nextLine : Reading → Reading
  | escaped inner quote => literal inner quote
  | comment inner => params inner
  | pastComment => past
  | same => same

/-- The closing parenthesis has not been met. -/
def isOpen : Reading → Bool
  | past => false
  | pastComment => false
  | ended => false
  | _ => true

/-- The part of a line that belongs to the parameter text, and the reading after the line. -/
def readLine : Reading → Text → Text × Reading
  | reading, [] => ([], reading)
  | reading, c :: rest =>
    let (text, last) := readLine (reading.step c) rest
    (if reading.keeps c then c :: text else text, last)

end Reading

/-- The raw parameter text in the lines from `pos` on, the first of them cut after the opening
parenthesis, with the position after the header. A line break inside the parentheses counts as a
space. -/
def signatureFrom : Reading → Nat → List Line → Option (Text × Nat)
  | _, _, [] => none
  | reading, pos, line :: rest =>
    let (params, last) := reading.readLine line
    if last = .ended then some (params, pos + 1)
    else
      (signatureFrom last.nextLine (pos + 1) rest).map fun (more, next) =>
        (params ++ (if last.isOpen then ' ' :: more else more), next)

/-- The parameter text of the function `name`, whose header opens on line `pos` and goes on with
`text` after its opening parenthesis, and the position after the header. -/
def readSignature (pos : Nat) (name text : Text) (after : List Line) :
    Except ScanError (Text × Nat) :=
  match signatureFrom (.params 0) pos (text :: after) with
  | some (params, next) => .ok (Text.squeeze params, next)
  | none => .error (.unterminatedSignature pos name)

end ReferencePages.Declaration
