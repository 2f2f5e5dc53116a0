/-
**JSON tokens.**

`Token.scan?` splits a text into tokens, one character at a time: a scan is a state (`Scan`) that
each character moves, and that a character outside the grammar refuses. A text token holds the
characters meant, its escapes resolved; a `\u` escape that names half of a surrogate pair has to be
followed by one that names the other half.
-/

import ReferencePages.Json.Number

namespace ReferencePages.Json

/-- The smallest parts of a JSON text. -/
inductive Token where
  | openArray | closeArray | openObject | closeObject | comma | colon
  | text (value : Text)
  | number (literal : Text)
  | nullWord | trueWord | falseWord

/-- What the characters read so far have begun. Texts under way are kept last character first. -/
inductive Scan where
  /-- Nothing is under way. -/
  | between
  /-- A text is under way. -/
  | inText (read : Text)
  /-- A backslash in a text waits for the character it escapes. -/
  | escape (read : Text)
  /-- A `\u` escape has `count` of its digits; `high` is the first half of a surrogate pair. -/
  | code (read : Text) (high : Option Nat) (count : Nat) (value : Nat)
  /-- The first half of a surrogate pair waits for a backslash. -/
  | afterHigh (read : Text) (high : Nat)
  /-- The first half of a surrogate pair and a backslash wait for a `u`. -/
  | escapeAfterHigh (read : Text) (high : Nat)
  /-- A number is under way. -/
  | inNumber (read : Text)
  /-- One of the words `null`, `true` and `false` is under way. -/
  | inWord (read : Text)

namespace Token

/-- The blanks between tokens. -/
def isSpace (c : Char) : Bool := c == ' ' || c == '\t' || c == '\n' || c == '\r'

/-- The characters of number literals. -/
def isNumberChar (c : Char) : Bool :=
  c.isDigit || c == '-' || c == '+' || c == '.' || c == 'e' || c == 'E'

/-- The value of a hexadecimal digit. -/
def hexValue? (c : Char) : Option Nat :=
  if c.isDigit then some (c.toNat - '0'.toNat)
  else if 'a' ≤ c && c ≤ 'f' then some (c.toNat - 'a'.toNat + 10)
  else if 'A' ≤ c && c ≤ 'F' then some (c.toNat - 'A'.toNat + 10)
  else none

/-- The character that a one-letter escape stands for. -/
def escaped? (c : Char) : Option Char :=
  match c with
  | '"' => some '"'
  | '\\' => some '\\'
  | '/' => some '/'
  | 'b' => some '\x08'
  | 'f' => some '\x0c'
  | 'n' => some '\n'
  | 'r' => some '\r'
  | 't' => some '\t'
  | _ => none

/-- The first half of a surrogate pair. -/
def isHigh (n : Nat) : Bool := 0xd800 ≤ n && n ≤ 0xdbff

/-- The second half of a surrogate pair. -/
def isLow (n : Nat) : Bool := 0xdc00 ≤ n && n ≤ 0xdfff

/-- The state after the last digit of a `\u` escape. -/
def closeCode (read : Text) (high : Option Nat) (value : Nat) : Option Scan :=
  match high with
  | some first =>
    if isLow value then
      some (.inText (Char.ofNat (0x10000 + (first - 0xd800) * 0x400 + (value - 0xdc00)) :: read))
    else none
  | none =>
    if isHigh value then some (.afterHigh read value)
    else if isLow value then none
    else some (.inText (Char.ofNat value :: read))

/-- The token that a word spells. -/
def word? (read : Text) : Option Token :=
  if read = "null".toList then some .nullWord
  else if read = "true".toList then some .trueWord
  else if read = "false".toList then some .falseWord
  else none

/-- The token that a mark spells. -/
def mark? (c : Char) : Option Token :=
  if c == '[' then some .openArray
  else if c == ']' then some .closeArray
  else if c == '\x7b' then some .openObject
  else if c == '\x7d' then some .closeObject
  else if c == ',' then some .comma
  else if c == ':' then some .colon
  else none

/-- The tokens read so far, last first, and what is under way. -/
abbrev Progress := List Token × Scan

/-- A character where nothing is under way. -/
def start (done : List Token) (c : Char) : Option Progress :=
  if isSpace c then some (done, .between)
  else if c == '"' then some (done, .inText [])
  else if c == '-' || c.isDigit then some (done, .inNumber [c])
  else if c.isLower then some (done, .inWord [c])
  else (mark? c).map fun token => (token :: done, .between)

/-- The tokens once a number has ended. -/
def endNumber (done : List Token) (read : Text) : Option (List Token) :=
  if isNumber read.reverse then some (.number read.reverse :: done) else none

/-- The tokens once a word has ended. -/
def endWord (done : List Token) (read : Text) : Option (List Token) :=
  (word? read.reverse).map (· :: done)

/-- The progress after one more character. -/
def step : Progress → Char → Option Progress
  | (done, .between), c => start done c
  | (done, .inText read), c =>
    if c == '"' then some (.text read.reverse :: done, .between)
    else if c == '\\' then some (done, .escape read)
    else if c.toNat < 0x20 then none
    else some (done, .inText (c :: read))
  | (done, .escape read), c =>
    if c == 'u' then some (done, .code read none 0 0)
    else (escaped? c).map fun meant => (done, .inText (meant :: read))
  | (done, .code read high count value), c => do
    let digit ← hexValue? c
    let value := value * 16 + digit
    if count == 3 then (closeCode read high value).map fun scan => (done, scan)
    else some (done, .code read high (count + 1) value)
  | (done, .afterHigh read high), c =>
    if c == '\\' then some (done, .escapeAfterHigh read high) else none
  | (done, .escapeAfterHigh read high), c =>
    if c == 'u' then some (done, .code read (some high) 0 0) else none
  | (done, .inNumber read), c =>
    if isNumberChar c then some (done, .inNumber (c :: read))
    else do start (← endNumber done read) c
  | (done, .inWord read), c =>
    if c.isLower then some (done, .inWord (c :: read))
    else do start (← endWord done read) c

/-- The tokens at the end of the text, last first. -/
def finish : Progress → Option (List Token)
  | (done, .between) => some done
  | (done, .inNumber read) => endNumber done read
  | (done, .inWord read) => endWord done read
  | _ => none

/-- The tokens of a text, in order. -/
def scan? (t : Text) : Option (List Token) := do
  let progress ← t.foldlM step ([], .between)
  return (← finish progress).reverse

end Token

end ReferencePages.Json
