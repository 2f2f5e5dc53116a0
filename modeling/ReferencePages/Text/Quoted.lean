/-
**Characters and names in messages.**

* `shownSet`: a set of names in braces, sorted by code points, each name in double quotes. Quotes
  and backslashes in a name are escaped, characters that cannot be shown are given by number.
* `tame`: a message without the characters that steer a terminal, which are given by number.
-/

import ReferencePages.Text.Basic
import ReferencePages.Text.Showable

namespace ReferencePages.Text

/-- A character given by its number. -/
def numberedChar (c : Char) : Text := ['\\', 'u', '\x7b'] ++ Nat.toDigits 16 c.toNat ++ ['\x7d']

/-! ### Names -/

/-- A character in double quotes. -/
def shownChar (c : Char) : Text :=
  match c with
  | '"' => ['\\', '"']
  | '\\' => ['\\', '\\']
  | '\x00' => ['\\', '0']
  | '\t' => ['\\', 't']
  | '\n' => ['\\', 'n']
  | '\r' => ['\\', 'r']
  | c => if isShowable c then [c] else numberedChar c

/-- A name in double quotes. -/
def shown (name : Text) : Text := ['"'] ++ name.flatMap shownChar ++ ['"']

/-- A set of names in braces. -/
def shownSet (names : List Text) : Text :=
  let sorted := names.mergeSort fun first second => ! comesBefore second first
  ['\x7b'] ++ join [',', ' '] (sorted.map shown) ++ ['\x7d']

/-! ### Messages -/

/-- A character in a message. The bell, backspace, form feed, escape and delete characters are given
by two hexadecimal digits, the control characters from U+0080 on by their number. -/
def tameChar (c : Char) : Text :=
  match c with
  | '\x07' => ['\\', 'x', '0', '7']
  | '\x08' => ['\\', 'x', '0', '8']
  | '\x0c' => ['\\', 'x', '0', 'c']
  | '\x1b' => ['\\', 'x', '1', 'b']
  | '\x7f' => ['\\', 'x', '7', 'f']
  | c => if 0x80 ≤ c.toNat && c.toNat ≤ 0x9f then numberedChar c else [c]

/-- A message that leaves the terminal alone. -/
def tame (message : Text) : Text := message.flatMap tameChar

end ReferencePages.Text
