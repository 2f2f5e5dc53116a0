/-
**Top level of a parameter text.**

A character is at top level when it stands outside brackets and string literals and is neither a
bracket nor a quote itself. A closing bracket too many is passed over.

* `splitTop`: the parts of a text between the top-level occurrences of a separator;
* `cutTop?`: a text before and after the first top-level occurrence of a mark.
-/

import ReferencePages.Declaration.Signature

namespace ReferencePages.Declaration

/-- How deep in brackets and literals a character stands. -/
inductive Nesting where
  /-- Outside literals. -/
  | code (depth : Nat)
  /-- In a literal opened with `quote`. -/
  | literal (depth : Nat) (quote : Char)
  /-- In a literal, right after a backslash. -/
  | escaped (depth : Nat) (quote : Char)
  deriving DecidableEq

namespace Nesting

/-- The nesting at the start of a text. -/
def initial : Nesting := code 0

/-- The nesting after one more character. -/
def step : Nesting → Char → Nesting
  | code depth, c =>
    if isQuote c then literal depth c
    else if isOpening c then code (depth + 1)
    else if isClosing c then code (depth - 1)
    else code depth
  | literal depth quote, c =>
    if c == '\\' then escaped depth quote
    else if c == quote then code depth
    else literal depth quote
  | escaped depth quote, _ => literal depth quote

/-- The character is at top level. -/
def isTop : Nesting → Char → Bool
  | code depth, c => depth == 0 && ! isQuote c && ! isOpening c && ! isClosing c
  | _, _ => false

end Nesting

/-- A character in front of the first of several parts. -/
def consFirst (c : Char) : List Text → List Text
  | [] => [[c]]
  | first :: rest => (c :: first) :: rest

/-- The parts between the top-level separators, at the given nesting. -/
def splitTopFrom (separator : Char) : Nesting → Text → List Text
  | _, [] => [[]]
  | nesting, c :: rest =>
    let parts := splitTopFrom separator (nesting.step c) rest
    if nesting.isTop c && c == separator then [] :: parts else consFirst c parts

/-- The parts of a text between the top-level separators. -/
def splitTop (separator : Char) (t : Text) : List Text := splitTopFrom separator .initial t

/-- The text before and after the first top-level mark, at the given nesting. -/
def cutTopFrom? (mark : Char) : Nesting → Text → Option (Text × Text)
  | _, [] => none
  | nesting, c :: rest =>
    if nesting.isTop c && c == mark then some ([], rest)
    else (cutTopFrom? mark (nesting.step c) rest).map fun (before, after) => (c :: before, after)

/-- The text before and after the first top-level mark. -/
def cutTop? (mark : Char) (t : Text) : Option (Text × Text) := cutTopFrom? mark .initial t

end ReferencePages.Declaration
