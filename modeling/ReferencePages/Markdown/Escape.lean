/-
**Escapes.**

* `escapeHeading`: underscores escaped, so that a name is not read as emphasis;
* `escapeText`: a backslash before every line of prose that starts with `#`, so that it is not read
  as a heading; code in fences stays as it is;
* `cell`: the words of a text with pipes escaped, for a cell of a table;
* `unescape`: the text without the backslashes that escape the character after them.
-/

import ReferencePages.Markdown.Fence

namespace ReferencePages.Markdown

open Text

/-- A name as it stands in a heading. -/
def escapeHeading (name : Text) : Text := escapeChar '_' name

/-- A line as it stands where `fence` is open. -/
def escapeLine (fence : Option Fence) (line : Line) : Line :=
  if isProse fence line && line.head? = some '#' then '\\' :: line else line

/-- The lines of a text whose first line stands where `fence` is open. -/
def escapeLines (fence : Option Fence) : List Line → List Line
  | [] => []
  | line :: rest => escapeLine fence line :: escapeLines (fenceAfter fence line) rest

/-- Free text that holds no heading. -/
def escapeText (t : Text) : Text := joinLines (escapeLines none (lines t))

/-- A text as one cell of a table. -/
def cell (t : Text) : Text := escapeChar '|' (squeeze t)

/-- The text that an escaped text stands for. A backslash at the very end stands for itself. -/
def unescape : Text → Text
  | [] => []
  | [c] => [c]
  | c :: next :: rest => if c == '\\' then next :: unescape rest else c :: unescape (next :: rest)

end ReferencePages.Markdown
