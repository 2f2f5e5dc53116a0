/-
**Blank space.**

* `isBlank`: the characters that count as blank space (the White_Space property), among them the
  no-break spaces and the line and paragraph separators, but not the zero-width ones;
* `trim`, `words`, `squeeze`: a text without its outer blanks, its words, its words one space apart;
* `indentation`: the columns of blank space that a line opens with, a tab counting four.

Declarations are laid out with spaces and tabs alone (`isPad`).
-/

import ReferencePages.Text.Basic

namespace ReferencePages.Text

/-- The character is blank space. -/
def isBlank (c : Char) : Bool :=
  let n := c.toNat
  (0x09 ≤ n && n ≤ 0x0d) || n == 0x20 || n == 0x85 || n == 0xa0 || n == 0x1680 ||
    (0x2000 ≤ n && n ≤ 0x200a) || n == 0x2028 || n == 0x2029 || n == 0x202f || n == 0x205f ||
    n == 0x3000

/-- A space or a tab, the two blanks that declarations are laid out with. -/
def isPad (c : Char) : Bool := c == ' ' || c == '\t'

/-- The text holds blank space only. -/
def allBlank (t : Text) : Bool := t.all isBlank

/-- The text without the blanks it opens with. -/
def trimStart (t : Text) : Text := t.dropWhile isBlank

/-- The text without the characters at its end that satisfy `p`. -/
def dropEndWhile (p : Char → Bool) (t : Text) : Text := (t.reverse.dropWhile p).reverse

/-- The text without the blanks at its end. -/
def trimEnd (t : Text) : Text := dropEndWhile isBlank t

/-- The text without its outer blanks. -/
def trim (t : Text) : Text := trimEnd (trimStart t)

/-- The longest runs of characters that are not blank, in order. -/
def words (t : Text) : List Text := (t.splitOnP isBlank).filter (! ·.isEmpty)

/-- The words of the text, one space apart. -/
def squeeze (t : Text) : Text := join [' '] (words t)

/-- The columns that a blank character takes at the start of a line. -/
def columns (c : Char) : Nat := if c == '\t' then 4 else 1

/-- The width of the blank space that a line opens with. -/
def indentation (line : Line) : Nat :=
  (line.takeWhile isBlank).foldr (fun c width => columns c + width) 0

/-- The text without the spaces and tabs it opens with. -/
def dropPads (t : Text) : Text := t.dropWhile isPad

end ReferencePages.Text
