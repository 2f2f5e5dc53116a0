/-
**Blocks of documentation.**

A block opens on a line that starts, after blanks, with the sentinel, three double quotes; a role
tag may follow it (`:field`). It closes at the next sentinel, on the same line or a later one. Its
content is kept without the common indentation and without outer empty lines.

* `docBlockAt`: the block that opens on the first line that is not blank;
* `findTagged`: the first block with a given tag, other blocks being stepped over whole.
-/

import ReferencePages.Source.Basic
import ReferencePages.Text.Alphanumeric

namespace ReferencePages

/-- The mark that opens and closes a block. -/
def sentinel : Text := ['"', '"', '"']

/-- A block of documentation. -/
structure DocBlock where
  /-- The role that follows the opening sentinel. -/
  tag : Option Text
  lines : List Line
  openLine : Nat
  /-- The line after the closing sentinel. -/
  next : Nat
  deriving DecidableEq

/-- The content as one text. -/
def DocBlock.text (block : DocBlock) : Text := Text.joinLines block.lines

/-- The line opens a block. -/
def opensBlock (line : Line) : Bool := Text.opensWith sentinel (Text.trimStart line)

namespace DocBlock

/-! ### Layout -/

/-- The number of blank characters that a line opens with. -/
def margin (line : Line) : Nat := (line.takeWhile Text.isBlank).length

/-- The least margin of the lines that are not blank. -/
def commonMargin (lines : List Line) : Nat :=
  (((lines.filter (! Text.allBlank ·)).map margin).min?).getD 0

/-- The line without its first `width` characters and without blanks at its end; a blank line
becomes empty. -/
def dedentLine (width : Nat) (line : Line) : Line :=
  if Text.allBlank line then [] else Text.trimEnd (line.drop width)

/-- The lines without their common margin. -/
def dedent (lines : List Line) : List Line := lines.map (dedentLine (commonMargin lines))

/-- The lines without the empty ones at both ends. -/
def trimEmpty (lines : List Line) : List Line :=
  ((lines.dropWhile List.isEmpty).reverse.dropWhile List.isEmpty).reverse

/-! ### Reading -/

/-- A character of a role tag. -/
def isTagChar (c : Char) : Bool := Text.isAlphanumeric c || c == '_'

/-- The role tag that follows an opening sentinel, and what follows the tag. -/
def readTag (t : Text) : Option Text × Text :=
  match t with
  | ':' :: rest =>
    match rest.takeWhile isTagChar with
    | [] => (none, t)
    | tag => (some tag, rest.dropWhile isTagChar)
  | _ => (none, t)

/-- The lines up to the one with the closing sentinel, and the position after it. What precedes the
sentinel on its line counts when it is not blank. -/
def untilClosed (pos : Nat) : List Line → Option (List Line × Nat)
  | [] => none
  | line :: rest =>
    match Text.cut? sentinel line with
    | some (before, _) => some (if Text.allBlank before then [] else [before], pos + 1)
    | none => (untilClosed (pos + 1) rest).map fun (body, next) => (line :: body, next)

/-- The text as content lines, none when it is empty. -/
def contentLine (t : Text) : List Line := if t.isEmpty then [] else [t]

/-- The block that opens on line `pos`, given that line and the lines after it. -/
def read (pos : Nat) (line : Line) (after : List Line) : Except ScanError DocBlock :=
  let (tag, rest) := readTag ((Text.trimStart line).drop sentinel.length)
  match Text.cut? sentinel rest with
  | some (content, _) => .ok ⟨tag, contentLine (Text.trim content), pos, pos + 1⟩
  | none =>
    match untilClosed (pos + 1) after with
    | some (body, next) =>
      .ok ⟨tag, trimEmpty (contentLine (Text.trim rest) ++ dedent body), pos, next⟩
    | none => .error (.unterminatedBlock pos)

end DocBlock

/-- The block that opens on the first line that is not blank. -/
def docBlockAt (pos : Nat) (lines : List Line) : Except ScanError (Option DocBlock) :=
  match firstWritten pos lines with
  | none => .ok none
  | some found =>
    if opensBlock found.text then (DocBlock.read found.line found.text found.after).map some
    else .ok none

/-- The untagged block that opens on the first line that is not blank. -/
def plainBlockAt (pos : Nat) (lines : List Line) : Except ScanError (Option DocBlock) :=
  (docBlockAt pos lines).map (·.filter (·.tag.isNone))

/-- The walk behind `findTagged`: lines before `resume` belong to the block read last. -/
def findTaggedFrom (tag : Text) (stop : Nat) :
    (resume pos : Nat) → List Line → Except ScanError (Option DocBlock)
  | _, _, [] => .ok none
  | resume, pos, line :: rest =>
    if stop ≤ pos then .ok none
    else if pos < resume || ! opensBlock line then findTaggedFrom tag stop resume (pos + 1) rest
    else
      match DocBlock.read pos line rest with
      | .error error => .error error
      | .ok block =>
        if block.tag = some tag then .ok (some block)
        else findTaggedFrom tag stop block.next (pos + 1) rest

/-- The first block tagged `tag` that opens before line `stop`. Other blocks are stepped over whole,
so what they hold is never taken for a mark. -/
def findTagged (tag : Text) (stop pos : Nat) (lines : List Line) :
    Except ScanError (Option DocBlock) :=
  findTaggedFrom tag stop pos pos lines

namespace Source

/-- The block that opens on the first line at or after `start` that is not blank. -/
def docBlockAt (source : Source) (start : Nat) : Except ScanError (Option DocBlock) :=
  ReferencePages.docBlockAt start (source.linesFrom start)

/-- The first block tagged `tag` that opens at or after `start` and before `stop`. -/
def findTagged (source : Source) (tag : Text) (start stop : Nat) :
    Except ScanError (Option DocBlock) :=
  ReferencePages.findTagged tag stop start (source.linesFrom start)

end Source

end ReferencePages
