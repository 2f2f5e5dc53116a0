/-
**Class headers.**

* `findClass`: the next public class header, with the description in the untagged block below it;
* `classHeaders`: every public class header of a source. A header's own block is not skipped: the
  search goes on with the line after the header;
* `topLevelEnd`: where the indented lines after a header end.
-/

import ReferencePages.Declaration.Header
import ReferencePages.Source.DocBlock

namespace ReferencePages

open Declaration

/-- A class header with the description below it. -/
structure ClassHeader where
  name : Text
  bases : Option Text
  description : Text
  line : Nat
  /-- The indentation of the first line below the header that is not blank. -/
  bodyIndent : Nat
  deriving DecidableEq

/-- The indentation of a class body when nothing follows the header. -/
def defaultIndent : Nat := 4

/-- The indentation of the first line that is not blank. -/
def bodyIndentOf (pos : Nat) (lines : List Line) : Nat :=
  match firstWritten pos lines with
  | some found => Text.indentation found.text
  | none => defaultIndent

/-- The header that a class line on line `pos` starts, and the position where its body starts. -/
def classHeaderAt (pos : Nat) (declared : ClassLine) (after : List Line) :
    Except ScanError (ClassHeader × Nat) :=
  (plainBlockAt (pos + 1) after).map fun block =>
    let header : ClassHeader :=
      { name := declared.name
        bases := declared.bases
        description := (block.map DocBlock.text).getD []
        line := pos
        bodyIndent := bodyIndentOf (pos + 1) after }
    (header, (block.map (·.next)).getD (pos + 1))

/-- The next public class header, and the position where its body starts. -/
def findClass : Finder ClassHeader
  | _, [] => .ok none
  | pos, line :: rest =>
    match publicClass? line with
    | some declared => (classHeaderAt pos declared rest).map some
    | none => findClass (pos + 1) rest

/-- The next public class header with the start of its body; the search resumes right below the
header line. -/
def findClassLine : Finder (ClassHeader × Nat) := fun pos lines =>
  (findClass pos lines).map fun found => found.map fun (header, body) =>
    ((header, body), header.line + 1)

/-- The number of the first line that is not blank, not indented and not a comment. -/
def topLevelLine? (pos : Nat) : List Line → Option Nat
  | [] => none
  | line :: rest =>
    if ! Text.allBlank line && Text.indentation line == 0 && line.head? ≠ some '#' then some pos
    else topLevelLine? (pos + 1) rest

namespace Source

/-- The next public class header at or after `start`, and where its body starts. -/
def findClass (source : Source) (start : Nat) : Except ScanError (Option (ClassHeader × Nat)) :=
  ReferencePages.findClass start (source.linesFrom start)

/-- Every public class header, each with the position where its body starts. -/
def classHeaders (source : Source) : Except ScanError (List (ClassHeader × Nat)) :=
  (collect findClassLine 0 0 source.lines).map fun found => found.map (·.1)

/-- The first top-level line at or after `start`, or the number of lines. -/
def topLevelEnd (source : Source) (start : Nat) : Nat :=
  (topLevelLine? start (source.linesFrom start)).getD source.lines.length

end Source

end ReferencePages
