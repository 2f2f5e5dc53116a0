/-
**Texts.**

A text is the list of its characters, and a line is a text that stands between two line breaks.
This module holds the ways of cutting a text that every reader of the library shares:

* `after?` and `opensWith`: a text against the mark it may open with;
* `cut?` and `cutAt?`: a text at the first place where a mark, or a character, stands;
* `lines`: the lines of a text;
* `replaceAll`: every occurrence of a mark, from the left, without overlap.
-/

namespace ReferencePages

/-- A text is the list of its characters. -/
abbrev Text := List Char

/-- A line is a text without a line break. -/
abbrev Line := Text

namespace Text

/-! ### Opening marks -/

/-- What follows `mark` in a text that opens with it. -/
def after? (mark t : Text) : Option Text := mark.isPrefixOf? t

/-- The text opens with `mark`. -/
def opensWith (mark t : Text) : Bool := mark.isPrefixOf t

/-! ### Cuts -/

/-- The text before and after the first occurrence of `mark`. -/
def cut? (mark : Text) : Text → Option (Text × Text)
  | [] => (after? mark []).map fun rest => ([], rest)
  | c :: rest =>
    match after? mark (c :: rest) with
    | some tail => some ([], tail)
    | none => (cut? mark rest).map fun (before, tail) => (c :: before, tail)

/-- The text holds `mark` somewhere. -/
def holds (mark t : Text) : Bool := (cut? mark t).isSome

/-- The text before and after the first character that satisfies `p`. -/
def cutWhere? (p : Char → Bool) (t : Text) : Option (Text × Text) :=
  match t.dropWhile (! p ·) with
  | [] => none
  | _ :: rest => some (t.takeWhile (! p ·), rest)

/-- The text before and after the first `mark`. -/
def cutAt? (mark : Char) (t : Text) : Option (Text × Text) := cutWhere? (· == mark) t

/-- The text before and after the last character that satisfies `p`. -/
def cutLastWhere? (p : Char → Bool) (t : Text) : Option (Text × Text) :=
  (cutWhere? p t.reverse).map fun (after, before) => (before.reverse, after.reverse)

/-- The text up to the first character that satisfies `p`. -/
def before (p : Char → Bool) (t : Text) : Text := t.takeWhile (! p ·)

/-! ### Lines -/

/-- A line without the carriage return at its end, of which at most one is dropped. -/
def dropReturn (line : Text) : Line :=
  if line.getLast? = some '\r' then line.dropLast else line

/-- The lines of a text. Every line break ends a line and takes a carriage return right before it
along; what follows the last break is a line of its own when it is not empty. -/
def lines (t : Text) : List Line :=
  let pieces := t.splitOn '\n'
  pieces.dropLast.map dropReturn ++ (pieces.getLast?.toList.filter (! ·.isEmpty))

/-- The texts with `mark` between each two of them. -/
def join (mark : Text) (parts : List Text) : Text := mark.intercalate parts

/-- The lines as one text, a line break between each two of them. -/
def joinLines (parts : List Text) : Text := join ['\n'] parts

/-- The texts with one empty line between each two of them. -/
def joinParagraphs (parts : List Text) : Text := join ['\n', '\n'] parts

/-! ### Replacement -/

/-- The walk behind `replaceAll`: `skip` characters still belong to the occurrence just replaced. -/
def replaceFrom (mark new : Text) : Nat → Text → Text
  | _, [] => []
  | skip + 1, _ :: rest => replaceFrom mark new skip rest
  | 0, c :: rest =>
    if opensWith mark (c :: rest) then new ++ replaceFrom mark new (mark.length - 1) rest
    else c :: replaceFrom mark new 0 rest

/-- The text with every occurrence of `mark` replaced by `new`, from the left and without overlap.
A mark is never empty here. -/
def replaceAll (mark new t : Text) : Text := replaceFrom mark new 0 t

/-- The text with every character `mark` written as `\mark`. -/
def escapeChar (mark : Char) (t : Text) : Text :=
  t.flatMap fun c => if c == mark then ['\\', c] else [c]

/-- The first text comes before the second by code points. -/
def comesBefore (first second : Text) : Bool :=
  List.lex first second fun c d => c.toNat.blt d.toNat

/-- The decimal digits of a number. -/
def ofNat (n : Nat) : Text := Nat.toDigits 10 n

/-- The number of bytes of a text in UTF-8. -/
def byteCount (t : Text) : Nat := t.foldl (fun count c => count + c.utf8Size) 0

end Text

end ReferencePages
