/-
**JSON numbers.**

A number literal is read into its digits (`Decimal.read?`) and is accepted when its magnitude can be
held in a double-precision number. The magnitude is the one a reader with a 64-bit significand
computes: digits are taken as long as the significand fits, later digits before the point count as
powers of ten and later digits after it are dropped; the significand and the power of ten are each
rounded to 53 binary digits, and so is their product (`Decimal.overflows`). A number too small to
be told from zero is accepted.
-/

import ReferencePages.Text.Basic

namespace ReferencePages.Json

/-- The digits of a number literal. Its sign plays no part. -/
structure Decimal where
  whole : Text
  fraction : Text
  /-- The digits after `e`, with the sign of the exponent. -/
  exponent : Int

/-- A non-empty run of digits, and what follows it. -/
def digits? (t : Text) : Option (Text × Text) :=
  match t.takeWhile Char.isDigit with
  | [] => none
  | digits => some (digits, t.dropWhile Char.isDigit)

/-- The value of a digit. -/
def digitValue (c : Char) : Nat := c.toNat - '0'.toNat

/-- The number that a run of digits spells. -/
def digitsValue (digits : Text) : Nat := digits.foldl (fun n c => n * 10 + digitValue c) 0

/-- The digits before the point: a zero stands alone. -/
def whole? (t : Text) : Option (Text × Text) :=
  match digits? t with
  | some ('0' :: _ :: _, _) => none
  | found => found

/-- The digits after the point, none when there is no point. -/
def fraction? : Text → Option (Text × Text)
  | '.' :: rest => digits? rest
  | t => some ([], t)

/-- The exponent, zero when there is none. -/
def exponent? : Text → Option (Int × Text)
  | c :: rest =>
    if c == 'e' || c == 'E' then
      match rest with
      | '+' :: tail => (digits? tail).map fun (digits, left) => (digitsValue digits, left)
      | '-' :: tail => (digits? tail).map fun (digits, left) => (-(digitsValue digits : Int), left)
      | _ => (digits? rest).map fun (digits, left) => (digitsValue digits, left)
    else some (0, c :: rest)
  | [] => some (0, [])

/-- The digits of a complete number literal. -/
def Decimal.read? (literal : Text) : Option Decimal := do
  let unsigned := match literal with
    | '-' :: rest => rest
    | _ => literal
  let (whole, rest) ← whole? unsigned
  let (fraction, rest) ← fraction? rest
  let (exponent, rest) ← exponent? rest
  if rest.isEmpty then some ⟨whole, fraction, exponent⟩ else none

/-! ### Magnitude -/

/-- The greatest significand. -/
def maxSignificand : Nat := Nat.pow 2 64 - 1

/-- The number rounded to 53 binary digits, a tie going to the even neighbour. -/
def round53 (n : Nat) : Nat :=
  if n < Nat.pow 2 53 then n
  else
    let excess := n.log2 - 52
    let unit := Nat.pow 2 excess
    let quotient := n / unit
    let remainder := n % unit
    let up := unit < 2 * remainder || (2 * remainder == unit && quotient % 2 == 1)
    (if up then quotient + 1 else quotient) * unit

/-- The significand of the digits before the point, and how many of them it leaves out. -/
def wholeSignificand (digits : Text) : Nat × Nat :=
  digits.foldl (fun (taken, left) c =>
    let next := taken * 10 + digitValue c
    if left == 0 && next ≤ maxSignificand then (next, 0) else (taken, left + 1)) (0, 0)

/-- The significand after the digits behind the point, and how many of them it takes in: all up to
the first that does not fit. -/
def fractionSignificand (start : Nat) (digits : Text) : Nat × Nat :=
  let (taken, count, _) := digits.foldl (fun (taken, count, full) c =>
    let next := taken * 10 + digitValue c
    if ! full && next ≤ maxSignificand then (next, count + 1, false) else (taken, count, true))
    (start, 0, false)
  (taken, count)

/-- The magnitude is too large for a double-precision number. -/
def Decimal.overflows (d : Decimal) : Bool :=
  let (start, left) := wholeSignificand d.whole
  let (significand, count) := fractionSignificand start d.fraction
  let power : Int := left - count + d.exponent
  significand != 0 && 0 ≤ power &&
    (308 < power ||
      Nat.pow 2 1024 ≤ round53 (round53 significand * round53 (Nat.pow 10 power.toNat)))

/-- The text is a number literal of acceptable magnitude. -/
def isNumber (literal : Text) : Bool :=
  match Decimal.read? literal with
  | some d => ! d.overflows
  | none => false

end ReferencePages.Json
