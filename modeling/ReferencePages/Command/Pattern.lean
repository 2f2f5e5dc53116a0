/-
**Patterns for file names.**

In a pattern `?` stands for any character, `*` for any characters, `[…]` for one of the characters
listed and `[!…]` for any other one; the first character of a list may be `]`, and `a-z` lists a
range. The name `**` stands for any directories.

* `NamePattern.read?`: the pattern that a name spells; two stars in a row, and a list that is not
  closed, spell none;
* `NamePattern.accepts`: the names that a pattern stands for.
-/

import ReferencePages.Path

namespace ReferencePages

/-- A part of a pattern. Lists of characters are kept as ranges. -/
inductive PatternToken where
  | char (c : Char)
  | anyChar
  | anyText
  | oneOf (ranges : List (Char × Char))
  | noneOf (ranges : List (Char × Char))
  deriving DecidableEq

/-- What a name of a path pattern stands for. -/
inductive NamePattern where
  /-- Names that fit the tokens. -/
  | name (tokens : List PatternToken)
  /-- Any directories, also none. -/
  | anyDirectories
  deriving DecidableEq

namespace NamePattern

/-! ### Reading -/

/-- The ranges in a list of characters. -/
def ranges : Text → List (Char × Char)
  | first :: '-' :: last :: rest => (first, last) :: ranges rest
  | c :: rest => (c, c) :: ranges rest
  | [] => []

/-- What the characters read so far have begun. -/
inductive Scan where
  | plain
  /-- Right after a star. -/
  | star
  /-- Right after an opening bracket. -/
  | opened
  /-- Right after an opening bracket and an exclamation mark. -/
  | negated
  /-- In a list of characters, kept last first. -/
  | listing (negated : Bool) (read : Text)

/-- The tokens read so far, last first, and what is under way. -/
abbrev Progress := List PatternToken × Scan

/-- A character outside lists. -/
def stepPlain (done : List PatternToken) (c : Char) : Progress :=
  if c == '?' then (.anyChar :: done, .plain)
  else if c == '*' then (.anyText :: done, .star)
  else if c == '[' then (done, .opened)
  else (.char c :: done, .plain)

/-- The progress after one more character. -/
def step : Progress → Char → Option Progress
  | (done, .plain), c => some (stepPlain done c)
  | (done, .star), c => if c == '*' then none else some (stepPlain done c)
  | (done, .opened), c => some (done, if c == '!' then .negated else .listing false [c])
  | (done, .negated), c => some (done, .listing true [c])
  | (done, .listing negated read), c =>
    if c == ']' then
      let listed := ranges read.reverse
      some ((if negated then .noneOf listed else .oneOf listed) :: done, .plain)
    else some (done, .listing negated (c :: read))

/-- The tokens at the end of a name. -/
def finish : Progress → Option (List PatternToken)
  | (done, .plain) => some done.reverse
  | (done, .star) => some done.reverse
  | _ => none

/-- The pattern that a name spells. -/
def read? (piece : Text) : Option NamePattern :=
  if piece = ['*', '*'] then some .anyDirectories
  else do
    let progress ← piece.foldlM step ([], .plain)
    (finish progress).map .name

/-! ### Meaning -/

/-- The character lies in one of the ranges. -/
def inRanges (ranges : List (Char × Char)) (c : Char) : Bool :=
  ranges.any fun (first, last) => first ≤ c && c ≤ last

/-- The token stands for the character. -/
def acceptsChar (token : PatternToken) (c : Char) : Bool :=
  match token with
  | .char expected => expected == c
  | .anyChar => true
  | .anyText => true
  | .oneOf ranges => inRanges ranges c
  | .noneOf ranges => ! inRanges ranges c

/-- For each answer, whether it or a later one is yes. -/
def orLater (answers : List Bool) : List Bool :=
  answers.foldr (fun answer later => (answer || later.headD false) :: later) []

/-- Whether the tokens stand for the text, and for what is left of it after each of its
characters. Every token takes one pass over the text. -/
def acceptedRests : List PatternToken → Text → List Bool
  | [], t => t.map (fun _ => false) ++ [true]
  | .anyText :: tokens, t => orLater (acceptedRests tokens t)
  | token :: tokens, t =>
    let later := (acceptedRests tokens t).tail
    List.zipWith (fun c fits => acceptsChar token c && fits) t later ++ [false]

/-- The tokens stand for the text. -/
def accepts (tokens : List PatternToken) (t : Text) : Bool := (acceptedRests tokens t).headD false

theorem acceptedRests_end (tokens : List PatternToken) :
    ∃ answer, acceptedRests tokens [] = [answer] := by
  induction tokens with
  | nil => exact ⟨true, rfl⟩
  | cons token tokens ih =>
    obtain ⟨answer, same⟩ := ih
    cases token <;> simp [acceptedRests, same, orLater]

theorem acceptedRests_start (tokens : List PatternToken) (t : Text) :
    ∃ answer others, acceptedRests tokens t = answer :: others := by
  induction tokens with
  | nil => cases t <;> simp [acceptedRests]
  | cons token tokens ih =>
    obtain ⟨answer, others, same⟩ := ih
    cases token <;> cases t <;> cases others <;> simp [acceptedRests, same, orLater]

theorem acceptedRests_cons (tokens : List PatternToken) (c : Char) (rest : Text) :
    ∃ answer, acceptedRests tokens (c :: rest) = answer :: acceptedRests tokens rest := by
  induction tokens with
  | nil => exact ⟨false, rfl⟩
  | cons token tokens ih =>
    obtain ⟨answer, same⟩ := ih
    obtain ⟨next, others, split⟩ := acceptedRests_start tokens rest
    cases token <;> simp [acceptedRests, same, split, orLater]

/-- No tokens stand for the empty text only. -/
theorem accepts_nil (t : Text) : accepts [] t = t.isEmpty := by
  cases t <;> rfl

/-- At the end of a text, any text stands for nothing. -/
theorem accepts_anyText_nil (tokens : List PatternToken) :
    accepts (.anyText :: tokens) [] = accepts tokens [] := by
  obtain ⟨answer, same⟩ := acceptedRests_end tokens
  simp [accepts, acceptedRests, same, orLater]

/-- Any text stands for nothing, or for a character and any text. -/
theorem accepts_anyText_cons (tokens : List PatternToken) (c : Char) (rest : Text) :
    accepts (.anyText :: tokens) (c :: rest) =
      (accepts tokens (c :: rest) || accepts (.anyText :: tokens) rest) := by
  obtain ⟨answer, same⟩ := acceptedRests_cons tokens c rest
  simp [accepts, acceptedRests, same, orLater]

/-- Any other token needs a character. -/
theorem accepts_token_nil {token : PatternToken} (single : token ≠ .anyText)
    (tokens : List PatternToken) : accepts (token :: tokens) [] = false := by
  cases token <;> simp_all [accepts, acceptedRests]

/-- Any other token stands for one character. -/
theorem accepts_token_cons {token : PatternToken} (single : token ≠ .anyText)
    (tokens : List PatternToken) (c : Char) (rest : Text) :
    accepts (token :: tokens) (c :: rest) = (acceptsChar token c && accepts tokens rest) := by
  obtain ⟨answer, same⟩ := acceptedRests_cons tokens c rest
  obtain ⟨next, others, split⟩ := acceptedRests_start tokens rest
  cases token <;> simp_all [accepts, acceptedRests]

/-- The name that tokens spell when none of them is a wildcard. -/
def literal? (tokens : List PatternToken) : Option Text :=
  tokens.mapM fun
    | .char c => some c
    | _ => none

end NamePattern

/-- The directory that a path pattern starts from, and its names. A slash at the end makes no
further name. -/
def patternPieces (pattern : Text) : Text × List Text :=
  let (start, rest) := match pattern with
    | '/' :: rest => (['/'], rest)
    | _ => (['.'], pattern)
  let pieces := Path.pieces rest
  let named := if pieces.getLast? = some [] then pieces.dropLast else pieces
  (start, if rest.isEmpty then [[]] else named)

/-- The names of a path pattern. -/
def readPattern? (pattern : Text) : Option (Text × List NamePattern) :=
  let (start, pieces) := patternPieces pattern
  (pieces.mapM NamePattern.read?).map fun names => (start, names)

end ReferencePages
