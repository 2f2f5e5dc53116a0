/-
**Header lines.**

* `ClassLine.read?`: a class header, which stands at the left margin: `class Name(bases):`;
* `FunctionLine.read?`: the start of a function header up to its opening parenthesis:
  `def name(` or `async def name(`;
* `decorator?`: the name of a decorator: `@name`.
-/

import ReferencePages.Record
import ReferencePages.Text.Blank
import ReferencePages.Text.Identifier

namespace ReferencePages.Declaration

open Text

/-- What follows at least one space or tab. -/
def afterPads? (t : Text) : Option Text :=
  match t with
  | c :: rest => if isPad c then some (dropPads rest) else none
  | [] => none

/-- What follows a word and the spaces or tabs after it. -/
def afterWord? (word : String) (t : Text) : Option Text := do
  afterPads? (← after? word.toList t)

/-- A name that starts with an underscore is private. -/
def isPrivateName (name : Text) : Bool := name.head? = some '_'

/-! ### Classes -/

/-- The name of a class and the text between the parentheses that follow it. -/
structure ClassLine where
  name : Text
  bases : Option Text
  deriving DecidableEq

/-- The text before the last closing parenthesis that a colon follows. -/
def untilBasesClose? : Text → Option Text
  | [] => none
  | c :: rest =>
    match untilBasesClose? rest with
    | some inner => some (c :: inner)
    | none => if c == ')' && (dropPads rest).head? = some ':' then some [] else none

/-- What follows the name of a class, up to the colon: the base list, if there is one. -/
def baseList? : Text → Option (Option Text)
  | '(' :: rest => (untilBasesClose? rest).map some
  | ':' :: _ => some none
  | _ => none

/-- The class that a line declares. -/
def ClassLine.read? (line : Line) : Option ClassLine := do
  let (name, rest) ← identifier? (← afterWord? "class" line)
  let bases ← baseList? (dropPads rest)
  return ⟨name, (bases.map trim).filter (! ·.isEmpty)⟩

/-- The public class that a line declares. -/
def publicClass? (line : Line) : Option ClassLine :=
  (ClassLine.read? line).filter (! isPrivateName ·.name)

/-! ### Functions -/

/-- The indentation and name of a function, and what follows its opening parenthesis. -/
structure FunctionLine where
  indent : Nat
  name : Text
  rest : Text
  deriving DecidableEq

/-- The function whose declaration starts on the line. -/
def FunctionLine.read? (line : Line) : Option FunctionLine := do
  let declared := dropPads line
  let declared := (afterWord? "async" declared).getD declared
  let (name, rest) ← identifier? (← afterWord? "def" declared)
  match dropPads rest with
  | '(' :: params => some ⟨indentation (line.takeWhile isPad), name, params⟩
  | _ => none

/-- The name of a function that is left out of the documentation: every private one but the
constructor's. -/
def isHiddenFunction (name : Text) : Bool := isPrivateName name && name ≠ constructorName

/-- The decorator that stands on the line. -/
def decorator? (line : Line) : Option Text := do
  let rest ← after? ['@'] (dropPads line)
  let (name, _) ← name? (fun c => isNameRest c || c == '.') rest
  return name

end ReferencePages.Declaration
