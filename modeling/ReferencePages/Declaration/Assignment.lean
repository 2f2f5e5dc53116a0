/-
**Assignments.**

An assignment is a name, an annotation after a colon and a value after an equals sign, either of
which may be missing:

* `assignment?`: any of the four forms, the comment of the value dropped;
* `enumMember?`: a name and a value, with the comment as its description;
* `selfAssigned?`: the name of the object part that a line assigns to.
-/

import ReferencePages.Declaration.Comment
import ReferencePages.Record
import ReferencePages.Text.Blank
import ReferencePages.Text.Identifier

namespace ReferencePages.Declaration

open Text

/-- A name with its annotation and its value. -/
structure Assignment where
  name : Text
  declaredType : Option Text
  value : Option Text
  deriving DecidableEq

/-- The value after an equals sign: at least one character stands there. -/
def assignedValue? (t : Text) : Option Text :=
  if t.isEmpty then none else some (trim (stripComment t))

/-- What follows the name of an assignment: the annotation and the value. An annotation has at least
one character and ends at the first equals sign. -/
def annotation? : Text → Option (Option Text × Option Text)
  | [] => some (none, none)
  | '=' :: rest => (assignedValue? rest).map fun value => (none, some value)
  | ':' :: rest =>
    match cutAt? '=' rest with
    | none => if rest.isEmpty then none else some (some (trim rest), none)
    | some (declared, after) =>
      if declared.isEmpty then none
      else (assignedValue? after).map fun value => (some (trim declared), some value)
  | _ => none

/-- The assignment that a text spells from its first character on. -/
def assignment? (t : Text) : Option Assignment := do
  let (name, rest) ← identifier? t
  let (declaredType, value) ← annotation? (dropPads rest)
  return ⟨name, declaredType, value⟩

/-- The member of an enumeration that a line declares. -/
def enumMember? (line : Line) : Option EnumValue := do
  let (name, rest) ← identifier? (dropPads line)
  match dropPads rest with
  | '=' :: right =>
    let (value, comment) := splitComment (dropPads right)
    some ⟨name, trim value, trim (comment.getD [])⟩
  | _ => none

/-- The name of the object part that a line assigns to. -/
def selfAssigned? (line : Line) : Option Text := do
  let rest ← after? "self.".toList (dropPads line)
  let (name, _) ← identifier? rest
  return name

end ReferencePages.Declaration
