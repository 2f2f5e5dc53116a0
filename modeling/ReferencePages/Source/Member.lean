/-
**Documented members.**

* `findField`: a block tagged `field`, and the assignment to a part of the object below it;
* `findClassVariable`: a block tagged `class_var`, and the assignment below it;
* `enumValues`: the members of an enumeration, which carry their documentation in a comment.

A tagged block that is not followed by its declaration is an error.
-/

import ReferencePages.Declaration.Assignment
import ReferencePages.Declaration.Header
import ReferencePages.Source.DocBlock

namespace ReferencePages

open Declaration

/-- A block tagged `tag`, with what `read?` makes of the first line after it that is not blank; that
line has to stand before `stop` too. -/
def findMember {α : Type} (kind : MemberKind) (tag : Text) (read? : DocBlock → Line → Option α)
    (stop : Nat) : Finder α := fun pos lines =>
  match findTagged tag stop pos lines with
  | .error error => .error error
  | .ok none => .ok none
  | .ok (some block) =>
    let target := do
      let found ← firstWritten block.next (lines.drop (block.next - pos))
      if found.line < stop then (read? block found.text).map fun member => (member, found.line + 1)
      else none
    match target with
    | some found => .ok (some found)
    | none => .error (.malformedMember block.openLine kind)

/-- The field that a line assigns to, described by a block. -/
def fieldOf? (block : DocBlock) (line : Line) : Option Field :=
  (selfAssigned? line).map fun name => ⟨name, block.text⟩

/-- The class variable that a line assigns to, described by a block. -/
def classVariableOf? (block : DocBlock) (line : Line) : Option ClassVariable :=
  (assignment? (Text.dropPads line)).map fun assigned =>
    ⟨assigned.name, assigned.declaredType, assigned.value, block.text⟩

/-- The tag of the block that describes a field. -/
def fieldTag : Text := "field".toList

/-- The tag of the block that describes a class variable. -/
def classVariableTag : Text := "class_var".toList

/-- The next documented field before line `stop`. -/
def findField (stop : Nat) : Finder Field := findMember .field fieldTag fieldOf? stop

/-- The next documented class variable before line `stop`. -/
def findClassVariable (stop : Nat) : Finder ClassVariable :=
  findMember .classVariable classVariableTag classVariableOf? stop

/-- The members of an enumeration at the given indentation, up to the first function or
decorator. -/
def enumMembers (indent : Nat) : List Line → List EnumValue
  | [] => []
  | line :: rest =>
    if Text.allBlank line || Text.indentation line != indent then enumMembers indent rest
    else if (FunctionLine.read? line).isSome || (decorator? line).isSome then []
    else (enumMember? line).toList ++ enumMembers indent rest

namespace Source

/-- The next documented field at or after `start` and before `stop`. -/
def findField (source : Source) (start stop : Nat) : Except ScanError (Option (Field × Nat)) :=
  ReferencePages.findField stop start (source.linesFrom start)

/-- The next documented class variable at or after `start` and before `stop`. -/
def findClassVariable (source : Source) (start stop : Nat) :
    Except ScanError (Option (ClassVariable × Nat)) :=
  ReferencePages.findClassVariable stop start (source.linesFrom start)

/-- The lines from `start` up to `stop`, both cut to the number of lines; a range that ends before
it starts is a fault. -/
def range (source : Source) (start stop : Nat) : Except Fault (List Line) :=
  let first := min start source.lines.length
  let last := min stop source.lines.length
  if first ≤ last then .ok ((source.lines.take last).drop first) else .error .reversedRange

/-- The members of an enumeration at the given indentation, in the lines from `start` up to
`stop`. -/
def enumValues (source : Source) (start stop indent : Nat) : Except Fault (List EnumValue) :=
  (source.range start stop).map (enumMembers indent)

end Source

end ReferencePages
