/-
**Module variables.**

A module variable is an assignment at the left margin, with a value, right below a comment line at
the left margin; the comment is its description.
-/

import ReferencePages.Declaration.Assignment
import ReferencePages.Source.Basic

namespace ReferencePages

open Declaration

/-- The comment that a line at the left margin holds. -/
def commentLine? (line : Line) : Option Text := (Text.after? ['#'] line).map Text.trim

/-- The module variable in a comment line and the line below it. -/
def moduleVariable? (above below : Line) : Option ModuleVariable := do
  let description ← commentLine? above
  let assigned ← assignment? below
  let value ← assigned.value
  return ⟨assigned.name, assigned.declaredType.getD [], value, description⟩

/-- The module variables in the lines below `above`. -/
def moduleVariablesBelow (above : Line) : List Line → List ModuleVariable
  | [] => []
  | below :: rest => (moduleVariable? above below).toList ++ moduleVariablesBelow below rest

/-- The module variables of a source, in order. -/
def Source.moduleVariables (source : Source) : List ModuleVariable :=
  match source.lines with
  | [] => []
  | first :: rest => moduleVariablesBelow first rest

end ReferencePages
