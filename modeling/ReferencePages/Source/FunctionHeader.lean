/-
**Function headers.**

`findFunction` looks for the next function header at one of the given indentations. A function whose
name is hidden is reported without its parameters and its documentation, and the search resumes on
the line below it; any other one is read to the end of its header and of the untagged block that
follows. A function is marked static by a decorator above it; other decorators and blank lines may
stand between the two, any other line undoes the mark.
-/

import ReferencePages.Declaration.Header
import ReferencePages.Declaration.Signature
import ReferencePages.Source.DocBlock

namespace ReferencePages

open Declaration

/-- A function header. -/
structure FunctionHeader where
  name : Text
  line : Nat
  indent : Nat
  isHidden : Bool
  /-- The decorator `@staticmethod` stands above it. -/
  markedStatic : Bool
  /-- The text between the outer parentheses. -/
  params : Text
  doc : Option DocBlock
  deriving DecidableEq

/-- The decorator that marks a function static. -/
def staticDecorator : Text := "staticmethod".toList

/-- The header that a function line on line `pos` starts, and the position to resume from. -/
def functionHeaderAt (markedStatic : Bool) (pos : Nat) (declared : FunctionLine)
    (after : List Line) : Except ScanError (FunctionHeader × Nat) :=
  let bare : FunctionHeader :=
    { name := declared.name
      line := pos
      indent := declared.indent
      isHidden := true
      markedStatic := markedStatic
      params := []
      doc := none }
  if isHiddenFunction declared.name then .ok (bare, pos + 1)
  else
    match readSignature pos declared.name declared.rest after with
    | .error error => .error error
    | .ok (params, next) =>
      (plainBlockAt next (after.drop (next - (pos + 1)))).map fun doc =>
        ({ bare with isHidden := false, params := params, doc := doc },
          (doc.map (·.next)).getD next)

/-- The next function header at one of the given indentations. -/
def findFunctionFrom (indents : List Nat) (markedStatic : Bool) : Finder FunctionHeader
  | _, [] => .ok none
  | pos, line :: rest =>
    match decorator? line with
    | some name =>
      findFunctionFrom indents (markedStatic || name = staticDecorator) (pos + 1) rest
    | none =>
      match FunctionLine.read? line with
      | none => findFunctionFrom indents (markedStatic && Text.allBlank line) (pos + 1) rest
      | some declared =>
        if indents.contains declared.indent then
          (functionHeaderAt markedStatic pos declared rest).map some
        else findFunctionFrom indents false (pos + 1) rest

/-- The next function header at one of the given indentations, when no decorator has been seen. -/
def findFunction (indents : List Nat) : Finder FunctionHeader := findFunctionFrom indents false

/-- The next function header at or after `start` at one of the given indentations, and the position
to resume from. -/
def Source.findFunction (source : Source) (start : Nat) (indents : List Nat) :
    Except ScanError (Option (FunctionHeader × Nat)) :=
  ReferencePages.findFunction indents start (source.linesFrom start)

end ReferencePages
