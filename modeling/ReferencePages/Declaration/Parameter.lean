/-
**Declared parameters and calls.**

* `DeclaredParam.readAll`: the parameters in the parameter text of a declaration;
* `callSignatures`: how a call of the function is shown: the short form leaves out the parameters
  with a default, and a long form shows them all when there is one. The receiver never appears.
-/

import ReferencePages.Declaration.Nesting

namespace ReferencePages

open Text

/-- A parameter as it is declared. -/
structure DeclaredParam where
  /-- The name with the stars in front of it. -/
  name : Text
  declaredType : Text
  default : Option Text
  deriving DecidableEq

namespace DeclaredParam

open Declaration

/-- The text before a top-level mark and the trimmed text after it, if the mark is there. -/
def cutEntry (mark : Char) (t : Text) : Text × Option Text :=
  match cutTop? mark t with
  | some (before, after) => (before, some (trim after))
  | none => (t, none)

/-- An entry that is no parameter: nothing, or one of the marks `*` and `/`. -/
def isSeparator (entry : Text) : Bool := entry.isEmpty || entry = ['*'] || entry = ['/']

/-- The parameter that an entry of the parameter list declares. -/
def read? (entry : Text) : Option DeclaredParam :=
  let entry := trim entry
  if isSeparator entry then none
  else
    let (head, default) := cutEntry '=' entry
    let (name, declaredType) := cutEntry ':' head
    some ⟨trim name, declaredType.getD [], default⟩

/-- The parameters that a parameter text declares. -/
def readAll (params : Text) : List DeclaredParam := (splitTop ',' params).filterMap read?

/-- The name without stars. -/
def bareName (p : DeclaredParam) : Text := p.name.dropWhile (· == '*')

/-- The parameter stands for the object or class that the function is called on. -/
def isReceiver (p : DeclaredParam) : Bool := p.name = "self".toList || p.name = "cls".toList

end DeclaredParam

/-- The declaration does not start with the object that the function is called on. -/
def lacksSelf (params : List DeclaredParam) : Bool :=
  match params with
  | first :: _ => first.name ≠ "self".toList
  | [] => true

/-- How a call of a function is spelled. -/
inductive CallStyle where
  /-- On the class, to construct an object: `Name(…)`. -/
  | construct
  /-- On the class: `Name.function(…)`. -/
  | onClass
  /-- On an object: `self.function(…)`. -/
  | onObject
  deriving DecidableEq

/-- What stands before the parentheses of a call. -/
def CallStyle.callee (style : CallStyle) (className functionName : Text) : Text :=
  match style with
  | .construct => className
  | .onClass => className ++ ['.'] ++ functionName
  | .onObject => "self.".toList ++ functionName

/-- A call with the given arguments. -/
def callText (callee : Text) (arguments : List Text) : Text :=
  callee ++ ['('] ++ join [',', ' '] arguments ++ [')']

/-- An argument of the long form: the default is assigned. -/
def DeclaredParam.assigned (p : DeclaredParam) : Text :=
  match p.default with
  | some default => p.name ++ ['='] ++ default
  | none => p.name

/-- The short call, and the long one when some parameter has a default. -/
def callSignatures (className functionName : Text) (style : CallStyle)
    (params : List DeclaredParam) : List Text :=
  let callee := style.callee className functionName
  let shown := params.filter (! ·.isReceiver)
  let short := (shown.filter (·.default.isNone)).map (·.name)
  callText callee short ::
    (if shown.any (·.default.isSome) then [callText callee (shown.map (·.assigned))] else [])

end ReferencePages
