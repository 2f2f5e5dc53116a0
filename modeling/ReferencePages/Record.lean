/-
**What a source file documents.**

The records that the readers of sources fill and the writers of pages print: a class with its
variables, fields, functions and enum values, and the variables of a module. A part that a
declaration may lack is an `Option`; free text that is missing is empty.
-/

import ReferencePages.Json.Value

namespace ReferencePages

/-- A documented assignment in the body of a class. -/
structure ClassVariable where
  name : Text
  declaredType : Option Text
  value : Option Text
  description : Text
  deriving DecidableEq

/-- A documented assignment to a part of the object under construction. -/
structure Field where
  name : Text
  description : Text
  deriving DecidableEq

/-- A parameter as the documentation of a function describes it. Its type is empty when the
declaration gives none. -/
structure Parameter where
  name : Text
  declaredType : Text
  default : Option Text
  description : Text
  deriving DecidableEq

/-- A documented function. -/
structure FunctionRecord where
  name : Text
  isStatic : Bool
  parameters : List Parameter
  returns : Option Text
  body : Text
  /-- The short call first; a long one only when some parameter has a default. -/
  signatures : List Text
  deriving DecidableEq

/-- A member of an enumeration. -/
structure EnumValue where
  name : Text
  value : Text
  description : Text
  deriving DecidableEq

/-- A documented class. -/
structure ClassRecord where
  name : Text
  /-- The list of bases as it is written. -/
  bases : Option Text
  description : Text
  classVariables : List ClassVariable
  fields : List Field
  functions : List FunctionRecord
  enumValues : List EnumValue
  /-- The line of the class header. -/
  position : Nat
  deriving DecidableEq

/-- An assignment at the top of a module, with the comment above it. -/
structure ModuleVariable where
  name : Text
  declaredType : Text
  value : Text
  description : Text
  deriving DecidableEq

/-- The name of the function that constructs objects. -/
def constructorName : Text := "__init__".toList

/-- The function constructs objects. -/
def FunctionRecord.isConstructor (f : FunctionRecord) : Bool := f.name = constructorName

/-- A base list that mentions `Enum` or `Flag` makes an enumeration. -/
def namesEnum (bases : Option Text) : Bool :=
  match bases with
  | some list => Text.holds "Enum".toList list || Text.holds "Flag".toList list
  | none => false

/-- The class is an enumeration. -/
def ClassRecord.isEnum (c : ClassRecord) : Bool := namesEnum c.bases

/-- The first function of the class with the given name. -/
def ClassRecord.function? (c : ClassRecord) (name : Text) : Option FunctionRecord :=
  c.functions.find? (·.name = name)

/-! ### Records as JSON -/

/-- A member that is always there. -/
def textMember (key : String) (value : Text) : Json.Members := [(key.toList, .text value)]

/-- A member that is left out when there is no value. -/
def optionMember (key : String) (value : Option Text) : Json.Members :=
  value.toList.map fun text => (key.toList, .text text)

/-- A member that holds a list. -/
def listMember (key : String) (items : List Json) : Json.Members := [(key.toList, .array items)]

def ClassVariable.toJson (v : ClassVariable) : Json :=
  .object (textMember "name" v.name ++ optionMember "declared_type" v.declaredType ++
    optionMember "literal_value" v.value ++ textMember "description" v.description)

def Field.toJson (f : Field) : Json :=
  .object (textMember "name" f.name ++ textMember "description" f.description)

def Parameter.toJson (p : Parameter) : Json :=
  .object (textMember "name" p.name ++ textMember "declared_type" p.declaredType ++
    optionMember "default_value" p.default ++ textMember "description" p.description)

def FunctionRecord.toJson (f : FunctionRecord) : Json :=
  .object (textMember "name" f.name ++ [("is_static".toList, .bool f.isStatic)] ++
    listMember "parameters" (f.parameters.map Parameter.toJson) ++
    optionMember "return_description" f.returns ++ textMember "body_description" f.body ++
    listMember "definition_signatures" (f.signatures.map .text))

def EnumValue.toJson (v : EnumValue) : Json :=
  .object (textMember "name" v.name ++ textMember "literal_value" v.value ++
    textMember "description" v.description)

def ClassRecord.toJson (c : ClassRecord) : Json :=
  .object (textMember "name" c.name ++ optionMember "bases" c.bases ++
    textMember "description" c.description ++
    listMember "variables" (c.classVariables.map ClassVariable.toJson) ++
    listMember "fields" (c.fields.map Field.toJson) ++
    listMember "functions" (c.functions.map FunctionRecord.toJson) ++
    listMember "enum_values" (c.enumValues.map EnumValue.toJson) ++
    [("source_position".toList, Json.ofNat c.position)])

def ModuleVariable.toJson (v : ModuleVariable) : Json :=
  .object (textMember "name" v.name ++ textMember "declared_type" v.declaredType ++
    textMember "value" v.value ++ textMember "description" v.description)

end ReferencePages
