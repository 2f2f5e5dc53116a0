/-
**From a source to its classes.**

Every public class header makes a record with its description, its class variables and, for an
enumeration, its members; the class variables are those documented before the next public header.
Only the first class owns functions: every function below its header at the left margin or at the
indentation of its body belongs to it, also below a further class header, and so do the fields
documented in its constructor. In strict mode a second class is refused.

* `functionRecord`: one function header with its documentation;
* `assemble`: all classes of a source.
-/

import ReferencePages.Declaration.Parameter
import ReferencePages.Source.ClassHeader
import ReferencePages.Source.FunctionHeader
import ReferencePages.Source.Member
import ReferencePages.Source.Tags

namespace ReferencePages

open Text

/-! ### Functions -/

/-- A documented parameter, with the type and the default of its declaration. -/
def documentedParam (declared : List DeclaredParam) (name description : Text) : Parameter :=
  let found := declared.find? fun p => p.bareName = name.dropWhile (· == '*')
  ⟨name, (found.map (·.declaredType)).getD [], found.bind (·.default), description⟩

/-- The function is called on the class and not on an object. -/
def FunctionHeader.isStatic (header : FunctionHeader) : Bool :=
  header.name ≠ constructorName &&
    (header.markedStatic || lacksSelf (DeclaredParam.readAll header.params))

/-- How a call of the function is spelled. -/
def FunctionHeader.callStyle (header : FunctionHeader) : CallStyle :=
  if header.name = constructorName then .construct
  else if header.isStatic then .onClass
  else .onObject

/-- The record of a function of the class `className`. -/
def functionRecord (className : Text) (header : FunctionHeader) : FunctionRecord :=
  let declared := DeclaredParam.readAll header.params
  let tags := Tags.ofLines ((header.doc.map (·.lines)).getD [])
  { name := header.name
    isStatic := header.isStatic
    parameters := tags.params.map fun (name, description) =>
      documentedParam declared name description
    returns := tags.returns
    body := tags.body
    signatures := callSignatures className header.name header.callStyle declared }

namespace Source

/-- Every function header from `start` on at the left margin or at the given indentation, with the
positions that the search resumes from. -/
def functionHeaders (source : Source) (start bodyIndent : Nat) :
    Except ScanError (List (FunctionHeader × Nat)) :=
  collect (ReferencePages.findFunction [0, bodyIndent]) start start (source.linesFrom start)

/-- The fields documented from `start` on and before `stop`. -/
def fields (source : Source) (start stop : Nat) : Except ScanError (List Field) :=
  (collect (ReferencePages.findField stop) start start (source.linesFrom start)).map
    fun found => found.map (·.1)

/-- The class variables documented from `start` on and before `stop`. -/
def classVariables (source : Source) (start stop : Nat) : Except ScanError (List ClassVariable) :=
  (collect (ReferencePages.findClassVariable stop) start start (source.linesFrom start)).map
    fun found => found.map (·.1)

/-- The end of a constructor's body: the next function header or the next class header, whichever
comes first. -/
def constructorEnd (source : Source) (classLines : List Nat) (header : FunctionHeader)
    (later : List (FunctionHeader × Nat)) : Nat :=
  let nextFunction := (later.head?.map (·.1.line)).getD source.lines.length
  let nextClass := (classLines.find? (header.line < ·)).getD source.lines.length
  min nextFunction nextClass

/-- The fields documented in the constructors among the function headers. -/
def constructorFields (source : Source) (classLines : List Nat) :
    List (FunctionHeader × Nat) → Except ScanError (List Field)
  | [] => .ok []
  | (header, next) :: later =>
    if header.name = constructorName then
      match source.fields next (source.constructorEnd classLines header later) with
      | .error error => .error error
      | .ok found => (source.constructorFields classLines later).map (found ++ ·)
    else source.constructorFields classLines later

/-! ### Classes -/

/-- The members of a class that is an enumeration, none for any other class. -/
def membersOf (source : Source) (header : ClassHeader) (bodyStart spanEnd : Nat) :
    Except Fault (List EnumValue) :=
  if namesEnum header.bases then
    source.enumValues bodyStart (min (source.topLevelEnd bodyStart) spanEnd) header.bodyIndent
  else .ok []

/-- The record of a class, without functions and fields, whose body starts at `bodyStart` and ends
before `spanEnd`. -/
def classRecord (source : Source) (header : ClassHeader) (bodyStart spanEnd : Nat) :
    Except Fault ClassRecord := do
  let documented ← orFault (source.classVariables bodyStart spanEnd)
  let members ← source.membersOf header bodyStart spanEnd
  return {
    name := header.name
    bases := header.bases
    description := header.description
    classVariables := documented
    fields := []
    functions := []
    enumValues := members
    position := header.line }

/-- The records of the classes; each one's lines end where the next header stands. -/
def classRecords (source : Source) :
    List (ClassHeader × Nat) → Except Fault (List ClassRecord)
  | [] => .ok []
  | (header, bodyStart) :: later => do
    let spanEnd := (later.head?.map (·.1.line)).getD source.lines.length
    let first ← source.classRecord header bodyStart spanEnd
    let rest ← source.classRecords later
    return first :: rest

/-- The first class with the functions and fields below its header; the others as they are. -/
def withFunctions (source : Source) (headers : List (ClassHeader × Nat)) :
    List ClassRecord → Except ScanError (List ClassRecord)
  | [] => .ok []
  | first :: others =>
    match headers with
    | [] => .ok (first :: others)
    | (owner, bodyStart) :: _ => do
      let functions ← source.functionHeaders bodyStart owner.bodyIndent
      let fields ← source.constructorFields (headers.map (·.1.line)) functions
      let shown := (functions.map (·.1)).filter (! ·.isHidden)
      return { first with
        functions := shown.map (functionRecord owner.name)
        fields := fields } :: others

/-- In strict mode, a second class is refused. -/
def checkStrict (strict : Bool) (headers : List (ClassHeader × Nat)) : Except ScanError Unit :=
  match strict, headers with
  | true, _ :: (second, _) :: _ => .error (.secondClass second.line second.name)
  | _, _ => .ok ()

/-- The classes that a source documents, in order. -/
def assemble (source : Source) (strict : Bool) : Except Fault (List ClassRecord) := do
  let headers ← orFault source.classHeaders
  orFault (checkStrict strict headers)
  let classes ← source.classRecords headers
  orFault (source.withFunctions headers classes)

end Source

end ReferencePages
