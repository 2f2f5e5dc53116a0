/-
**The plan of a reference.**

A plan gives, for some classes, the sections that their functions are arranged in. No function of a
class is listed twice: `Plan.insert` refuses sections that repeat one and names the first function
that is repeated. `Plan.read` reads a plan from JSON: an object of classes, each an object of
sections in the order they are shown. A section is an object with a list of `functions` and perhaps
a `description`, or the two in an array, description first.
-/

import ReferencePages.Json.Reader

namespace ReferencePages

/-- A section: its name, its description and the functions it lists. -/
structure Section where
  name : Text
  description : Text
  functions : List Text
  deriving DecidableEq

namespace Section

/-- The name of the section whose functions are left out. -/
def ignoreName : Text := "Ignore".toList

/-- The name of the section that is shown without a heading. -/
def constructorSection : Text := "Constructor".toList

/-- The functions of the section are left out. -/
def isIgnore (s : Section) : Bool := s.name = ignoreName

/-- The section is shown with a heading. -/
def hasHeading (s : Section) : Bool := s.name ≠ constructorSection

end Section

/-- Why a plan is refused. -/
inductive PlanError where
  /-- The text is not a JSON object. -/
  | malformed
  /-- What is given for a class is not an object of sections. -/
  | notAnObject (className : Text)
  /-- What is given for a section is not a section. -/
  | malformedSection (className name : Text)
  /-- A function is listed twice. -/
  | duplicateFunction (className function first second : Text)
  deriving DecidableEq

/-- The text of an error. -/
def PlanError.message : PlanError → Text
  | .malformed => "invalid metadata JSON".toList
  | .notAnObject className =>
    "metadata for `".toList ++ className ++ "` must be an object of sections".toList
  | .malformedSection className name =>
    "metadata section `".toList ++ className ++ ['.'] ++ name ++ "`".toList
  | .duplicateFunction className function first second =>
    "function `".toList ++ function ++ "` is listed in both `".toList ++ first ++
      "` and `".toList ++ second ++ "` of class `".toList ++ className ++ "`".toList

/-- The sections of some classes. The first entry of a class is the one that counts. -/
structure Plan where
  entries : List (Text × List Section)
  deriving DecidableEq

namespace Plan

/-- The plan that says nothing. -/
def empty : Plan := ⟨[]⟩

/-- The plan says nothing. -/
def isEmpty (plan : Plan) : Bool := plan.entries.isEmpty

/-- The sections of a class. -/
def sections? (plan : Plan) (className : Text) : Option (List Section) :=
  plan.entries.lookup className

/-- The plan has sections for the class. -/
def contains (plan : Plan) (className : Text) : Bool := (plan.sections? className).isSome

/-- Every function that the sections list, with the section that lists it. -/
def listings (sections : List Section) : List (Text × Text) :=
  sections.flatMap fun s => s.functions.map fun function => (function, s.name)

/-- The first function that is listed again, with the section of its first listing and its own;
`seen` holds the listings before. -/
def firstRepeat? (seen : List (Text × Text)) : List (Text × Text) → Option (Text × Text × Text)
  | [] => none
  | (function, owner) :: rest =>
    match seen.lookup function with
    | some first => some (function, first, owner)
    | none => firstRepeat? ((function, owner) :: seen) rest

/-- The plan with the given sections for a class, unless they list a function twice. -/
def insert (plan : Plan) (className : Text) (sections : List Section) : Except PlanError Plan :=
  match firstRepeat? [] (listings sections) with
  | some (function, first, second) =>
    .error (.duplicateFunction className function first second)
  | none => .ok ⟨(className, sections) :: plan.entries⟩

/-! ### Reading a plan -/

/-- The description under its key: empty when it is missing, but a text when it is there. -/
def description? (members : Json.Members) : Option Text :=
  match members.get? "description".toList with
  | none => some []
  | some (.text value) => some value
  | some _ => none

/-- A list of function names. -/
def functions? : Json → Option (List Text)
  | .array items => Json.texts? items
  | _ => none

/-- The section that a value describes. -/
def section? (name : Text) : Json → Option Section
  | .object members => do
    let functions ← functions? (← Json.Members.get? members "functions".toList)
    return ⟨name, ← description? members, functions⟩
  | .array [.text description, listed] =>
    (functions? listed).map fun functions => ⟨name, description, functions⟩
  | _ => none

/-- The sections that the members of an object describe. -/
def readSections (className : Text) : Json.Members → Except PlanError (List Section)
  | [] => .ok []
  | (name, body) :: rest =>
    match section? name body with
    | none => .error (.malformedSection className name)
    | some first => (readSections className rest).map (first :: ·)

/-- The plan with the classes that the members of an object describe. -/
def readClasses (plan : Plan) : Json.Members → Except PlanError Plan
  | [] => .ok plan
  | (className, .object members) :: rest => do
    let sections ← readSections className members
    readClasses (← plan.insert className sections) rest
  | (className, _) :: _ => .error (.notAnObject className)

/-- The plan that a text describes. -/
def read (t : Text) : Except PlanError Plan :=
  match Json.read? t with
  | some (.object members) => readClasses empty members
  | _ => .error .malformed

end Plan

end ReferencePages
