/-
**The page of a class.**

* `classPage`: one class, its functions arranged by a plan;
* `classesText`: all classes of a file, in file order.
-/

import ReferencePages.Arrangement
import ReferencePages.Contents
import ReferencePages.Markdown.Layout

namespace ReferencePages

open Text Markdown

/-- The section of some members, when there are any. -/
def memberSection {α : Type} (members : List α) (write : α → Text) (layOut : List Text → Text) :
    List Text :=
  if members.isEmpty then [] else [layOut (members.map write)]

/-- The function blocks of a class. -/
def functionBlocks (c : ClassRecord) : List FunctionBlock :=
  c.functions.map fun f => (f.name, functionBlock f)

/-- The sections of a class document around the arranged function blocks. -/
def classSections (c : ClassRecord) (functions : Text) : List Text :=
  memberSection c.classVariables variableRow variablesSection ++
    memberSection c.fields fieldItem fieldsSection ++
    (if functions.isEmpty then [] else [functionsSection functions])

/-- The page of a class, and what there is to report. -/
def classPage (c : ClassRecord) (plan : Option Plan) (importPath : Option Text) :
    Page × List Warning :=
  let (functions, warnings) := arrange c.name (functionBlocks c) plan
  (Page.ofText (joinSections (preamble c importPath) (classSections c functions)), warnings)

/-- The text for all classes of a file, and what there is to report. -/
def classesText (classes : List ClassRecord) (plan : Option Plan) (importPath : Option Text) :
    Text × List Warning :=
  let pages := classes.map fun c => classPage c plan importPath
  (joinDocuments (pages.map (·.1.text)), pages.flatMap (·.2))

end ReferencePages
