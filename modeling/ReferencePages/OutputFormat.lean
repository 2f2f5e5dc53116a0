/-
**Output formats.**

The classes of a source are written as markdown, arranged by a plan, or as JSON, as they are.
-/

import ReferencePages.ClassPage
import ReferencePages.Json.Printer

namespace ReferencePages

/-- The formats of a document. -/
inductive OutputFormat where
  | markdown
  | json
  deriving DecidableEq

/-- The format of the given name. -/
def OutputFormat.ofName? (name : Text) : Option OutputFormat :=
  if name = "markdown".toList || name = "md".toList then some .markdown
  else if name = "json".toList then some .json
  else none

/-- The message for a name that names no format. -/
def unknownFormatMessage (name : Text) : Text :=
  "unknown output format: ".toList ++ name ++ " (expected markdown or json)".toList

/-- The extension of files in a format. -/
def OutputFormat.extension : OutputFormat → Text
  | .markdown => "md".toList
  | .json => "json".toList

/-- The classes of a source as JSON. -/
def classesJson (classes : List ClassRecord) (importPath : Option Text) : Json :=
  .object (optionMember "import_path" importPath ++
    listMember "classes" (classes.map ClassRecord.toJson))

/-- The classes of a source in a format, and what there is to report. -/
def OutputFormat.render (format : OutputFormat) (classes : List ClassRecord) (plan : Option Plan)
    (importPath : Option Text) : Text × List Warning :=
  match format with
  | .markdown => classesText classes plan importPath
  | .json => ((classesJson classes importPath).print ++ ['\n'], [])

end ReferencePages
