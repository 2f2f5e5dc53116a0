/-
**The layout of a class document.**

A document is a preamble and sections of the second level, a rule between each two of them. Members
are shown as rows of tables, as bullets and as blocks under headings of the fourth level:

* `variableRow`, `fieldItem`, `functionBlock`: one member;
* `variablesSection`, `fieldsSection`, `functionsSection`: a section of them;
* `joinSections`, `joinDocuments`: sections to a document, documents to one text.
-/

import ReferencePages.Markdown.Escape
import ReferencePages.Record

namespace ReferencePages.Markdown

open Text

/-- The heading of the section of class variables. -/
def variablesTitle : Text := "Class Variables".toList

/-- The heading of the section of fields. -/
def fieldsTitle : Text := "Fields".toList

/-- The heading of the section of functions. -/
def functionsTitle : Text := "Functions".toList

/-- The rule between sections. -/
def rule : Text := "***".toList

/-! ### Documents -/

/-- A preamble and sections as a document. -/
def joinSections (preamble : Text) (sections : List Text) : Text :=
  trimEnd preamble ++
    (sections.flatMap fun s => "\n\n".toList ++ rule ++ "\n\n".toList ++ trimEnd s) ++ ['\n']

/-- Documents as one text. -/
def joinDocuments (documents : List Text) : Text :=
  joinParagraphs (documents.map trimEnd) ++ ['\n']

/-- A section of the second level. -/
def titled (title body : Text) : Text := "## ".toList ++ title ++ "\n\n".toList ++ body

/-! ### Tables -/

/-- A row of a table. -/
def row (cells : List Text) : Text :=
  ['|', ' '] ++ join [' ', '|', ' '] cells ++ [' ', '|']

/-- A text as code. -/
def code (t : Text) : Text := ['\x60'] ++ t ++ ['\x60']

/-- A table with the given columns. -/
def table (columns : List String) (rows : List Text) : Text :=
  joinLines (row (columns.map (·.toList)) :: row (columns.map fun _ => "---".toList) :: rows)

/-- The columns of a table of variables. -/
def variableColumns : List String := ["Variable", "Type", "Value", "Description"]

/-- The columns of a table of parameters. -/
def parameterColumns : List String := ["Parameter", "Type", "Default", "Description"]

/-- The columns of a table of enum values. -/
def enumColumns : List String := ["Name", "Value", "Description"]

/-- The row of a class variable. -/
def variableRow (v : ClassVariable) : Text :=
  row [code v.name, cell (v.declaredType.getD []), cell (v.value.getD []), cell v.description]

/-- The row of a module variable. -/
def moduleVariableRow (v : ModuleVariable) : Text :=
  row [code v.name, cell v.declaredType, cell v.value, cell v.description]

/-- The row of a parameter. -/
def parameterRow (p : Parameter) : Text :=
  row [code p.name, cell p.declaredType, cell (p.default.getD []), cell p.description]

/-- The row of an enum value. -/
def enumRow (v : EnumValue) : Text := row [code v.name, code (cell v.value), cell v.description]

/-- The section with the given rows of class variables. -/
def variablesSection (rows : List Text) : Text :=
  titled variablesTitle (table variableColumns rows)

/-- The table of module variables, nothing when there are none. -/
def moduleVariableTable (documented : List ModuleVariable) : Text :=
  if documented.isEmpty then []
  else table variableColumns (documented.map moduleVariableRow) ++ ['\n']

/-! ### Fields -/

/-- A further line of a bullet. -/
def continuation (line : Line) : Text := if line.isEmpty then [] else ' ' :: ' ' :: line

/-- The bullet of a field. Its further lines are indented. -/
def fieldItem (f : Field) : Text :=
  ['-', ' '] ++ code f.name ++
    match lines f.description with
    | [] => []
    | first :: rest => " — ".toList ++ joinLines (first :: rest.map continuation)

/-- The section with the given bullets. -/
def fieldsSection (items : List Text) : Text := titled fieldsTitle (joinLines items)

/-! ### Functions -/

/-- The heading of a function. -/
def functionHeading (name : Text) : Text := "#### ".toList ++ escapeHeading name

/-- A call signature in bold. -/
def signatureLine (signature : Text) : Text := "**`".toList ++ signature ++ "`**".toList

/-- The text as a part, when it is not empty. -/
def part (t : Text) (shown : Text) : List Text := if t.isEmpty then [] else [shown]

/-- A function: its heading, its calls, its description, its parameters and what it returns. -/
def functionBlock (f : FunctionRecord) : Text :=
  joinParagraphs (
    [functionHeading f.name] ++
    f.signatures.map signatureLine ++
    part f.body (escapeText f.body) ++
    (if f.parameters.isEmpty then []
      else [table parameterColumns (f.parameters.map parameterRow)]) ++
    f.returns.toList.map fun returns => "_Returns:_ ".toList ++ escapeText returns)

/-- The section with the given function blocks, already joined. -/
def functionsSection (body : Text) : Text := titled functionsTitle (trimEnd body)

/-! ### Preamble -/

/-- The line that shows how a class is imported. -/
def importLine (path name : Text) : Text :=
  code ("from ".toList ++ path ++ " import ".toList ++ name)

/-- The heading, the import line, the description and the enum values of a class. -/
def preamble (c : ClassRecord) (importPath : Option Text) : Text :=
  joinParagraphs (
    ["# ".toList ++ c.name] ++
    (importPath.toList.map fun path => importLine path c.name) ++
    part c.description (escapeText c.description) ++
    (if c.enumValues.isEmpty then [] else [table enumColumns (c.enumValues.map enumRow)]))

end ReferencePages.Markdown
