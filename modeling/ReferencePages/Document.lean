/-
**Documents read back.**

A document of a class is read back into its parts: its title, its preamble, the rows, bullets and
blocks of its members, its other sections, and whatever starts with a second title. `Document.parse`
takes any text; `Document.render` writes the parts in the layout of class documents.
-/

import ReferencePages.Markdown.Heading
import ReferencePages.Markdown.Layout

namespace ReferencePages

open Text Markdown

/-- A row of a table or a bullet, with the name it shows. -/
structure Member where
  name : Text
  text : Text
  deriving DecidableEq

/-- An entry of the section of functions. -/
inductive FunctionItem where
  /-- The block of a function. -/
  | function (name text : Text)
  /-- The heading of a section, with its description. -/
  | heading (text : Text)
  deriving DecidableEq

/-- The text of an entry. -/
def FunctionItem.text : FunctionItem → Text
  | .function _ text => text
  | .heading text => text

/-- The function block that an entry is, with its name. -/
def FunctionItem.block? : FunctionItem → Option (Text × Text)
  | .function name text => some (name, text)
  | .heading _ => none

/-- The parts of a document. -/
structure Document where
  /-- The text of the first heading of the first level. -/
  title : Text
  preamble : Text
  /-- The rows of class variables. -/
  rows : List Member
  fields : List Member
  functions : List FunctionItem
  /-- The other sections of the second level. -/
  extra : List Text
  /-- Everything from the second heading of the first level on. -/
  trailer : Text
  deriving DecidableEq

namespace Document

/-! ### Members -/

/-- The line is blank or a rule. -/
def isBlankOrRule (line : Line) : Bool := allBlank line || trim line = rule

/-- The lines without the blank ones at the start and without the blank ones and rules at the
end. -/
def trimLines (lines : List Line) : List Line :=
  ((lines.dropWhile allBlank).reverse.dropWhile isBlankOrRule).reverse

/-- The lines of a part as one text. -/
def partText (lines : List Line) : Text := joinLines (trimLines lines)

/-- The name in backticks that a line shows right after its opening mark. -/
def shownName? (mark : String) (line : Line) : Option Text := do
  let rest ← after? mark.toList line
  let (name, _) ← cutAt? '\x60' rest
  return name

/-- The rows of a table that show a name. -/
def readRows (lines : List Line) : List Member :=
  lines.filterMap fun line => (shownName? "| `" line).map fun name => ⟨name, line⟩

/-- The bullets that show a name, each with the lines below it. -/
def readBullets (lines : List Line) : List Member :=
  (groups (shownName? "- `") lines).2.map fun bullet =>
    ⟨bullet.key, trimEnd (joinLines bullet.all)⟩

/-- The heading that starts an entry of the section of functions. -/
def itemHeading? (line : MarkedLine) : Option Heading :=
  line.heading.filter fun heading => heading.level == 3 || heading.level == 4

/-- The entry that a group of lines below a heading makes. -/
def itemOf (group : Group MarkedLine Heading) : FunctionItem :=
  let text := partText (group.all.map (·.text))
  if group.key.level == 4 then .function (unescape group.key.text) text else .heading text

/-- The entries of the section of functions. -/
def readItems (lines : List MarkedLine) : List FunctionItem :=
  (groups itemHeading? lines).2.map itemOf

/-! ### Reading -/

/-- The lines before the second heading of the first level, and the lines from it on. -/
def cutSecondTitle (lines : List MarkedLine) : List MarkedLine × List MarkedLine :=
  let isTitle (line : MarkedLine) : Bool := (line.headingAt? 1).isSome
  let below := lines.dropWhile (! isTitle ·)
  (lines.takeWhile (! isTitle ·) ++ below.take 1 ++ (below.drop 1).takeWhile (! isTitle ·),
    (below.drop 1).dropWhile (! isTitle ·))

/-- The text of the first heading of the first level. -/
def titleOf (lines : List MarkedLine) : Text :=
  ((lines.findSome? (·.headingAt? 1)).map fun heading => unescape heading.text).getD []

/-- The document with one more section of the second level. -/
def addSection (document : Document) (group : Group MarkedLine Heading) : Document :=
  let title := unescape group.key.text
  let body := trimLines (group.body.map (·.text))
  if title = variablesTitle then { document with rows := readRows body }
  else if title = fieldsTitle then { document with fields := readBullets body }
  else if title = functionsTitle then { document with functions := readItems group.body }
  else { document with extra := document.extra ++ [partText (group.all.map (·.text))] }

/-- The parts of a text. -/
def parse (t : Text) : Document :=
  let lines := marked t
  let (own, trailer) := cutSecondTitle lines
  let (preamble, sections) := groups (·.headingAt? 2) own
  sections.foldl addSection
    { title := titleOf lines
      preamble := partText (preamble.map (·.text))
      rows := []
      fields := []
      functions := []
      extra := []
      trailer := trimEnd (joinLines (trailer.map (·.text))) }

/-- The function blocks of a document, with their names. -/
def functionBlocks (document : Document) : List (Text × Text) :=
  document.functions.filterMap FunctionItem.block?

/-- The document has a block for the function. -/
def hasFunction (document : Document) (name : Text) : Bool :=
  document.functionBlocks.any (·.1 = name)

/-! ### Writing -/

/-- The sections of a document, in the order of the layout. -/
def sections (document : Document) : List Text :=
  (if document.rows.isEmpty then []
    else [variablesSection (document.rows.map (·.text))]) ++
  (if document.fields.isEmpty then [] else [fieldsSection (document.fields.map (·.text))]) ++
  (if document.functions.isEmpty then []
    else [functionsSection (joinParagraphs (document.functions.map (·.text)))]) ++
  document.extra

/-- The document as a text. -/
def render (document : Document) : Text :=
  joinSections document.preamble document.sections ++
    (if document.trailer.isEmpty then [] else ['\n'] ++ document.trailer ++ ['\n'])

end Document

end ReferencePages
