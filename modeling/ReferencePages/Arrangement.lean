/-
**Arranging functions.**

`arrange` puts the function blocks of a class in order. A class without sections keeps the order it
has; a class with sections shows, section by section, the first block of each function listed.
Functions of the ignored section are left out. A listed function without a block is reported, and so
is a block that no section lists.
-/

import ReferencePages.Markdown.Escape
import ReferencePages.Plan
import ReferencePages.Warning

namespace ReferencePages

open Text Markdown

/-- A function block with the name of its function. -/
abbrev FunctionBlock := Text × Text

namespace Arrangement

/-- The heading of a section and its description. -/
def sectionOpening (s : Section) : List Text :=
  if s.hasHeading then
    ("### ".toList ++ s.name) ::
      (if allBlank s.description then [] else [escapeText (trim s.description)])
  else []

/-- The blocks that a section shows. -/
def sectionBlocks (blocks : List FunctionBlock) (s : Section) : List Text :=
  s.functions.filterMap fun name => blocks.lookup name

/-- The functions that a section lists and that have no block. -/
def sectionUnknown (blocks : List FunctionBlock) (s : Section) : List Text :=
  s.functions.filter fun name => (blocks.lookup name).isNone

/-- The text of a section, if there is anything to show. -/
def sectionText? (blocks : List FunctionBlock) (s : Section) : Option Text :=
  match sectionOpening s ++ sectionBlocks blocks s with
  | [] => none
  | parts => some (joinParagraphs parts)

/-- Some section lists the function. -/
def isListed (sections : List Section) (name : Text) : Bool :=
  sections.any fun s => s.functions.contains name

/-- The blocks of a class with sections. -/
def bySections (className : Text) (blocks : List FunctionBlock) (sections : List Section) :
    Text × List Warning :=
  let shown := sections.filter (! ·.isIgnore)
  let unknown := (shown.flatMap (sectionUnknown blocks)).map (.unknownFunction className)
  let uncategorized := ((blocks.map (·.1)).filter (! isListed sections ·)).map
    (.uncategorized className)
  (joinParagraphs (shown.filterMap (sectionText? blocks)), unknown ++ uncategorized)

end Arrangement

/-- The sections that a plan, if there is one, has for a class. -/
def planned? (plan : Option Plan) (className : Text) : Option (List Section) :=
  plan.bind (·.sections? className)

/-- The function blocks of a class in order, and what there is to report. -/
def arrange (className : Text) (blocks : List FunctionBlock) (plan : Option Plan) :
    Text × List Warning :=
  match planned? plan className with
  | some sections => Arrangement.bySections className blocks sections
  | none => (joinParagraphs (blocks.map (·.2)), [])

end ReferencePages
