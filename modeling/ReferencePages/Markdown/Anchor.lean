/-
**Anchors.**

The anchor of a heading is its text in lower case, kept to letters, digits, spaces, hyphens and
underscores, with hyphens for spaces.
-/

import ReferencePages.Text.Alphanumeric
import ReferencePages.Text.CaseMap

namespace ReferencePages.Markdown

/-- A character that an anchor keeps. -/
def isAnchorChar (c : Char) : Bool :=
  Text.isAlphanumeric c || c == ' ' || c == '-' || c == '_'

/-- The anchor of a heading with the given text. -/
def anchor (t : Text) : Text :=
  ((Text.lower t).filter isAnchorChar).map fun c => if c == ' ' then '-' else c

end ReferencePages.Markdown
