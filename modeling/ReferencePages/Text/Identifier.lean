/-
**Identifiers.**

Names in declarations are written in ASCII letters, digits and underscores and do not open with a
digit. `identifier?` takes the longest name a text opens with.
-/

import ReferencePages.Text.Basic

namespace ReferencePages.Text

/-- An ASCII letter or an underscore. -/
def isNameStart (c : Char) : Bool := c.isAlpha || c == '_'

/-- An ASCII letter, digit or underscore. -/
def isNameRest (c : Char) : Bool := c.isAlphanum || c == '_'

/-- The longest name that the text opens with, and what follows it, where a name goes on with
characters that satisfy `more`. -/
def name? (more : Char → Bool) : Text → Option (Text × Text)
  | [] => none
  | c :: rest =>
    if isNameStart c then some (c :: rest.takeWhile more, rest.dropWhile more) else none

/-- The identifier that the text opens with, and what follows it. -/
def identifier? (t : Text) : Option (Text × Text) := name? isNameRest t

end ReferencePages.Text
