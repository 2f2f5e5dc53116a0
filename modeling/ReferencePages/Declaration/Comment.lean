/-
**Comments at the end of a line.**

A comment starts at the first `#` that is not inside a string literal. Here a literal runs from a
quote to the next quote of the same kind, whatever stands between them.
-/

import ReferencePages.Text.Basic

namespace ReferencePages.Declaration

/-- A character that opens and closes string literals. -/
def isQuote (c : Char) : Bool := c == '\'' || c == '"'

/-- The text before the comment, and the comment without its mark; `quote` is the quote that the
literal under way was opened with. -/
def splitCommentFrom (quote : Option Char) : Text → Text × Option Text
  | [] => ([], none)
  | c :: rest =>
    match quote with
    | some q =>
      let (code, comment) := splitCommentFrom (if c == q then none else some q) rest
      (c :: code, comment)
    | none =>
      if c == '#' then ([], some rest)
      else
        let (code, comment) := splitCommentFrom (if isQuote c then some c else none) rest
        (c :: code, comment)

/-- The text before the comment, and the comment without its mark. -/
def splitComment (t : Text) : Text × Option Text := splitCommentFrom none t

/-- The text without its comment. -/
def stripComment (t : Text) : Text := (splitComment t).1

end ReferencePages.Declaration
