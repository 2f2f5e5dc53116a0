/-
**Names that a package passes on.**

A package passes on the names that its initial file imports from its own modules:
`from .module import Name, Other as Alias`. A list in parentheses may run over several lines. Names
come in the order of their first occurrence, under the name they have in the module.
-/

import ReferencePages.Declaration.Comment
import ReferencePages.Declaration.Header
import ReferencePages.Source.Basic

namespace ReferencePages

open Declaration Text

/-- A character of a relative module path. -/
def isModulePathChar (c : Char) : Bool := isNameRest c || c == '.'

/-- The list of names in an import from a module of the same package. -/
def relativeImport? (line : Line) : Option Text := do
  let path ← after? ['.'] (← afterWord? "from" line)
  let imported ← afterPads? (path.dropWhile isModulePathChar)
  let names ← after? "import".toList imported
  (afterPads? names).map fun list => trim (stripComment list)

/-- The list waits for a closing parenthesis. -/
def isUnclosed (list : Text) : Bool := list.head? = some '(' && ! list.contains ')'

/-- The import lists of the lines; `unclosed` is a list that waits for its closing parenthesis. -/
def importLists : (unclosed : Option Text) → List Line → List Text
  | unclosed, [] => unclosed.toList
  | none, line :: rest =>
    match relativeImport? line with
    | none => importLists none rest
    | some list =>
      if isUnclosed list then importLists (some list) rest else list :: importLists none rest
  | some list, line :: rest =>
    let longer := list ++ [','] ++ stripComment line
    if longer.contains ')' then longer :: importLists none rest
    else importLists (some longer) rest

/-- The names in an import list; an alias is passed over, and so is a star. -/
def importedNames (list : Text) : List Text :=
  let inner := before (· == ')') (list.dropWhile (· == '('))
  ((inner.splitOn ',').filterMap fun item => (words item).head?).filter (· ≠ ['*'])

/-- The names that the source passes on, each once. -/
def Source.reexports (source : Source) : List Text :=
  ((importLists none source.lines).flatMap importedNames).eraseDups

end ReferencePages
