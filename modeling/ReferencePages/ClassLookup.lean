/-
**The class of a file.**

`lookUpClass` gives the class that a file's name promises, or its override, and warns when the file
does not declare it. `directoryContents` lists files by their classes, each linked to its page.
-/

import ReferencePages.Contents
import ReferencePages.FileName
import ReferencePages.Source.Basic
import ReferencePages.Warning

namespace ReferencePages

open Text Markdown

/-- Actual class names by the names that files promise. The last pair of a name counts. -/
abbrev Overrides := List (Text × Text)

/-- The override of a class name. -/
def Overrides.get? (overrides : Overrides) (expected : Text) : Option Text :=
  overrides.reverse.lookup expected

/-- The class that a file's name promises, after overrides. -/
def resolvedClass (path : Text) (overrides : Overrides) : Text :=
  (overrides.get? (expectedClass path)).getD (expectedClass path)

/-- The name that a line declares: a class at the left margin, or a heading of the first level. -/
def declaredName? (line : Line) : Option Text :=
  let candidate := match after? "class ".toList line with
    | some rest => some (before (fun c => c == '(' || c == ':') rest)
    | none => after? "# ".toList line
  (candidate.map trim).filter (! ·.isEmpty)

/-- The names that a source or a document declares, each once. -/
def declaredClasses (t : Text) : List Text := ((lines t).filterMap declaredName?).eraseDups

/-- The class of a file, with a warning when the file does not declare it. -/
def lookUpClass (file : Source) (overrides : Overrides) : Text × Option Warning :=
  let expected := resolvedClass file.name overrides
  let declared := declaredClasses file.text
  if declared.contains expected then (expected, none)
  else (expected, some (.nameLookup file.name expected declared.head?))

/-- The page of a file as a link target. -/
def pageLink (directory : Text) (stem className : Text) : Text :=
  let page := stem ++ ".md#".toList ++ anchor className
  if directory.isEmpty then page else directory ++ ['/'] ++ page

/-- The import statement behind an entry. -/
def importNote (package stem className : Text) : Text :=
  " — `from ".toList ++ package ++ ['.'] ++ stem ++ " import ".toList ++ className ++ "`".toList

/-- The entry of a file, linked under `directory` and imported from `package`. -/
def directoryEntry (package : Option Text) (directory : Text) (file : Source) (className : Text) :
    Text :=
  let stem := fileStem file.name
  linkItem className (pageLink directory stem className) ++
    ((package.filter (! ·.isEmpty)).map (importNote · stem className)).getD [] ++ ['\n']

/-- The table of contents of several files, and what there is to report. -/
def directoryContents (files : List Source) (package : Option Text) (linkDirectory : Text)
    (overrides : Overrides) : Text × List Warning :=
  let directory := dropEndWhile (· == '/') linkDirectory
  (files.flatMap fun file =>
      directoryEntry package directory file (lookUpClass file overrides).1,
    files.flatMap fun file => (lookUpClass file overrides).2.toList)

end ReferencePages
