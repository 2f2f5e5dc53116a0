/-
**The reference of a source.**

`Source.reference` reads a source and writes the page of its classes. How the classes are imported
depends on the package they belong to (`DocOptions.importPath`): a file whose first class the
package passes on is imported from the package itself.
-/

import ReferencePages.Assembly
import ReferencePages.ClassPage
import ReferencePages.FileName

namespace ReferencePages

open Text

/-- What holds for every document of a run. -/
structure DocOptions where
  /-- The package that the sources belong to. -/
  package : Option Text
  /-- The names that the package passes on. -/
  reexports : List Text
  /-- A file may hold one class only. -/
  strict : Bool

/-- The package without dots at its end, when something is left of it. -/
def DocOptions.packagePath? (options : DocOptions) : Option Text :=
  (options.package.map (dropEndWhile (· == '.'))).filter (! ·.isEmpty)

/-- The first class is one that the package passes on. -/
def DocOptions.passesOn (options : DocOptions) (classes : List ClassRecord) : Bool :=
  match classes with
  | first :: _ => options.reexports.contains first.name
  | [] => false

/-- Where the classes of a source are imported from. -/
def DocOptions.importPath (options : DocOptions) (source : Source) (classes : List ClassRecord) :
    Option Text :=
  options.packagePath?.map fun package =>
    if options.passesOn classes then package else package ++ ['.'] ++ fileStem source.name

/-- The page for all classes of a source, and what there is to report. -/
def Source.reference (source : Source) (plan : Option Plan) (options : DocOptions) :
    Except Fault (Page × List Warning) :=
  (source.assemble options.strict).map fun classes =>
    let (text, warnings) := classesText classes plan (options.importPath source classes)
    (Page.ofText text, warnings)

end ReferencePages
