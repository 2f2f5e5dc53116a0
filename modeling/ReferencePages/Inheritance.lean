/-
**Inherited members.**

* `merge`: the document of a class with the members it inherits. Members of the parents whose names
  the child does not have come after the child's own, parent by parent; the calls in an inherited
  function block are renamed to the child. A class without any constructor gets a bare one. When the
  plan has sections for the child, all functions are arranged by them;
* `inheritAll`: the page of a base class merged into the pages of its children.
-/

import ReferencePages.ClassLookup
import ReferencePages.Document
import ReferencePages.Reference

namespace ReferencePages

open Text Markdown

/-- A call of the class `name` in a signature line, up to and with the character `mark`. -/
def callOpening (name : Text) (mark : Char) : Text := "**`".toList ++ name ++ [mark]

/-- A function block with the calls of `parent` made calls of `child`. -/
def renameCalls (t parent child : Text) : Text :=
  if parent.isEmpty || child.isEmpty || parent = child then t
  else
    replaceAll (callOpening parent '.') (callOpening child '.')
      (replaceAll (callOpening parent '(') (callOpening child '(') t)

/-- The own members, followed by the inherited one when its name is new. -/
def addMember (own : List Member) (inherited : Member) : List Member :=
  if own.any (·.name = inherited.name) then own else own ++ [inherited]

namespace Document

/-- The document with an inherited function block when its name is new; calls of `parent` are
renamed. -/
def addFunction (parent : Text) (document : Document) (block : Text × Text) : Document :=
  if document.hasFunction block.1 then document
  else
    { document with
      functions := document.functions ++
        [.function block.1 (renameCalls block.2 parent document.title)] }

/-- The document with the members it inherits from `parent`. -/
def inherit (document parent : Document) : Document :=
  let withFunctions := parent.functionBlocks.foldl (addFunction parent.title) document
  { withFunctions with
    rows := parent.rows.foldl addMember document.rows
    fields := parent.fields.foldl addMember document.fields }

/-- The block of a constructor without parameters. -/
def bareConstructor (title : Text) : FunctionItem :=
  .function constructorName
    (functionHeading constructorName ++ "\n\n".toList ++ signatureLine (title ++ ['(', ')']))

/-- The document with a bare constructor when it has a title and no constructor. -/
def withConstructor (document : Document) : Document :=
  if document.hasFunction constructorName || document.title.isEmpty then document
  else { document with functions := bareConstructor document.title :: document.functions }

/-- The document with its functions arranged by the plan, when that has sections for the class. -/
def arranged (document : Document) (plan : Option Plan) : Document × List Warning :=
  if (planned? plan document.title).isSome then
    let (body, warnings) := arrange document.title document.functionBlocks plan
    ({ document with functions := readItems (marked body) }, warnings)
  else (document, [])

/-- The document with the members it inherits from the parents. -/
def inheritFrom (document : Document) (parents : List Document) : Document :=
  let merged := parents.foldl inherit document
  if parents.isEmpty then merged else merged.withConstructor

end Document

/-- The page of a class with the members it inherits, and what there is to report. -/
def merge (child : Text) (parents : List Text) (plan : Option Plan) : Page × List Warning :=
  let document := (Document.parse child).inheritFrom (parents.map Document.parse)
  let (shown, warnings) := document.arranged plan
  (Page.ofText shown.render, warnings)

/-- What became of a child. -/
structure Inherited where
  file : Text
  className : Text
  page : Except ScanError Page
  warnings : List Warning

/-- A child merged with the document of its base. Its functions are arranged after the merge, once
the inherited ones are there. -/
def inheritOne (base : Text) (overrides : Overrides) (plan : Option Plan) (options : DocOptions)
    (child : Source) : Except Fault Inherited :=
  let (className, lookup) := lookUpClass child overrides
  match child.reference none options with
  | .ok (page, _) =>
    let (merged, warnings) := merge page.text [base] plan
    .ok ⟨child.name, className, .ok merged, lookup.toList ++ warnings⟩
  | .error (.refused error) => .ok ⟨child.name, className, .error error, lookup.toList⟩
  | .error .reversedRange => .error .reversedRange

/-- The children merged with the document of their base, and what there is to report of the base.
A child that is refused stands for itself; only a base that is refused refuses the whole. -/
def inheritAll (base : Source) (children : List Source) (overrides : Overrides)
    (plan : Option Plan) (options : DocOptions) : Except Fault (List Warning × List Inherited) := do
  let (page, warnings) ← base.reference plan options
  let inherited ← children.mapM (inheritOne page.text overrides plan options)
  return (warnings ++ (lookUpClass base overrides).2.toList, inherited)

end ReferencePages
