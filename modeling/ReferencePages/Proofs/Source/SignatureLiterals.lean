/-
**The literals of a declared signature.**

The search for functions hands on the text between the outer parentheses of a header with its words one
space apart. Brackets and literals are followed while that text is read, and no longer when it is spaced.

* `params_of_functionHeaderAt`: the parameter text of a header that ends on its line;
* `findFunction_literals`: **the literals of a shown header are the literals between its parentheses,
  one for one, and those that are evenly spaced stand there as they are written**; so do the defaults
  of its parameters.

A hidden function has no parameter text, and a literal with two blanks side by side is not shown as it
is written (`literals_differ`).
-/

import ReferencePages.Proofs.Declaration.Spacing
import ReferencePages.Proofs.Source.HeaderLayout

namespace ReferencePages

open Text Declaration

/-- A shown header that ends on its line has the words between its parentheses, one space apart. -/
theorem params_of_functionHeaderAt {marked : Bool} {pos next : Nat} {declared : FunctionLine}
    (ends : (Reading.params 0).after declared.rest = .ended) {below : List Line}
    {header : FunctionHeader} (isHeader : functionHeaderAt marked pos declared below = .ok (header, next))
    (shown : header.isHidden = false) :
    header.params = squeeze ((Reading.params 0).kept declared.rest) := by
  have visible : ¬ isHiddenFunction declared.name = true := by
    rw [← (functionHeaderAt_eq_ok isHeader).2.2, shown]
    decide
  unfold functionHeaderAt readSignature at isHeader
  simp only at isHeader
  rw [if_neg visible, signatureFrom_ended ends] at isHeader
  obtain ⟨doc, -, same⟩ := map_eq_ok isHeader
  cases same
  rfl

/-- The header that a search stops at is the one declared on its line. -/
theorem Source.functionHeaderAt_of_findFunction {source : Source} {above below : List Line} {line : Line}
    {declared : FunctionLine} (isLines : source.lines = above ++ line :: below)
    (reads : FunctionLine.read? line = some declared) {start next : Nat} {indents : List Nat}
    {header : FunctionHeader} (found : source.findFunction start indents = .ok (some (header, next)))
    (here : header.line = above.length) :
    ∃ marked, functionHeaderAt marked above.length declared below = .ok (header, next) := by
  have late : start ≤ above.length := here ▸ le_line_of_findFunctionFrom found
  have position : start + (above.drop start).length = above.length := by
    rw [List.length_drop]
    omega
  unfold Source.findFunction ReferencePages.findFunction Source.linesFrom at found
  rw [isLines, List.drop_append_of_le_length late] at found
  obtain ⟨marked, isHeader, -⟩ := findFunctionFrom_append reads found (by rw [here, position])
  rw [position] at isHeader
  exact ⟨marked, isHeader⟩

/-- **Evenly spaced literals are shown as they are written.** A shown header that ends on its line is
found with one literal for each literal between its outer parentheses, in order, and with one parameter
for each parameter declared there; a literal or a default that is evenly spaced is the same in both. -/
theorem Source.findFunction_literals {source : Source} {above below : List Line} {line : Line}
    {declared : FunctionLine} (isLines : source.lines = above ++ line :: below)
    (reads : FunctionLine.read? line = some declared)
    (ends : (Reading.params 0).after declared.rest = .ended)
    {start next : Nat} {indents : List Nat} {header : FunctionHeader}
    (found : source.findFunction start indents = .ok (some (header, next)))
    (here : header.line = above.length) (shown : header.isHidden = false) :
    ∃ inside close tail, declared.rest = inside ++ close :: tail ∧ isClosing close = true ∧
      (Reading.params 0).after inside = .params 0 ∧
      List.Forall₂ (fun written shown => EvenlySpaced written → shown = written)
        (literals inside) (literals header.params) ∧
      List.Forall₂ (fun written shown => ∀ default, written.default = some default →
          EvenlySpaced default → shown.default = some default)
        (DeclaredParam.readAll inside) (DeclaredParam.readAll header.params) := by
  obtain ⟨marked, isHeader⟩ := source.functionHeaderAt_of_findFunction isLines reads found here
  have outside : (Reading.params 0).nesting? = some .initial := rfl
  obtain ⟨inside, close, tail, isRest, closes, opened, closed, isKept⟩ :=
    Reading.exists_closing outside ends
  have isParams : header.params = squeeze inside := by
    rw [params_of_functionHeaderAt ends isHeader shown, isKept]
  refine ⟨inside, close, tail, isRest, closes, opened, ?_, ?_⟩
  · rw [isParams, literals_squeeze closed, List.forall₂_map_right_iff, List.forall₂_same]
    exact fun literal _ even => oneSpaced_eq_self_iff.mpr even
  · rw [isParams, DeclaredParam.readAll_squeeze, List.forall₂_map_right_iff, List.forall₂_same]
    intro p member default isDefault even
    have trimmed := ((DeclaredParam.legible_readAll inside).1 p member).default_trimmed default isDefault
    have same : squeeze default = default := by
      rw [squeeze_eq_oneSpaced, trimmed]
      exact oneSpaced_eq_self_iff.mpr even
    rw [DeclaredParam.squeezed, isDefault, Option.map_some, same]

/-- The text behind the opening parenthesis of a header. Its literals hold a comma, an escaped quote,
brackets and a run of blanks. -/
def joinText : Text :=
  "items,\t sep=', ', *, end : str = \"\\\") \", pad=['(', \"  \"]) -> str: # done".toList

def joinLine : Line := "  async def join(".toList ++ joinText

def joinHeader : FunctionHeader where
  name := "join".toList
  line := 1
  indent := 2
  isHidden := false
  markedStatic := false
  params := "items, sep=', ', *, end : str = \"\\\") \", pad=['(', \" \"]".toList
  doc := none

theorem Source.findFunction_literals_sample :
    Source.findFunction ⟨"a.py".toList, [[], joinLine]⟩ 0 [0, 2] = .ok (some (joinHeader, 2)) ∧
      literals joinHeader.params =
        ["', '".toList, "\"\\\") \"".toList, "'('".toList, "\" \"".toList] ∧
      ∃ inside close tail, joinText = inside ++ close :: tail ∧ isClosing close = true ∧
        (Reading.params 0).after inside = .params 0 ∧
        List.Forall₂ (fun written shown => EvenlySpaced written → shown = written)
          (literals inside) (literals joinHeader.params) ∧
        List.Forall₂ (fun written shown => ∀ default, written.default = some default →
            EvenlySpaced default → shown.default = some default)
          (DeclaredParam.readAll inside) (DeclaredParam.readAll joinHeader.params) := by
  have found : Source.findFunction ⟨"a.py".toList, [[], joinLine]⟩ 0 [0, 2] =
      .ok (some (joinHeader, 2)) := by decide +kernel
  have reads : FunctionLine.read? joinLine = some ⟨2, "join".toList, joinText⟩ := by decide +kernel
  have ends : (Reading.params 0).after joinText = .ended := by decide +kernel
  have isLines : [[], joinLine] = [[]] ++ joinLine :: [] := rfl
  refine ⟨found, by decide +kernel, ?_⟩
  exact Source.findFunction_literals isLines reads ends found rfl rfl

def paddedHeader (name : Text) (isHidden : Bool) (params : Text) : FunctionHeader where
  name := name
  line := 0
  indent := 0
  isHidden := isHidden
  markedStatic := false
  params := params
  doc := none

/-- The literal of a hidden header is not shown at all; one with two spaces side by side is shown with
one of them. -/
theorem literals_differ :
    literals "sep=\", \"".toList = ["\", \"".toList] ∧
      Source.findFunction ⟨"a.py".toList, ["def _f(sep=\", \"):".toList]⟩ 0 [0] =
        .ok (some (paddedHeader "_f".toList true [], 1)) ∧
      literals "sep=\"a  b\"".toList = ["\"a  b\"".toList] ∧
      Source.findFunction ⟨"a.py".toList, ["def f(sep=\"a  b\"):".toList]⟩ 0 [0] =
        .ok (some (paddedHeader "f".toList false "sep=\"a b\"".toList, 1)) ∧
      literals "sep=\"a b\"".toList = ["\"a b\"".toList] := by
  decide +kernel

end ReferencePages
