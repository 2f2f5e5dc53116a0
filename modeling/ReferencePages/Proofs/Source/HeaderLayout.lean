/-
**The layout of a function header does not matter.**

A header that ends on its line may be broken at blanks outside literals. The search for functions finds
the same header: only its first line is looked at until the parentheses open, and its signature is read
to the same parameter text.

* `FunctionLine.read?_append`: what follows the opening parenthesis does not change the declaration;
* `findFunctionFrom_append`: what stands on and below the line of a header that is found does not
  change how the lines above it are searched;
* `findFunction_layout`: **the header is found with the same name, marks and parameters**, and its
  block as many lines further down as the breaks add; the search resumes as many lines further down,
  unless the function is hidden.

A hidden function is reported without reading its signature, so the search resumes on the second line
of its header (`hidden_header_resumes`).
-/

import ReferencePages.Proofs.Declaration.SignatureLayout
import ReferencePages.Proofs.Source.Bounds
import ReferencePages.Proofs.Source.Displacement

namespace ReferencePages

open Text Declaration

namespace Declaration

/-! ### The line of a declaration -/

section Opened

variable {t : Text}

/-- A character that fails a test stands behind a first one that passes it. -/
theorem mem_of_mem_cons {p : Char → Bool} {c d : Char} {rest : Text} (member : c ∈ d :: rest)
    (stops : p c = false) (goesOn : p d = true) : c ∈ rest := by
  refine (List.mem_cons.mp member).resolve_left ?_
  rintro rfl
  rw [stops] at goesOn
  cases goesOn

theorem dropWhile_append_of_mem {p : Char → Bool} {c : Char} (member : c ∈ t) (stops : p c = false)
    (other : Text) : (t ++ other).dropWhile p = t.dropWhile p ++ other ∧ c ∈ t.dropWhile p := by
  induction t with
  | nil => cases member
  | cons d rest ih =>
    rw [List.cons_append, List.dropWhile_cons, List.dropWhile_cons]
    split
    · rename_i goesOn
      exact ih (mem_of_mem_cons member stops goesOn)
    · exact ⟨rfl, member⟩

theorem takeWhile_append_of_mem {p : Char → Bool} {c : Char} (member : c ∈ t) (stops : p c = false)
    (other : Text) : (t ++ other).takeWhile p = t.takeWhile p := by
  have whole := List.takeWhile_append_dropWhile (p := p) (l := t ++ other)
  rw [(dropWhile_append_of_mem member stops other).1, ← List.append_assoc,
    List.append_cancel_right_eq] at whole
  have part := List.takeWhile_append_dropWhile (p := p) (l := t)
  exact List.append_cancel_right (whole.trans part.symm)

/-- A reader of the start of a text does not get past a parenthesis: it leaves the parenthesis, and
what follows it as it is. -/
def StopsEarly (read? : Text → Option Text) : Prop :=
  ∀ t, '(' ∈ t → (∀ other, read? (t ++ other) = (read? t).map (· ++ other)) ∧
    ∀ rest, read? t = some rest → '(' ∈ rest

theorem stopsEarly_after? {mark : Text} (plain : '(' ∉ mark) : StopsEarly (after? mark) := by
  have found : ∀ {t rest : Text}, after? mark t = some rest ↔ mark ++ rest = t :=
    after?_eq_some_iff.trans eq_comm
  intro t opened
  refine ⟨fun other => ?_, fun rest same => ?_⟩
  · cases same : after? mark t with
    | some rest =>
      rw [Option.map_some, found, ← List.append_assoc, found.mp same]
    | none =>
      rw [Option.map_none, Option.eq_none_iff_forall_ne_some]
      intro rest here
      rcases List.append_eq_append_iff.mp (found.mp here) with ⟨more, inside, -⟩ | ⟨more, inside, -⟩
      · rw [found.mpr inside.symm] at same
        cases same
      · rw [inside] at plain
        exact plain (List.mem_append_left _ opened)
  · rw [← found.mp same] at opened
    exact (List.mem_append.mp opened).resolve_left plain

theorem stopsEarly_afterPads? : StopsEarly afterPads? := by
  intro t opened
  cases t with
  | nil => cases opened
  | cons c rest =>
    unfold afterPads?
    simp only [List.cons_append]
    split
    · rename_i pad
      have inside : '(' ∈ rest := mem_of_mem_cons opened (by decide) pad
      have drops := dropWhile_append_of_mem inside (p := isPad) (by decide)
      refine ⟨fun other => congrArg some (drops other).1, fun found same => ?_⟩
      cases same
      exact (drops []).2
    · exact ⟨fun _ => rfl, fun _ same => by cases same⟩

theorem StopsEarly.bind {first second : Text → Option Text} (stops : StopsEarly first)
    (stops' : StopsEarly second) : StopsEarly fun t => (first t).bind second := by
  intro t opened
  obtain ⟨appends, leaves⟩ := stops t opened
  refine ⟨fun other => ?_, fun last found => ?_⟩
  · simp only [appends]
    cases same : first t with
    | none => rfl
    | some rest => exact (stops' rest (leaves rest same)).1 other
  · obtain ⟨rest, same, isLast⟩ := Option.bind_eq_some_iff.mp found
    exact (stops' rest (leaves rest same)).2 last isLast

theorem StopsEarly.getD {read? : Text → Option Text} (stops : StopsEarly read?) :
    StopsEarly fun t => some ((read? t).getD t) := by
  intro t opened
  obtain ⟨appends, leaves⟩ := stops t opened
  refine ⟨fun other => ?_, fun rest found => ?_⟩
  · simp only [appends]
    cases read? t <;> rfl
  · obtain rfl : (read? t).getD t = rest := Option.some.inj found
    cases same : read? t with
    | none => exact opened
    | some after => exact leaves after same

theorem stopsEarly_dropPads : StopsEarly fun t => some (dropPads t) := by
  intro t opened
  have drops := dropWhile_append_of_mem opened (p := isPad) (by decide)
  refine ⟨fun other => congrArg some (drops other).1, fun rest found => ?_⟩
  cases found
  exact (drops []).2

theorem stopsEarly_afterWord? (word : String) (plain : '(' ∉ word.toList) :
    StopsEarly (afterWord? word) :=
  (stopsEarly_after? plain).bind stopsEarly_afterPads?

theorem identifier?_append (opened : '(' ∈ t) :
    (∀ other, identifier? (t ++ other) = (identifier? t).map fun found => (found.1, found.2 ++ other)) ∧
      ∀ found, identifier? t = some found → '(' ∈ found.2 := by
  cases t with
  | nil => cases opened
  | cons c rest =>
    unfold identifier? name?
    simp only [List.cons_append]
    split
    · rename_i letter
      have inside : '(' ∈ rest := mem_of_mem_cons opened (by decide) letter
      have drops := dropWhile_append_of_mem inside (p := isNameRest) (by decide)
      refine ⟨fun other => ?_, fun found same => ?_⟩
      · rw [(drops other).1, takeWhile_append_of_mem inside (by decide)]
        rfl
      · cases same
        exact (drops []).2
    · exact ⟨fun _ => rfl, fun _ same => by cases same⟩

end Opened

/-- **What follows the opening parenthesis does not change the declaration.** -/
theorem FunctionLine.read?_append {t : Text} (opened : '(' ∈ t) (other : Text) :
    FunctionLine.read? (t ++ other) =
      (FunctionLine.read? t).map fun declared => { declared with rest := declared.rest ++ other } := by
  obtain ⟨appends, leaves⟩ := ((stopsEarly_dropPads.bind
    (stopsEarly_afterWord? "async" (by decide)).getD).bind
      (stopsEarly_afterWord? "def" (by decide))) t opened
  have indent := takeWhile_append_of_mem opened (p := isPad) (by decide) other
  simp only [Option.bind_some] at appends leaves
  unfold FunctionLine.read?
  simp only [appends other, indent]
  cases named : afterWord? "def" ((afterWord? "async" (dropPads t)).getD (dropPads t)) with
  | none => rfl
  | some rest =>
    obtain ⟨appends', leaves'⟩ := identifier?_append (leaves rest named)
    simp only [Option.map_some, Option.bind_eq_bind, Option.bind_some, appends' other]
    cases found : identifier? rest with
    | none => rfl
    | some pair =>
      obtain ⟨name, after⟩ := pair
      obtain ⟨drops, left⟩ := stopsEarly_dropPads after (leaves' _ found)
      have dropped : dropPads (after ++ other) = dropPads after ++ other := Option.some.inj (drops other)
      simp only [Option.map_some, Option.bind_some, dropped]
      have opening := left _ rfl
      cases starts : dropPads after with
      | nil =>
        rw [starts] at opening
        cases opening
      | cons c params =>
        by_cases isOpening : c = '('
        · subst isOpening
          rfl
        · simp [isOpening]

/-- The same declaration with other text after its opening parenthesis. -/
theorem FunctionLine.read?_of_lead {lead text : Text} {declared : FunctionLine}
    (same : FunctionLine.read? (lead ++ '(' :: text) = some declared) (isText : declared.rest = text)
    (other : Text) :
    FunctionLine.read? (lead ++ '(' :: other) = some { declared with rest := other } := by
  have opened : '(' ∈ lead ++ ['('] := List.mem_append_right _ List.mem_cons_self
  rw [List.append_cons, FunctionLine.read?_append opened] at same ⊢
  obtain ⟨found, isFound, rfl⟩ := Option.map_eq_some_iff.mp same
  have nothing : found.rest = [] := List.append_left_eq_self.mp isText
  rw [isFound, Option.map_some, nothing]
  rfl

end Declaration

/-! ### The search for a header -/

theorem line_of_functionHeaderAt {marked : Bool} {pos next : Nat} {declared : FunctionLine}
    {after : List Line} {header : FunctionHeader}
    (found : (functionHeaderAt marked pos declared after).map some = .ok (some (header, next))) :
    functionHeaderAt marked pos declared after = .ok (header, next) ∧ header.line = pos := by
  obtain ⟨pair, isPair, shown⟩ := map_eq_ok found
  cases shown
  exact ⟨isPair, (functionHeaderAt_eq_ok isPair).1⟩

theorem le_line_of_findFunctionFrom {indents : List Nat} {marked : Bool} {pos next : Nat}
    {ls : List Line} {header : FunctionHeader}
    (found : findFunctionFrom indents marked pos ls = .ok (some (header, next))) : pos ≤ header.line := by
  have stays := staysIn_findFunctionFrom indents marked pos (pos + ls.length) pos ls le_rfl rfl
  rw [found] at stays
  exact (stays (header, next) rfl).1

theorem decorator?_of_functionLine {line : Line} {declared : FunctionLine}
    (reads : FunctionLine.read? line = some declared) : decorator? line = none := by
  cases marks : decorator? line with
  | none => rfl
  | some name =>
    rw [functionLine_of_decorator marks] at reads
    cases reads

/-- A declaration at one of the indentations ends the search. -/
theorem findFunctionFrom_of_declared {indents : List Nat} {line : Line} {declared : FunctionLine}
    (reads : FunctionLine.read? line = some declared) (indented : indents.contains declared.indent = true)
    (marked : Bool) (pos : Nat) (rest : List Line) :
    findFunctionFrom indents marked pos (line :: rest) =
      (functionHeaderAt marked pos declared rest).map some := by
  rw [findFunctionFrom, decorator?_of_functionLine reads, reads]
  simp only
  rw [if_pos indented]

/-- **Every other line is passed over**, whatever stands below it. -/
theorem findFunctionFrom_cases (indents : List Nat) (line : Line) :
    (∃ declared, FunctionLine.read? line = some declared ∧ indents.contains declared.indent = true) ∨
      ∀ marked, ∃ later, ∀ pos rest, findFunctionFrom indents marked pos (line :: rest) =
        findFunctionFrom indents later (pos + 1) rest := by
  cases marks : decorator? line with
  | some name =>
    refine Or.inr fun marked => ⟨marked || decide (name = staticDecorator), fun pos rest => ?_⟩
    rw [findFunctionFrom, marks]
  | none =>
    cases reads : FunctionLine.read? line with
    | none =>
      refine Or.inr fun marked => ⟨marked && allBlank line, fun pos rest => ?_⟩
      rw [findFunctionFrom, marks, reads]
    | some declared =>
      by_cases indented : indents.contains declared.indent = true
      · exact Or.inl ⟨declared, rfl, indented⟩
      · refine Or.inr fun marked => ⟨false, fun pos rest => ?_⟩
        rw [findFunctionFrom, marks, reads]
        simp only
        rw [if_neg indented]

/-- **A search that stops at a line looks at that line last.** With another declaration at the same
indentation in its place, and other lines below, it stops there too. -/
theorem findFunctionFrom_append {indents : List Nat} {marked : Bool} {pos next : Nat}
    {upper below : List Line} {line : Line} {declared : FunctionLine} {header : FunctionHeader}
    (reads : FunctionLine.read? line = some declared)
    (found : findFunctionFrom indents marked pos (upper ++ line :: below) = .ok (some (header, next)))
    (here : header.line = pos + upper.length) :
    ∃ last, functionHeaderAt last (pos + upper.length) declared below = .ok (header, next) ∧
      ∀ other declared' more, FunctionLine.read? other = some declared' →
        declared'.indent = declared.indent →
        findFunctionFrom indents marked pos (upper ++ other :: more) =
          (functionHeaderAt last (pos + upper.length) declared' more).map some := by
  induction upper generalizing marked pos with
  | nil =>
    rw [List.nil_append] at found
    rw [List.length_nil] at here
    rcases findFunctionFrom_cases indents line with ⟨declared', isRead, indented⟩ | passes
    · obtain rfl := Option.some.inj (reads.symm.trans isRead)
      rw [findFunctionFrom_of_declared reads indented] at found
      refine ⟨marked, (line_of_functionHeaderAt found).1, fun other declared' more isRead' same => ?_⟩
      rw [← same] at indented
      exact findFunctionFrom_of_declared isRead' indented marked pos more
    · obtain ⟨later, goesOn⟩ := passes marked
      have late := le_line_of_findFunctionFrom ((goesOn pos below).symm.trans found)
      omega
  | cons first upper ih =>
    rw [List.length_cons, Nat.add_comm upper.length, ← Nat.add_assoc] at here ⊢
    rw [List.cons_append] at found
    rcases findFunctionFrom_cases indents first with ⟨declared', isRead, indented⟩ | passes
    · rw [findFunctionFrom_of_declared isRead indented] at found
      have line := (line_of_functionHeaderAt found).2
      omega
    · obtain ⟨later, goesOn⟩ := passes marked
      obtain ⟨last, isHeader, others⟩ := ih ((goesOn pos _).symm.trans found) here
      refine ⟨last, isHeader, fun other declared' more isRead same => ?_⟩
      rw [List.cons_append, goesOn]
      exact others other declared' more isRead same

/-! ### Broken headers -/

/-- The header with its block further down. -/
def FunctionHeader.blockDown (k : Nat) (header : FunctionHeader) : FunctionHeader :=
  { header with doc := header.doc.map (·.down k) }

/-- **A header over several lines.** Its block follows its last line; a hidden function is reported
without either. -/
theorem functionHeaderAt_layout {layout : Layout} (fits : layout.fits = true)
    (ends : (Reading.params 0).after layout.text = .ended) {first : Line} {more : List Line}
    (isLines : layout.lines [] = first :: more) {marked : Bool} {pos next : Nat}
    {declared : FunctionLine} (isText : declared.rest = layout.text) {below : List Line}
    {header : FunctionHeader} (found : functionHeaderAt marked pos declared below = .ok (header, next)) :
    functionHeaderAt marked pos { declared with rest := first } (more ++ below) =
      .ok (header.blockDown more.length, if header.isHidden then next else next + more.length) := by
  obtain ⟨params, oneLine, broken⟩ := readSignature_lines fits ends isLines pos declared.name below
  unfold functionHeaderAt at found ⊢
  simp only at found ⊢
  split at found
  · rename_i hidden
    cases found
    rw [if_pos hidden]
    rfl
  · rename_i shown
    rw [if_neg shown, broken]
    rw [isText, oneLine] at found
    simp only [Nat.sub_self, List.drop_zero] at found ⊢
    rw [show pos + 1 + more.length - (pos + 1) = more.length by omega, List.drop_left,
      plainBlockAt_down]
    obtain ⟨doc, isDoc, same⟩ := map_eq_ok found
    cases same
    rw [isDoc]
    cases doc <;> rfl

/-- **The layout of a header does not matter.** A header that ends on its line, with breaks in it
outside literals, is found with the same name, line, marks and parameters. Its block stands as many
lines further down as the breaks add, and so does the line where the search resumes; a hidden function
is not read past its first line. -/
theorem Source.findFunction_layout {source : Source} {above below : List Line} {lead : Text}
    {layout : Layout} {declared : FunctionLine}
    (isLines : source.lines = above ++ (lead ++ '(' :: layout.text) :: below)
    (reads : FunctionLine.read? (lead ++ '(' :: layout.text) = some declared)
    (opens : declared.rest = layout.text)
    (ends : (Reading.params 0).after layout.text = .ended) (fits : layout.fits = true)
    {start next : Nat} {indents : List Nat} {header : FunctionHeader}
    (found : source.findFunction start indents = .ok (some (header, next)))
    (here : header.line = above.length) :
    Source.findFunction ⟨source.name, above ++ layout.lines (lead ++ ['(']) ++ below⟩ start indents =
      .ok (some (header.blockDown layout.added,
        if header.isHidden then next else next + layout.added)) := by
  obtain ⟨first, more, lines, added⟩ := layout.lines_eq
  have late : start ≤ above.length := here ▸ le_line_of_findFunctionFrom found
  unfold Source.findFunction ReferencePages.findFunction Source.linesFrom at *
  rw [isLines, List.drop_append_of_le_length late] at found
  have position : start + (above.drop start).length = above.length := by
    rw [List.length_drop]
    omega
  obtain ⟨marked, isHeader, others⟩ := findFunctionFrom_append reads found (by rw [here, position])
  have reads' := FunctionLine.read?_of_lead reads opens first
  have broken := functionHeaderAt_layout fits ends (lines []) opens isHeader
  simp only
  rw [lines, ← added, List.append_assoc, List.drop_append_of_le_length late, List.cons_append,
    List.append_assoc, List.singleton_append, others _ _ (more ++ below) reads' rfl]
  rw [List.nil_append] at broken
  rw [broken]
  rfl

/-- A literal is not known as one behind the parentheses: the header does not end on this line. -/
example : (Reading.params 0).after "a) -> \"x#y\":".toList = .pastComment := by decide

/-- A header with a literal that holds a comment mark, broken between parameters, inside a parameter
and before the result, with comments that hold a quote and a bracket. -/
def areaLayout : Layout where
  first := "w,".toList
  rest :=
    [(⟨' ', ⟨"  ".toList, some " the \"outer (width".toList, by decide⟩,
        [⟨[], none, by decide⟩, ⟨"\t".toList, some "...".toList, by decide⟩], "        ".toList,
        by decide, by decide⟩, "sep=\", #\", sides:".toList),
      (⟨' ', ⟨[], none, by decide⟩, [], "\t".toList, by decide, by decide⟩, "List[int] = [1, 2]) ->".toList),
      (⟨' ', ⟨" ".toList, some " result".toList, by decide⟩, [], [], by decide, by decide⟩,
        "int: pass".toList)]
  ending := ⟨" ".toList, some " done".toList, by decide⟩

def areaHeader : FunctionHeader where
  name := "area".toList
  line := 1
  indent := 4
  isHidden := false
  markedStatic := true
  params := "w, sep=\", #\", sides: List[int] = [1, 2]".toList
  doc := some ⟨none, ["Area.".toList], 2, 3⟩

def areaDecorator : Line := "@staticmethod".toList

def areaBlock : Line := "    \"\"\"Area.\"\"\"".toList

/-- The header on one line. -/
def areaSource : Source where
  name := "a.py".toList
  lines := [areaDecorator, "    def area(w, sep=\", #\", sides: List[int] = [1, 2]) -> int: pass".toList,
    areaBlock]

theorem Source.findFunction_layout_sample :
    areaLayout.fits = true ∧ (Reading.params 0).after areaLayout.text = .ended ∧
      areaLayout.lines "    def area(".toList =
        ["    def area(w,  # the \"outer (width".toList, [], "\t#...".toList,
          "        sep=\", #\", sides:".toList, "\tList[int] = [1, 2]) -> # result".toList,
          "int: pass # done".toList] ∧
      areaSource.findFunction 0 [0, 4] = .ok (some (areaHeader, 3)) ∧
      Source.findFunction ⟨areaSource.name,
          [areaDecorator] ++ areaLayout.lines "    def area(".toList ++ [areaBlock]⟩ 0 [0, 4] =
        .ok (some (areaHeader.blockDown 5, 8)) := by
  have fits : areaLayout.fits = true := by decide +kernel
  have ends : (Reading.params 0).after areaLayout.text = .ended := by decide +kernel
  have found : areaSource.findFunction 0 [0, 4] = .ok (some (areaHeader, 3)) := by decide +kernel
  have isLines : areaSource.lines =
      [areaDecorator] ++ ("    def area".toList ++ '(' :: areaLayout.text) :: [areaBlock] := by
    decide +kernel
  have reads : FunctionLine.read? ("    def area".toList ++ '(' :: areaLayout.text) =
      some ⟨4, "area".toList, areaLayout.text⟩ := by
    decide +kernel
  refine ⟨fits, ends, by decide +kernel, found, ?_⟩
  exact Source.findFunction_layout isLines reads rfl ends fits found rfl

/-- A hidden function with a break between its parameters. -/
def hiddenLayout : Layout where
  first := "a,".toList
  rest := [(⟨' ', ⟨[], none, by decide⟩, [], "    ".toList, by decide, by decide⟩, "b):".toList)]
  ending := ⟨[], none, by decide⟩

def hiddenHeader : FunctionHeader where
  name := "_f".toList
  line := 0
  indent := 0
  isHidden := true
  markedStatic := false
  params := []
  doc := none

/-- The search resumes on the line below the first line of a hidden header, where the header goes on
when it is broken: it does not move with the line that the break adds. -/
theorem hidden_header_resumes :
    hiddenLayout.fits = true ∧ (Reading.params 0).after hiddenLayout.text = .ended ∧
      hiddenLayout.lines "def _f(".toList = ["def _f(a,".toList, "    b):".toList] ∧
      Source.findFunction ⟨"a.py".toList, ["def _f(a, b):".toList]⟩ 0 [0] =
        .ok (some (hiddenHeader, 1)) ∧
      Source.findFunction ⟨"a.py".toList, hiddenLayout.lines "def _f(".toList⟩ 0 [0] =
        .ok (some (hiddenHeader, 1)) ∧
      Source.findFunction ⟨"a.py".toList, hiddenLayout.lines "def _f(".toList⟩ 0 [0] ≠
        .ok (some (hiddenHeader, 1 + hiddenLayout.added)) := by
  decide +kernel

end ReferencePages
