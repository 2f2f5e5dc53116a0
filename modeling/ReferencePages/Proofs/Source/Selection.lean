/-
**The functions of a source are those that its lines select.**

The search for functions goes from header to header: below a hidden function it resumes on the next
line, below any other one after its signature and the untagged block that follows. What it finds can
be said without the search. A line is selected when it declares a function at one of the two
indentations and is no line of the signature or of the block of a public function that is selected
above it (`IsSelection`):

* `Collected`, `collected_of_collect`: a search that resumes where it is told, as a chain of steps;
* `findFunctionFrom_eq_none`, `findFunctionFrom_eq_some`: one step stops at the next declaration;
* `covers_iff`: the lines that a step passes over are the lines that the function covers;
* `IsSelection.unique`: no other list of lines is selected;
* `assemble_functions`: **the functions of the first class are the public ones that are selected**,
  and no other class has any.
-/

import ReferencePages.Proofs.Source.Records
import ReferencePages.Proofs.Text.Pads

namespace ReferencePages

open Text Declaration

/-! ### Searches in steps -/

theorem Source.linesFrom_cons {source : Source} {pos : Nat} {line : Line} {rest : List Line}
    (same : source.linesFrom pos = line :: rest) :
    source.lines[pos]? = some line ∧ source.linesFrom (pos + 1) = rest := by
  unfold Source.linesFrom at same ⊢
  refine ⟨?_, ?_⟩
  · rw [← List.head?_drop, same, List.head?_cons]
  · rw [← List.drop_drop, same, List.drop_succ_cons, List.drop_zero]

theorem Source.linesFrom_eq_nil {source : Source} {pos : Nat} (empty : source.linesFrom pos = []) :
    source.lines.length ≤ pos := List.drop_eq_nil_iff.mp empty

/-- The steps of a search through a source: each one starts where the last one told it to. -/
inductive Collected {α : Type} (find : Finder α) (source : Source) :
    Nat → List (α × Nat) → Prop
  | ended {start : Nat} (empty : source.linesFrom start = []) : Collected find source start []
  | stopped {start : Nat} (nothing : find start (source.linesFrom start) = .ok none) :
      Collected find source start []
  | step {start next : Nat} {a : α} {more : List (α × Nat)}
      (here : find start (source.linesFrom start) = .ok (some (a, next)))
      (below : Collected find source (max next (start + 1)) more) :
      Collected find source start ((a, next) :: more)

/-- **What is collected is found step by step.** -/
theorem collected_of_collect {α : Type} {find : Finder α} {source : Source} {resume pos : Nat}
    {found : List (α × Nat)} (same : collect find resume pos (source.linesFrom pos) = .ok found) :
    Collected find source (max resume pos) found := by
  generalize isFrom : source.linesFrom pos = ls at same
  induction ls generalizing resume pos found with
  | nil =>
    cases same
    have short := Source.linesFrom_eq_nil isFrom
    exact .ended (List.drop_eq_nil_iff.mpr (by omega))
  | cons line rest ih =>
    obtain ⟨-, below⟩ := Source.linesFrom_cons isFrom
    rw [collect] at same
    split at same
    · rename_i early
      have later := ih below same
      rwa [show max resume (pos + 1) = max resume pos by omega] at later
    · rename_i late
      have here : max resume pos = pos := by omega
      rw [here]
      split at same
      · cases same
      · rename_i nothing
        cases same
        exact .stopped (by rw [isFrom]; exact nothing)
      · rename_i first next isFirst
        split at same
        · cases same
        · rename_i more isMore
          cases same
          exact .step (by rw [isFrom]; exact isFirst) (ih below isMore)

/-! ### Lines that declare a function -/

/-- The function that line `i` declares. -/
def Source.functionAt? (source : Source) (i : Nat) : Option FunctionLine :=
  (source.lines[i]?).bind FunctionLine.read?

/-- Line `i` declares a function at the left margin or at the indentation of the body. -/
def Source.Declares (source : Source) (bodyIndent i : Nat) : Prop :=
  ∃ line, source.lines[i]? = some line ∧ (FunctionLine.read? line).isSome = true ∧
    (indentation line = 0 ∨ indentation line = bodyIndent)

/-- A text that opens with a word opens with the first letter of the word. -/
theorem exists_cons_of_afterWord? {word : String} {c : Char} {letters t rest : Text}
    (spelled : word.toList = c :: letters) (found : afterWord? word t = some rest) :
    ∃ tail, t = c :: tail := by
  obtain ⟨after, opens, -⟩ := Option.bind_eq_some_iff.mp found
  exact ⟨letters ++ after, by rw [after?_eq_some_iff.mp opens, spelled, List.cons_append]⟩

/-- A declaration is spaces and tabs, then the first letter of `async` or `def`. -/
theorem functionLine_shape {line : Line} {declared : FunctionLine}
    (same : FunctionLine.read? line = some declared) :
    ∃ c tail, dropPads line = c :: tail ∧ isBlank c = false ∧ c ≠ '@' ∧
      declared.indent = indentation (line.takeWhile isPad) := by
  unfold FunctionLine.read? at same
  obtain ⟨word, isDef, same⟩ := Option.bind_eq_some_iff.mp same
  obtain ⟨⟨name, rest⟩, -, same⟩ := Option.bind_eq_some_iff.mp same
  have indent : declared.indent = indentation (line.takeWhile isPad) := by
    simp only at same
    split at same
    · cases same
      rfl
    · cases same
  cases isAsync : afterWord? "async" (dropPads line) with
  | some after =>
    obtain ⟨tail, opens⟩ := exists_cons_of_afterWord? (c := 'a') rfl isAsync
    exact ⟨'a', tail, opens, by decide, by decide, indent⟩
  | none =>
    rw [isAsync, Option.getD_none] at isDef
    obtain ⟨tail, opens⟩ := exists_cons_of_afterWord? (c := 'd') rfl isDef
    exact ⟨'d', tail, opens, by decide, by decide, indent⟩

theorem not_allBlank_of_functionLine {line : Line} {declared : FunctionLine}
    (same : FunctionLine.read? line = some declared) : allBlank line = false := by
  obtain ⟨c, tail, opens, notBlank, -, -⟩ := functionLine_shape same
  have member : c ∈ line := by
    refine List.dropWhile_subset isPad ?_
    show c ∈ dropPads line
    rw [opens]
    exact List.mem_cons_self
  unfold allBlank
  exact List.all_eq_false.mpr ⟨c, member, by simp [notBlank]⟩

/-- The spaces and tabs before a declaration are its whole indentation. -/
theorem indent_eq_indentation {line : Line} {declared : FunctionLine}
    (same : FunctionLine.read? line = some declared) : declared.indent = indentation line := by
  obtain ⟨c, tail, opens, notBlank, -, indent⟩ := functionLine_shape same
  have whole : line = line.takeWhile isPad ++ c :: tail := by
    rw [← opens]
    exact List.takeWhile_append_dropWhile.symm
  have pads : ∀ d ∈ line.takeWhile isPad, isBlank d = true :=
    fun d member => isBlank_of_isPad (List.mem_takeWhile_imp member)
  have blanks : line.takeWhile isBlank = line.takeWhile isPad := by
    conv_lhs => rw [whole]
    rw [List.takeWhile_append_of_pos pads, List.takeWhile_cons_of_neg (by simp [notBlank]),
      List.append_nil]
  rw [indent]
  unfold indentation
  rw [List.takeWhile_eq_self_iff.mpr pads, blanks]

theorem functionLine_of_decorator {line : Line} {name : Text} (marks : decorator? line = some name) :
    FunctionLine.read? line = none := by
  cases same : FunctionLine.read? line with
  | none => rfl
  | some declared =>
    obtain ⟨c, tail, opens, -, notAt, -⟩ := functionLine_shape same
    unfold decorator? at marks
    obtain ⟨rest, isRest, -⟩ := Option.bind_eq_some_iff.mp marks
    have whole := after?_eq_some_iff.mp isRest
    rw [opens] at whole
    exact absurd (List.cons.inj whole).1 notAt

theorem Source.functionAt?_of_line {source : Source} {i : Nat} {line : Line}
    (isLine : source.lines[i]? = some line) : source.functionAt? i = FunctionLine.read? line := by
  unfold Source.functionAt?
  rw [isLine, Option.bind_some]

/-- A line declares a function when it reads as a declaration at one of the two indentations. -/
theorem Source.declares_iff {source : Source} {bodyIndent i : Nat} {line : Line}
    (isLine : source.lines[i]? = some line) :
    source.Declares bodyIndent i ↔
      ∃ declared, FunctionLine.read? line = some declared ∧
        [0, bodyIndent].contains declared.indent = true := by
  constructor
  · rintro ⟨other, isOther, reads, indents⟩
    obtain rfl := Option.some.inj (isLine.symm.trans isOther)
    obtain ⟨declared, same⟩ := Option.isSome_iff_exists.mp reads
    refine ⟨declared, same, ?_⟩
    rw [indent_eq_indentation same]
    simpa using indents
  · rintro ⟨declared, same, indents⟩
    refine ⟨line, isLine, by rw [same]; rfl, ?_⟩
    rw [indent_eq_indentation same] at indents
    simpa using indents

/-! ### One step -/

section Step

variable {source : Source} {bodyIndent pos : Nat}

/-- **A line is passed over when it declares nothing, and read when it declares a function.** -/
theorem findFunctionFrom_cons (markedStatic : Bool) {line : Line} {rest : List Line}
    (isFrom : source.linesFrom pos = line :: rest) :
    (¬ source.Declares bodyIndent pos ∧ ∃ marked,
      findFunctionFrom [0, bodyIndent] markedStatic pos (line :: rest) =
        findFunctionFrom [0, bodyIndent] marked (pos + 1) rest) ∨
    (source.Declares bodyIndent pos ∧ ∃ declared, source.functionAt? pos = some declared ∧
      findFunctionFrom [0, bodyIndent] markedStatic pos (line :: rest) =
        (functionHeaderAt markedStatic pos declared rest).map some) := by
  obtain ⟨isLine, -⟩ := Source.linesFrom_cons isFrom
  have reads := Source.functionAt?_of_line isLine
  rw [Source.declares_iff isLine, findFunctionFrom]
  split
  · rename_i name marks
    refine Or.inl ⟨?_, _, rfl⟩
    rintro ⟨declared, same, -⟩
    rw [functionLine_of_decorator marks] at same
    cases same
  · split
    · rename_i unread
      refine Or.inl ⟨?_, _, rfl⟩
      rintro ⟨declared, same, -⟩
      rw [unread] at same
      cases same
    · rename_i declared isDeclared
      split
      · rename_i indents
        exact Or.inr ⟨⟨declared, isDeclared, indents⟩, declared, reads.trans isDeclared, rfl⟩
      · rename_i elsewhere
        refine Or.inl ⟨?_, _, rfl⟩
        rintro ⟨other, same, indents⟩
        obtain rfl := Option.some.inj (isDeclared.symm.trans same)
        exact elsewhere indents

/-- **A search that finds nothing** has no declaration below it. -/
theorem findFunctionFrom_eq_none {markedStatic : Bool}
    (nothing : findFunctionFrom [0, bodyIndent] markedStatic pos (source.linesFrom pos) = .ok none) :
    ∀ j, pos ≤ j → ¬ source.Declares bodyIndent j := by
  generalize isFrom : source.linesFrom pos = ls at nothing
  induction ls generalizing pos markedStatic with
  | nil =>
    rintro j late ⟨line, isLine, -, -⟩
    have short := Source.linesFrom_eq_nil isFrom
    rw [List.getElem?_eq_none (by omega)] at isLine
    cases isLine
  | cons line rest ih =>
    obtain ⟨-, below⟩ := Source.linesFrom_cons isFrom
    rcases findFunctionFrom_cons markedStatic isFrom with
      ⟨notHere, marked, goesOn⟩ | ⟨-, declared, -, stops⟩
    · intro j late
      rcases Nat.eq_or_lt_of_le late with rfl | later
      · exact notHere
      · exact ih below (goesOn.symm.trans nothing) j later
    · obtain ⟨pair, -, shown⟩ := map_eq_ok (stops.symm.trans nothing)
      cases shown

/-- **A search that finds a header** finds the next declaration. -/
theorem findFunctionFrom_eq_some {markedStatic : Bool} {header : FunctionHeader} {next : Nat}
    (found : findFunctionFrom [0, bodyIndent] markedStatic pos (source.linesFrom pos) =
      .ok (some (header, next))) :
    ∃ line marked declared, pos ≤ line ∧ source.functionAt? line = some declared ∧
      source.Declares bodyIndent line ∧ (∀ j, pos ≤ j → j < line → ¬ source.Declares bodyIndent j) ∧
      functionHeaderAt marked line declared (source.linesFrom (line + 1)) = .ok (header, next) := by
  generalize isFrom : source.linesFrom pos = ls at found
  induction ls generalizing pos markedStatic with
  | nil => cases found
  | cons first rest ih =>
    obtain ⟨-, below⟩ := Source.linesFrom_cons isFrom
    rcases findFunctionFrom_cons markedStatic isFrom with
      ⟨notHere, marked, goesOn⟩ | ⟨declares, declared, isDeclared, stops⟩
    · obtain ⟨line, marked, declared, late, isFunction, declares, between, isHeader⟩ :=
        ih below (goesOn.symm.trans found)
      refine ⟨line, marked, declared, by omega, isFunction, declares, ?_, isHeader⟩
      intro j late early
      rcases Nat.eq_or_lt_of_le late with rfl | later
      · exact notHere
      · exact between j later early
    · obtain ⟨pair, isPair, shown⟩ := map_eq_ok (stops.symm.trans found)
      cases shown
      refine ⟨pos, markedStatic, declared, le_rfl, isDeclared, declares, ?_, ?_⟩
      · intro j late early
        omega
      · rw [below]
        exact isPair

end Step

/-! ### The lines that a function covers -/

/-- Line `j` is a line of the signature of the public function on line `i`, or of the untagged block
that opens on the first line below the signature that is not blank. -/
def Source.Covers (source : Source) (i j : Nat) : Prop :=
  ∃ declared params signatureEnd, source.functionAt? i = some declared ∧
    isHiddenFunction declared.name = false ∧
    readSignature i declared.name declared.rest (source.linesFrom (i + 1)) =
      .ok (params, signatureEnd) ∧
    ((i ≤ j ∧ j < signatureEnd) ∨
      ∃ block, source.docBlockAt signatureEnd = .ok (some block) ∧ block.tag = none ∧
        block.openLine ≤ j ∧ j < block.next)

theorem lt_of_untilClosed {pos next : Nat} {ls body : List Line}
    (same : DocBlock.untilClosed pos ls = some (body, next)) : pos < next := by
  induction ls generalizing pos body with
  | nil => cases same
  | cons line rest ih =>
    rw [DocBlock.untilClosed] at same
    split at same
    · cases same
      exact Nat.lt_succ_self pos
    · obtain ⟨⟨more, last⟩, isMore, shown⟩ := Option.map_eq_some_iff.mp same
      cases shown
      have later := ih isMore
      omega

/-- A block opens on its first line and ends below it. -/
theorem DocBlock.openLine_read {pos : Nat} {line : Line} {after : List Line} {block : DocBlock}
    (same : DocBlock.read pos line after = .ok block) : block.openLine = pos ∧ pos < block.next := by
  unfold DocBlock.read at same
  simp only at same
  split at same
  · cases same
    exact ⟨rfl, Nat.lt_succ_self pos⟩
  · split at same
    · rename_i body next closes
      cases same
      have later := lt_of_untilClosed closes
      exact ⟨rfl, by show pos < next; omega⟩
    · cases same

/-- The first line that is not blank, by its position. -/
theorem Source.firstWritten_eq_some_iff {source : Source} {pos : Nat} {found : WrittenLine} :
    firstWritten pos (source.linesFrom pos) = some found ↔
      pos ≤ found.line ∧ source.lines[found.line]? = some found.text ∧
        allBlank found.text = false ∧ found.after = source.linesFrom (found.line + 1) ∧
        ∀ j line, pos ≤ j → j < found.line → source.lines[j]? = some line → allBlank line = true := by
  generalize isFrom : source.linesFrom pos = ls
  induction ls generalizing pos with
  | nil =>
    have short := Source.linesFrom_eq_nil isFrom
    refine ⟨fun same => (by cases same), fun ⟨late, isLine, _⟩ => ?_⟩
    rw [List.getElem?_eq_none (by omega)] at isLine
    cases isLine
  | cons first rest ih =>
    obtain ⟨isFirst, below⟩ := Source.linesFrom_cons isFrom
    rw [firstWritten]
    by_cases blank : allBlank first = true
    · rw [if_pos blank, ih below]
      constructor
      · rintro ⟨late, isLine, written, isAfter, between⟩
        refine ⟨by omega, isLine, written, isAfter, fun j line lateJ early isJ => ?_⟩
        rcases Nat.eq_or_lt_of_le lateJ with rfl | later
        · obtain rfl := Option.some.inj (isFirst.symm.trans isJ)
          exact blank
        · exact between j line later early isJ
      · rintro ⟨late, isLine, written, isAfter, between⟩
        have later : pos ≠ found.line := by
          rintro rfl
          obtain rfl := Option.some.inj (isFirst.symm.trans isLine)
          cases written.symm.trans blank
        exact ⟨by omega, isLine, written, isAfter, fun j line lateJ => between j line (by omega)⟩
    · rw [if_neg blank]
      constructor
      · rintro same
        cases same
        refine ⟨le_rfl, isFirst, Bool.eq_false_iff.mpr blank, below.symm, fun j line late early => ?_⟩
        exact absurd early (by show ¬ j < pos; omega)
      · rintro ⟨late, isLine, -, isAfter, between⟩
        have here : found.line = pos := by
          by_contra later
          exact blank (between pos first le_rfl (by omega) isFirst)
        obtain ⟨line, text, after⟩ := found
        simp only at here isLine isAfter
        subst here
        obtain rfl := Option.some.inj (isFirst.symm.trans isLine)
        rw [isAfter, below]

theorem Source.firstWritten_linesFrom {source : Source} {pos : Nat} {found : WrittenLine}
    (same : firstWritten pos (source.linesFrom pos) = some found) :
    pos ≤ found.line ∧
      ∀ j line, pos ≤ j → j < found.line → source.lines[j]? = some line → allBlank line = true := by
  obtain ⟨late, -, -, -, between⟩ := Source.firstWritten_eq_some_iff.mp same
  exact ⟨late, between⟩

/-- Only blank lines stand between a position and the block that opens there. -/
theorem Source.docBlockAt_eq_some {source : Source} {pos : Nat} {block : DocBlock}
    (same : source.docBlockAt pos = .ok (some block)) :
    pos ≤ block.openLine ∧ block.openLine < block.next ∧
      ∀ j line, pos ≤ j → j < block.openLine → source.lines[j]? = some line →
        allBlank line = true := by
  unfold Source.docBlockAt ReferencePages.docBlockAt at same
  split at same
  · cases same
  · rename_i found isFound
    split at same
    · obtain ⟨read, isRead, shown⟩ := map_eq_ok same
      cases shown
      obtain ⟨opens, ends⟩ := DocBlock.openLine_read isRead
      rw [opens]
      obtain ⟨late, between⟩ := Source.firstWritten_linesFrom isFound
      exact ⟨late, ends, between⟩
    · cases same

theorem lt_of_signatureFrom {reading : Reading} {pos next : Nat} {ls : List Line} {params : Text}
    (same : signatureFrom reading pos ls = some (params, next)) : pos < next := by
  induction ls generalizing reading pos params with
  | nil => cases same
  | cons line rest ih =>
    rw [signatureFrom] at same
    simp only at same
    split at same
    · cases same
      exact Nat.lt_succ_self pos
    · obtain ⟨⟨more, last⟩, isMore, shown⟩ := Option.map_eq_some_iff.mp same
      cases shown
      have later := ih isMore
      omega

theorem lt_of_readSignature {pos next : Nat} {name text params : Text} {after : List Line}
    (same : readSignature pos name text after = .ok (params, next)) : pos < next := by
  unfold readSignature at same
  split at same
  · rename_i raw last isRaw
    cases same
    exact lt_of_signatureFrom isRaw
  · cases same

section Covered

variable {source : Source} {bodyIndent : Nat}

/-- The search resumes below the signature and the block of a function, and right below a hidden
one: **the declarations that it passes over are those that the function covers**. -/
theorem covers_iff {marked : Bool} {i next : Nat} {declared : FunctionLine}
    {header : FunctionHeader} (isFunction : source.functionAt? i = some declared)
    (same : functionHeaderAt marked i declared (source.linesFrom (i + 1)) = .ok (header, next)) :
    i < next ∧ ∀ j, i < j → source.Declares bodyIndent j → (source.Covers i j ↔ j < next) := by
  unfold functionHeaderAt at same
  simp only at same
  split at same
  · rename_i hidden
    cases same
    refine ⟨Nat.lt_succ_self i, fun j late declares => ⟨?_, fun early => by omega⟩⟩
    rintro ⟨other, params, signatureEnd, isOther, shown, -⟩
    obtain rfl := Option.some.inj (isFunction.symm.trans isOther)
    rw [hidden] at shown
    cases shown
  · rename_i notHidden
    split at same
    · cases same
    · rename_i params signatureEnd isSignature
      have later := lt_of_readSignature isSignature
      obtain ⟨doc, isDoc, shown⟩ := map_eq_ok same
      cases shown
      obtain ⟨block, isBlock, rfl⟩ := map_eq_ok isDoc
      have resumes : source.docBlockAt signatureEnd = .ok block := by
        rw [← isBlock]
        unfold Source.docBlockAt Source.linesFrom
        rw [List.drop_drop, show i + 1 + (signatureEnd - (i + 1)) = signatureEnd by omega]
      -- What the function covers, with the results of reading its header filled in.
      have covers : ∀ j, source.Covers i j ↔ (i ≤ j ∧ j < signatureEnd) ∨
          ∃ found, block = some found ∧ found.tag = none ∧ found.openLine ≤ j ∧ j < found.next := by
        intro j
        constructor
        · rintro ⟨other, _, _, isOther, -, readsOther, covered⟩
          obtain rfl := Option.some.inj (isFunction.symm.trans isOther)
          cases isSignature.symm.trans readsOther
          refine covered.imp id ?_
          rintro ⟨found, isFound, rest⟩
          exact ⟨found, Except.ok.inj (resumes.symm.trans isFound), rest⟩
        · intro covered
          refine ⟨declared, params, signatureEnd, isFunction, by simpa using notHidden, isSignature,
            covered.imp id ?_⟩
          rintro ⟨found, rfl, rest⟩
          exact ⟨found, resumes, rest⟩
      cases isPlain : block.filter (·.tag.isNone) with
      | none =>
        refine ⟨later, fun j late declares => (covers j).trans ⟨?_, fun early => ?_⟩⟩
        · rintro (⟨-, early⟩ | ⟨found, rfl, untagged, -⟩)
          · exact early
          · rw [Option.filter_some_pos (by rw [untagged]; rfl)] at isPlain
            cases isPlain
        · exact Or.inl ⟨by omega, early⟩
      | some plain =>
        obtain ⟨isSome, untagged⟩ := Option.filter_eq_some_iff.mp isPlain
        subst isSome
        obtain ⟨below, ends, between⟩ := Source.docBlockAt_eq_some resumes
        refine ⟨show i < plain.next by omega, fun j late declares => (covers j).trans ⟨?_, ?_⟩⟩
        · rintro (⟨-, early⟩ | ⟨found, isFound, -, -, early⟩)
          · show j < plain.next
            omega
          · cases isFound
            exact early
        · intro early
          have early : j < plain.next := early
          rcases Nat.lt_or_ge j signatureEnd with inside | past
          · exact Or.inl ⟨by omega, inside⟩
          · refine Or.inr ⟨plain, rfl, by simpa using untagged, ?_, early⟩
            -- A declaration is not blank, so it cannot stand between the signature and the block.
            by_contra before
            obtain ⟨line, isLine, reads, -⟩ := declares
            obtain ⟨read, isRead⟩ := Option.isSome_iff_exists.mp reads
            have blank := between j line past (by omega) isLine
            rw [not_allBlank_of_functionLine isRead] at blank
            cases blank

/-- A header bears the name on its line, and is hidden when that name is. -/
theorem functionHeaderAt_eq_ok {marked : Bool} {i next : Nat} {declared : FunctionLine}
    {after : List Line} {header : FunctionHeader}
    (same : functionHeaderAt marked i declared after = .ok (header, next)) :
    header.line = i ∧ header.name = declared.name ∧
      header.isHidden = isHiddenFunction declared.name := by
  unfold functionHeaderAt at same
  simp only at same
  split at same
  · rename_i hidden
    cases same
    exact ⟨rfl, rfl, hidden.symm⟩
  · rename_i notHidden
    split at same
    · cases same
    · obtain ⟨doc, -, shown⟩ := map_eq_ok same
      cases shown
      exact ⟨rfl, rfl, by simpa using notHidden⟩

end Covered

/-! ### Selections -/

/-- The lines, in order, that declare a function and that no public function selected above them
covers. -/
structure Source.IsSelection (source : Source) (bodyIndent start : Nat) (selected : List Nat) :
    Prop where
  ordered : selected.Pairwise (· < ·)
  mem_iff : ∀ j, j ∈ selected ↔ start ≤ j ∧ source.Declares bodyIndent j ∧
    ∀ i ∈ selected, i < j → ¬ source.Covers i j

namespace Source

variable {source : Source} {bodyIndent start : Nat}

/-- **No two lists of lines are selected**: whether a line is selected depends on the lines above it
only. -/
theorem IsSelection.unique {selected others : List Nat}
    (isSelected : source.IsSelection bodyIndent start selected)
    (isOther : source.IsSelection bodyIndent start others) : selected = others := by
  have same : ∀ j, j ∈ selected ↔ j ∈ others := by
    intro j
    induction j using Nat.strong_induction_on with
    | _ j above =>
      rw [isSelected.mem_iff, isOther.mem_iff]
      have covered : (∀ i ∈ selected, i < j → ¬ source.Covers i j) ↔
          ∀ i ∈ others, i < j → ¬ source.Covers i j :=
        ⟨fun free i member early => free i ((above i early).mpr member) early,
          fun free i member early => free i ((above i early).mp member) early⟩
      rw [covered]
  have nodup : ∀ {ls : List Nat}, ls.Pairwise (· < ·) → ls.Nodup :=
    fun ordered => ordered.imp fun below => Nat.ne_of_lt below
  exact List.Perm.eq_of_pairwise (fun _ _ _ _ below above => absurd below (Nat.lt_asymm above))
    isSelected.ordered isOther.ordered
    ((List.perm_ext_iff_of_nodup (nodup isSelected.ordered) (nodup isOther.ordered)).mpr same)

/-- Where nothing is declared, nothing is selected. -/
theorem IsSelection.nil (nothing : ∀ j, start ≤ j → ¬ source.Declares bodyIndent j) :
    source.IsSelection bodyIndent start [] where
  ordered := List.Pairwise.nil
  mem_iff := fun j => ⟨fun member => absurd member List.not_mem_nil,
    fun ⟨late, declares, _⟩ => absurd declares (nothing j late)⟩

/-- **One step of the search selects one line**: the first declaration, with what is selected below
the lines that it covers. -/
theorem IsSelection.cons {line next : Nat} {below : List Nat} (late : start ≤ line)
    (early : line < next) (declares : source.Declares bodyIndent line)
    (between : ∀ j, start ≤ j → j < line → ¬ source.Declares bodyIndent j)
    (covers : ∀ j, line < j → source.Declares bodyIndent j → (source.Covers line j ↔ j < next))
    (isBelow : source.IsSelection bodyIndent next below) :
    source.IsSelection bodyIndent start (line :: below) := by
  have isLater : ∀ j ∈ below, next ≤ j := fun j member => ((isBelow.mem_iff j).mp member).1
  refine ⟨List.pairwise_cons.mpr ⟨fun j member => ?_, isBelow.ordered⟩, fun j => ⟨?_, ?_⟩⟩
  · have later := isLater j member
    omega
  · intro member
    rcases List.mem_cons.mp member with rfl | inBelow
    · refine ⟨late, declares, fun i isAbove before => ?_⟩
      rcases List.mem_cons.mp isAbove with rfl | inBelow
      · exact absurd before (Nat.lt_irrefl i)
      · have later := isLater i inBelow
        omega
    · obtain ⟨lateJ, declaresJ, free⟩ := (isBelow.mem_iff j).mp inBelow
      refine ⟨by omega, declaresJ, fun i isAbove before => ?_⟩
      rcases List.mem_cons.mp isAbove with rfl | inBelow
      · rw [covers j before declaresJ]
        omega
      · exact free i inBelow before
  · rintro ⟨lateJ, declaresJ, free⟩
    rcases Nat.lt_trichotomy j line with before | rfl | after
    · exact absurd declaresJ (between j lateJ before)
    · exact List.mem_cons_self
    · have notCovered := free line List.mem_cons_self after
      rw [covers j after declaresJ] at notCovered
      refine List.mem_cons_of_mem _ ((isBelow.mem_iff j).mpr ⟨by omega, declaresJ, ?_⟩)
      exact fun i member => free i (List.mem_cons_of_mem _ member)

/-- The name on a line that declares a public function. -/
def publicFunction? (source : Source) (i : Nat) : Option Text :=
  ((source.functionAt? i).map (·.name)).filter (! isHiddenFunction ·)

/-- **A whole search selects the lines of its headers**, and each header that is shown bears the
public name on its line. -/
theorem isSelection_of_collected {found : List (FunctionHeader × Nat)}
    (collected : Collected (ReferencePages.findFunction [0, bodyIndent]) source start found) :
    source.IsSelection bodyIndent start (found.map (·.1.line)) ∧
      (found.map (·.1.line)).filterMap source.publicFunction? =
        ((found.map (·.1)).filter (! ·.isHidden)).map (·.name) := by
  induction collected with
  | @ended start empty =>
    have nothing : ReferencePages.findFunction [0, bodyIndent] start (source.linesFrom start) =
        .ok none := by
      rw [empty]
      rfl
    exact ⟨IsSelection.nil (findFunctionFrom_eq_none nothing), rfl⟩
  | stopped nothing => exact ⟨IsSelection.nil (findFunctionFrom_eq_none nothing), rfl⟩
  | @step start next header more here _ ih =>
    obtain ⟨line, marked, declared, late, isFunction, declares, between, isHeader⟩ :=
      findFunctionFrom_eq_some here
    obtain ⟨isAt, isNamed, isHidden⟩ := functionHeaderAt_eq_ok isHeader
    obtain ⟨early, covers⟩ := covers_iff isFunction isHeader
    obtain ⟨isBelow, names⟩ := ih
    rw [show max next (start + 1) = next by omega] at isBelow
    refine ⟨?_, ?_⟩
    · rw [List.map_cons, isAt]
      exact isBelow.cons late early declares between covers
    · have named : source.publicFunction? line =
          if header.isHidden = true then none else some header.name := by
        unfold publicFunction?
        rw [isFunction, isNamed, isHidden, Option.map_some, Option.filter_some]
        cases isHiddenFunction declared.name <;> rfl
      simp only [List.map_cons, List.filterMap_cons, isAt, named, names]
      cases isShown : header.isHidden <;> simp [isShown]

/-! ### The functions of a source -/

/-- The body of a class starts below its header. -/
theorem lt_of_findClass {pos bodyStart : Nat} {header : ClassHeader}
    (found : source.findClass pos = .ok (some (header, bodyStart))) : header.line < bodyStart := by
  unfold Source.findClass at found
  generalize isFrom : source.linesFrom pos = ls at found
  induction ls generalizing pos with
  | nil => cases found
  | cons line rest ih =>
    obtain ⟨-, below⟩ := Source.linesFrom_cons isFrom
    rw [ReferencePages.findClass] at found
    split at found
    · obtain ⟨pair, isPair, shown⟩ := map_eq_ok found
      cases shown
      obtain ⟨plain, isPlain, shown⟩ := map_eq_ok isPair
      cases shown
      obtain ⟨block, isBlock, rfl⟩ := map_eq_ok isPlain
      rw [← below] at isBlock
      cases filtered : block.filter (·.tag.isNone) with
      | none => exact Nat.lt_succ_self pos
      | some plain =>
        obtain ⟨rfl, -⟩ := Option.filter_eq_some_iff.mp filtered
        obtain ⟨late, ends, -⟩ := Source.docBlockAt_eq_some isBlock
        show pos < plain.next
        omega
    · exact ih below found

theorem lt_of_classHeaders {owner : ClassHeader} {bodyStart : Nat}
    {later : List (ClassHeader × Nat)}
    (same : source.classHeaders = .ok ((owner, bodyStart) :: later)) :
    owner.line < bodyStart := by
  obtain ⟨found, collected, isFound⟩ := map_eq_ok same
  cases collected_of_collect collected with
  | ended empty => cases isFound
  | stopped nothing => cases isFound
  | step here below =>
    obtain ⟨rfl, -⟩ := List.cons.inj isFound
    obtain ⟨first, isFirst, shown⟩ := map_eq_ok here
    obtain ⟨pair, rfl, shown⟩ := Option.map_eq_some_iff.mp shown
    cases shown
    exact lt_of_findClass isFirst

/-- Only the first class gets functions and fields. -/
theorem functions_classRecords {headers : List (ClassHeader × Nat)} {classes : List ClassRecord}
    (same : source.classRecords headers = .ok classes) :
    classes.map (·.position) = headers.map (·.1.line) ∧
      ∀ c ∈ classes, c.functions = [] ∧ c.fields = [] := by
  induction headers generalizing classes with
  | nil =>
    cases same
    exact ⟨rfl, fun c member => absurd member List.not_mem_nil⟩
  | cons pair others ih =>
    obtain ⟨header, bodyStart⟩ := pair
    obtain ⟨first, isFirst, same⟩ := bind_eq_ok same
    obtain ⟨rest, isRest, same⟩ := bind_eq_ok same
    cases same
    obtain ⟨documented, -, isFirst⟩ := bind_eq_ok isFirst
    obtain ⟨members, -, isFirst⟩ := bind_eq_ok isFirst
    cases isFirst
    obtain ⟨positions, bare⟩ := ih isRest
    refine ⟨by rw [List.map_cons, List.map_cons, positions], fun c member => ?_⟩
    rcases List.mem_cons.mp member with rfl | inRest
    · exact ⟨rfl, rfl⟩
    · exact bare c inRest

/-- **The functions of the first class are the public ones among the lines that are selected from
the start of its body on, in order; no other class has functions or fields.** There is exactly one
such selection. -/
theorem assemble_functions {strict : Bool} {first : ClassRecord} {others : List ClassRecord}
    (same : source.assemble strict = .ok (first :: others)) :
    (∀ c ∈ others, c.functions = [] ∧ c.fields = []) ∧
      ∃ owner bodyStart later, source.classHeaders = .ok ((owner, bodyStart) :: later) ∧
        first.position = owner.line ∧ owner.line < bodyStart ∧
        ∃ selected, source.IsSelection owner.bodyIndent bodyStart selected ∧
          (∀ lines, source.IsSelection owner.bodyIndent bodyStart lines → lines = selected) ∧
          first.functions.map (·.name) = selected.filterMap source.publicFunction? := by
  obtain ⟨headers, isHeaders, same⟩ := bind_eq_ok same
  obtain ⟨-, -, same⟩ := bind_eq_ok same
  obtain ⟨records, isRecords, same⟩ := bind_eq_ok same
  obtain ⟨positions, bare⟩ := functions_classRecords isRecords
  have same := orFault_eq_ok same
  cases records with
  | nil => cases same
  | cons record rest =>
    cases headers with
    | nil => cases positions
    | cons pair later =>
      obtain ⟨owner, bodyStart⟩ := pair
      obtain ⟨functions, isFunctions, same⟩ := bind_eq_ok same
      obtain ⟨fields, -, same⟩ := bind_eq_ok same
      cases same
      have isHeaders := orFault_eq_ok isHeaders
      have collected := collected_of_collect isFunctions
      rw [Nat.max_self] at collected
      obtain ⟨isSelected, names⟩ := isSelection_of_collected collected
      refine ⟨fun c member => bare c (List.mem_cons_of_mem _ member), owner, bodyStart, later,
        isHeaders, (List.cons.inj positions).1, lt_of_classHeaders isHeaders, _,
        isSelected, fun _ isOther => isOther.unique isSelected, ?_⟩
      rw [names, List.map_map]
      rfl

/-- A source with declarations above the class, in a signature, in a block, under a hidden name,
deeper than the body and below a second class. -/
def selectionSample : Source :=
  ofText "a.py".toList (joinLines (["def above():", "class Shape:", " def of(self,", " def inner(x)):",
    "", " \"\"\"Doc.", " def quoted():", " \"\"\"", " def _hidden(", " async def size(self):",
    "  def nested():", "class Other:", "def below():"].map (·.toList)))

theorem assemble_functions_sample :
    ∃ first others, selectionSample.assemble false = .ok (first :: others) ∧
      first.functions.map (·.name) = ["of".toList, "size".toList, "below".toList] ∧
      (∀ c ∈ others, c.functions = [] ∧ c.fields = []) ∧
      ∃ owner bodyStart later, selectionSample.classHeaders = .ok ((owner, bodyStart) :: later) ∧
        first.position = owner.line ∧ owner.line < bodyStart ∧
        ∃ selected, selectionSample.IsSelection owner.bodyIndent bodyStart selected ∧
          (∀ lines, selectionSample.IsSelection owner.bodyIndent bodyStart lines →
            lines = selected) ∧
          first.functions.map (·.name) = selected.filterMap selectionSample.publicFunction? := by
  have names : ((selectionSample.assemble false).toOption.bind List.head?).map
      (fun c => c.functions.map (·.name)) = some ["of".toList, "size".toList, "below".toList] := by
    decide +kernel
  cases assembled : selectionSample.assemble false with
  | error fault =>
    rw [assembled] at names
    cases names
  | ok classes =>
    rw [assembled] at names
    cases classes with
    | nil => cases names
    | cons first others =>
      exact ⟨first, others, rfl, Option.some.inj names, assemble_functions assembled⟩

end Source

end ReferencePages
