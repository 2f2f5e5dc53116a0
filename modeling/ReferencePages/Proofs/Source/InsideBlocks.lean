/-
**What lines inside blocks are read as.**

Three searches go through the same lines. The one for tagged blocks steps over every block whole
(`Meets`). The one for functions steps over the block of the first class and over the blocks of the
functions that it reports, and the one for classes over none. So example code in a block can be read
as a class or a function:

* `Recognises`: the blocks that the searches know of, with their role;
* `mem_reportedLines_iff`: a line is reported as a function when it declares one at the left margin or
  at the indentation of the first class's body, below the start of that body, and no reported function
  covers it (`IsLoose`);
* `assemble_inside_block`: **a line inside a block is read as a class exactly when it declares one,
  and as a function exactly when it is loose; no line is loose inside the block of the first class or
  of a reported function**;
* `block_read_as_structure`: a class and a function that stem from lines inside blocks.
-/

import ReferencePages.Proofs.Source.ReversedRange

namespace ReferencePages

open Text Declaration

/-- Line `j` stands strictly between the opening line and the closing line of the block. -/
def DocBlock.Holds (block : DocBlock) (j : Nat) : Prop := block.openLine < j ∧ j + 1 < block.next

instance (block : DocBlock) (j : Nat) : Decidable (block.Holds j) :=
  inferInstanceAs (Decidable (block.openLine < j ∧ j + 1 < block.next))

/-! ### Walks -/

/-- A walk over the lines from a position on and before `stop` meets the block. The walk goes line by
line, and from the opening line of a block to the line after it. -/
inductive Source.Meets (source : Source) (stop : Nat) : Nat → DocBlock → Prop
  | here {pos : Nat} {line : Line} {block : DocBlock} (early : pos < stop)
      (isLine : source.lines[pos]? = some line) (opens : opensBlock line = true)
      (isBlock : DocBlock.read pos line (source.linesFrom (pos + 1)) = .ok block) :
      Source.Meets source stop pos block
  | pass {pos : Nat} {line : Line} {block : DocBlock} (early : pos < stop)
      (isLine : source.lines[pos]? = some line) (plain : opensBlock line = false)
      (below : Source.Meets source stop (pos + 1) block) : Source.Meets source stop pos block
  | over {pos : Nat} {line : Line} {first block : DocBlock} (early : pos < stop)
      (isLine : source.lines[pos]? = some line) (opens : opensBlock line = true)
      (isFirst : DocBlock.read pos line (source.linesFrom (pos + 1)) = .ok first)
      (below : Source.Meets source stop first.next block) : Source.Meets source stop pos block

/-- **The search for a tagged block is such a walk.** -/
theorem Source.meets_of_findTaggedFrom {source : Source} {tag : Text} {stop resume pos : Nat}
    {block : DocBlock}
    (found : findTaggedFrom tag stop resume pos (source.linesFrom pos) = .ok (some block)) :
    source.Meets stop (max resume pos) block ∧ block.tag = some tag := by
  generalize isFrom : source.linesFrom pos = ls at found
  induction ls generalizing resume pos with
  | nil => cases found
  | cons line rest ih =>
    obtain ⟨isLine, below⟩ := linesFrom_cons isFrom
    rw [findTaggedFrom] at found
    split at found
    · cases found
    · rename_i late
      have early : pos < stop := Nat.lt_of_not_le late
      split at found
      · rename_i passed
        obtain ⟨met, isTagged⟩ := ih below found
        refine ⟨?_, isTagged⟩
        by_cases inside : pos < resume
        · rwa [show max resume (pos + 1) = max resume pos by omega] at met
        · have plain : opensBlock line = false := by simpa [inside] using passed
          rw [show max resume (pos + 1) = pos + 1 by omega] at met
          rw [show max resume pos = pos by omega]
          exact .pass early isLine plain met
      · rename_i stays
        simp only [Bool.or_eq_true, decide_eq_true_eq, not_or, Nat.not_lt, Bool.not_eq_true',
          Bool.not_eq_false] at stays
        rw [show max resume pos = pos by omega]
        split at found
        · cases found
        · rename_i first isFirst
          obtain ⟨-, later⟩ := DocBlock.openLine_read isFirst
          rw [← below] at isFirst
          split at found
          · rename_i isTagged
            cases found
            exact ⟨.here early isLine stays.2 isFirst, isTagged⟩
          · obtain ⟨met, isTagged⟩ := ih below found
            rw [show max first.next (pos + 1) = first.next by omega] at met
            exact ⟨.over early isLine stays.2 isFirst met, isTagged⟩

/-! ### Reported functions -/

namespace Source

variable {source : Source}

/-- The headers of the functions that the first class is given. -/
def reportedFunctions (source : Source) : List FunctionHeader :=
  match source.classHeaders with
  | .ok ((owner, bodyStart) :: _) =>
    match source.functionHeaders bodyStart owner.bodyIndent with
    | .ok found => (found.map (·.1)).filter (! ·.isHidden)
    | .error _ => []
  | _ => []

/-- Line `j` declares a public function, below the start of the first class's body and at one of the
two indentations, and no reported function above covers it. -/
def IsLoose (source : Source) (j : Nat) : Prop :=
  ∃ owner bodyStart later, source.classHeaders = .ok ((owner, bodyStart) :: later) ∧
    bodyStart ≤ j ∧ source.Declares owner.bodyIndent j ∧ (source.publicFunction? j).isSome ∧
    ∀ header ∈ source.reportedFunctions, header.line < j → ¬ source.Covers header.line j

/-- Every function header that is found is read from a line that declares the function. -/
theorem functionHeaderAt_of_collected {bodyIndent start : Nat} {found : List (FunctionHeader × Nat)}
    (collected : Collected (ReferencePages.findFunction [0, bodyIndent]) source start found) :
    ∀ pair ∈ found, ∃ i marked declared, source.functionAt? i = some declared ∧
      functionHeaderAt marked i declared (source.linesFrom (i + 1)) = .ok pair := by
  induction collected with
  | ended empty => exact fun pair member => absurd member List.not_mem_nil
  | stopped nothing => exact fun pair member => absurd member List.not_mem_nil
  | step here below ih =>
    intro pair member
    rcases List.mem_cons.mp member with rfl | inMore
    · obtain ⟨i, marked, declared, -, isFunction, -, -, isHeader⟩ := findFunctionFrom_eq_some here
      exact ⟨i, marked, declared, isFunction, isHeader⟩
    · exact ih pair inMore

section Header

variable {marked : Bool} {i next : Nat} {declared : FunctionLine} {header : FunctionHeader}

/-- A header is hidden when its line declares no public function. -/
theorem isSome_publicFunction? (isFunction : source.functionAt? i = some declared)
    (isHeader : functionHeaderAt marked i declared (source.linesFrom (i + 1)) = .ok (header, next)) :
    (source.publicFunction? i).isSome = ! header.isHidden := by
  obtain ⟨-, -, isHidden⟩ := functionHeaderAt_eq_ok isHeader
  unfold publicFunction?
  rw [isFunction, isHidden, Option.map_some, Option.filter_some]
  cases isHiddenFunction declared.name <;> rfl

/-- Only a public function covers lines. -/
theorem isSome_publicFunction?_of_covers {j : Nat} (covers : source.Covers i j) :
    (source.publicFunction? i).isSome = true := by
  obtain ⟨declared, -, -, isFunction, shown, -⟩ := covers
  unfold publicFunction?
  rw [isFunction, Option.map_some, Option.filter_some, shown]
  rfl

/-- A function covers the lines of its block. -/
theorem covers_of_doc {block : DocBlock} (isFunction : source.functionAt? i = some declared)
    (isHeader : functionHeaderAt marked i declared (source.linesFrom (i + 1)) = .ok (header, next))
    (isDoc : header.doc = some block) {j : Nat} (inside : block.Holds j) :
    i < j ∧ source.Covers i j := by
  unfold functionHeaderAt at isHeader
  simp only at isHeader
  split at isHeader
  · cases isHeader
    cases isDoc
  · rename_i notHidden
    split at isHeader
    · cases isHeader
    · rename_i params signatureEnd isSignature
      have later := lt_of_readSignature isSignature
      obtain ⟨doc, isPlain, shown⟩ := map_eq_ok isHeader
      cases shown
      obtain ⟨read, isRead, rfl⟩ := map_eq_ok isPlain
      obtain ⟨rfl, untagged⟩ := Option.filter_eq_some_iff.mp isDoc
      have resumes : source.docBlockAt signatureEnd = .ok (some block) := by
        rw [← isRead]
        unfold Source.docBlockAt Source.linesFrom
        rw [List.drop_drop, show i + 1 + (signatureEnd - (i + 1)) = signatureEnd by omega]
      obtain ⟨below, -, -⟩ := Source.docBlockAt_eq_some resumes
      obtain ⟨opens, closes⟩ := inside
      refine ⟨by omega, declared, params, signatureEnd, isFunction, by simpa using notHidden,
        isSignature, Or.inr ⟨block, resumes, by simpa using untagged, by omega, by omega⟩⟩

end Header

section Reported

variable {owner : ClassHeader} {bodyStart : Nat} {later : List (ClassHeader × Nat)}
  {found : List (FunctionHeader × Nat)}

theorem reportedFunctions_eq (isHeaders : source.classHeaders = .ok ((owner, bodyStart) :: later))
    (isFound : source.functionHeaders bodyStart owner.bodyIndent = .ok found) :
    source.reportedFunctions = (found.map (·.1)).filter (! ·.isHidden) := by
  unfold reportedFunctions
  rw [isHeaders]
  simp only
  rw [isFound]

/-- A function is reported for each header that is found on a line with a public function. -/
theorem mem_reported_iff (isHeaders : source.classHeaders = .ok ((owner, bodyStart) :: later))
    (isFound : source.functionHeaders bodyStart owner.bodyIndent = .ok found) (j : Nat) :
    (∃ header ∈ source.reportedFunctions, header.line = j) ↔
      j ∈ found.map (·.1.line) ∧ (source.publicFunction? j).isSome = true := by
  have collected := collected_of_collect isFound
  have areHeaders := functionHeaderAt_of_collected collected
  have shown : ∀ pair ∈ found, (source.publicFunction? pair.1.line).isSome = ! pair.1.isHidden := by
    intro pair member
    obtain ⟨i, marked, declared, isFunction, isHeader⟩ := areHeaders pair member
    rw [(functionHeaderAt_eq_ok isHeader).1]
    exact isSome_publicFunction? isFunction isHeader
  rw [reportedFunctions_eq isHeaders isFound]
  constructor
  · rintro ⟨header, reported, rfl⟩
    obtain ⟨inFound, isShown⟩ := List.mem_filter.mp reported
    obtain ⟨pair, member, rfl⟩ := List.mem_map.mp inFound
    exact ⟨List.mem_map_of_mem member, (shown pair member).trans isShown⟩
  · rintro ⟨inLines, isPublic⟩
    obtain ⟨pair, member, rfl⟩ := List.mem_map.mp inLines
    refine ⟨pair.1, List.mem_filter.mpr ⟨List.mem_map_of_mem member, ?_⟩, rfl⟩
    rw [← shown pair member]
    exact isPublic

/-- **A line is reported as a function when it is loose.** -/
theorem mem_reportedLines_iff (isHeaders : source.classHeaders = .ok ((owner, bodyStart) :: later))
    (isFound : source.functionHeaders bodyStart owner.bodyIndent = .ok found) (j : Nat) :
    (∃ header ∈ source.reportedFunctions, header.line = j) ↔ source.IsLoose j := by
  have collected := collected_of_collect isFound
  rw [Nat.max_self] at collected
  obtain ⟨isSelected, -⟩ := isSelection_of_collected collected
  rw [mem_reported_iff isHeaders isFound, isSelected.mem_iff]
  constructor
  · rintro ⟨⟨below, declares, free⟩, isPublic⟩
    refine ⟨owner, bodyStart, later, isHeaders, below, declares, isPublic, ?_⟩
    intro header reported above
    exact free header.line ((mem_reported_iff isHeaders isFound header.line).mp
      ⟨header, reported, rfl⟩).1 above
  · rintro ⟨other, otherStart, others, isOther, below, declares, isPublic, free⟩
    cases isHeaders.symm.trans isOther
    refine ⟨⟨below, declares, fun i inLines above covers => ?_⟩, isPublic⟩
    obtain ⟨header, reported, rfl⟩ := (mem_reported_iff isHeaders isFound i).mpr
      ⟨inLines, isSome_publicFunction?_of_covers covers⟩
    exact free header reported above covers

end Reported

/-! ### Blocks and what stems from them -/

end Source

/-- Why a block is known: it is attached to the class `k` or to a function, or it is tagged. -/
inductive BlockRole where
  | ofClass (k : Nat)
  | ofFunction
  | tagged
  deriving DecidableEq

namespace Source

variable {source : Source}

/-- The blocks that are known for a source: the untagged block attached to a class line, the block
attached to a function that is reported, and the blocks tagged as a class variable or a field that a
walk through the lines of a class meets. -/
inductive Recognises (source : Source) : BlockRole → DocBlock → Prop
  | ofClass {k line : Nat} {block : DocBlock} (isLine : source.classLines[k]? = some line)
      (attached : source.docBlockAt (line + 1) = .ok (some block)) (untagged : block.tag = none) :
      Recognises source (.ofClass k) block
  | ofFunction {header : FunctionHeader} {block : DocBlock}
      (reported : header ∈ source.reportedFunctions) (attached : header.doc = some block) :
      Recognises source .ofFunction block
  | tagged {k line : Nat} {block : DocBlock} (isLine : source.classLines[k]? = some line)
      (met : source.Meets (source.spanEnd source.classLines k) (source.bodyStart line) block)
      (isTagged : block.tag = some classVariableTag ∨ block.tag = some fieldTag) :
      Recognises source .tagged block

/-- No line is loose inside the block of a reported function. -/
theorem not_isLoose_of_doc {owner : ClassHeader} {bodyStart : Nat} {later : List (ClassHeader × Nat)}
    {found : List (FunctionHeader × Nat)}
    (isHeaders : source.classHeaders = .ok ((owner, bodyStart) :: later))
    (isFound : source.functionHeaders bodyStart owner.bodyIndent = .ok found)
    {header : FunctionHeader} (reported : header ∈ source.reportedFunctions) {block : DocBlock}
    (isDoc : header.doc = some block) {j : Nat} (inside : block.Holds j) : ¬ source.IsLoose j := by
  rintro ⟨-, -, -, -, -, -, -, free⟩
  have inFound := reported
  rw [reportedFunctions_eq isHeaders isFound] at inFound
  obtain ⟨pair, member, rfl⟩ := List.mem_map.mp (List.mem_filter.mp inFound).1
  obtain ⟨i, marked, declared, isFunction, isHeader⟩ :=
    functionHeaderAt_of_collected (collected_of_collect isFound) pair member
  obtain ⟨above, covers⟩ := covers_of_doc isFunction isHeader isDoc inside
  have isAt : pair.1.line = i := (functionHeaderAt_eq_ok isHeader).1
  refine free pair.1 reported ?_ ?_
  · rw [isAt]
    exact above
  · rw [isAt]
    exact covers

/-- No line is loose inside the block of the first class. -/
theorem not_isLoose_of_firstClass {line : Nat} (isLine : source.classLines[0]? = some line)
    {block : DocBlock} (attached : source.docBlockAt (line + 1) = .ok (some block))
    (untagged : block.tag = none) {j : Nat} (inside : block.Holds j) : ¬ source.IsLoose j := by
  rintro ⟨owner, bodyStart, later, isHeaders, below, -⟩
  obtain ⟨positions, areHeaders⟩ := classHeaders_eq_ok isHeaders
  have isOwner : owner.line = line := by
    rw [← positions] at isLine
    exact Option.some.inj isLine
  have body : bodyStart = source.bodyStart owner.line :=
    (areHeaders _ List.mem_cons_self).body
  have ends : source.bodyStart owner.line = block.next := by
    unfold Source.bodyStart
    rw [isOwner, attached]
    simp only
    rw [if_pos untagged]
  obtain ⟨-, closes⟩ := inside
  omega

/-- The headers that a source with classes is read from, and the functions that are found. -/
theorem assemble_eq_ok {strict : Bool} {classes : List ClassRecord}
    (same : source.assemble strict = .ok classes) :
    (source.classHeaders = .ok [] ∧ classes = []) ∨
      ∃ owner bodyStart later found, source.classHeaders = .ok ((owner, bodyStart) :: later) ∧
        source.functionHeaders bodyStart owner.bodyIndent = .ok found ∧
        classes.flatMap (·.functions) =
          ((found.map (·.1)).filter (! ·.isHidden)).map (functionRecord owner.name) := by
  obtain ⟨headers, isHeaders, same⟩ := bind_eq_ok same
  obtain ⟨_, -, same⟩ := bind_eq_ok same
  obtain ⟨records, isRecords, same⟩ := bind_eq_ok same
  have isHeaders := orFault_eq_ok isHeaders
  have same := orFault_eq_ok same
  cases headers with
  | nil =>
    cases isRecords
    cases same
    exact Or.inl ⟨isHeaders, rfl⟩
  | cons pair later =>
    obtain ⟨owner, bodyStart⟩ := pair
    obtain ⟨positions, bare⟩ := functions_classRecords isRecords
    cases records with
    | nil => cases positions
    | cons first others =>
      obtain ⟨found, isFound, same⟩ := bind_eq_ok same
      obtain ⟨fields, -, same⟩ := bind_eq_ok same
      cases same
      refine Or.inr ⟨owner, bodyStart, later, found, isHeaders, isFound, ?_⟩
      have none : others.flatMap (·.functions) = [] := by
        refine List.flatMap_eq_nil_iff.mpr fun c member => ?_
        exact (bare c (List.mem_cons_of_mem _ member)).1
      rw [List.flatMap_cons, none, List.append_nil]

/-- **A line inside a block is read as a class exactly when it declares one, and as a function
exactly when it is loose; no line is loose inside the block of the first class or of a reported
function.** -/
theorem assemble_inside_block {strict : Bool} {classes : List ClassRecord}
    (same : source.assemble strict = .ok classes) :
    (∃ className, classes.flatMap (·.functions) =
        source.reportedFunctions.map (functionRecord className)) ∧
      ∀ role block j, source.Recognises role block → block.Holds j →
        ((∃ c ∈ classes, c.position = j) ↔ (source.classAt? j).isSome) ∧
          ((∃ header ∈ source.reportedFunctions, header.line = j) ↔ source.IsLoose j) ∧
          (role = .ofClass 0 ∨ role = .ofFunction → ¬ source.IsLoose j) := by
  have classesOn : ∀ j, (∃ c ∈ classes, c.position = j) ↔ (source.classAt? j).isSome := by
    intro j
    rw [← mem_classLines, ← positions_assemble same, List.mem_map]
  rcases assemble_eq_ok same with
    ⟨isEmpty, rfl⟩ | ⟨owner, bodyStart, later, found, isHeaders, isFound, functions⟩
  · have none : source.reportedFunctions = [] := by
      unfold reportedFunctions
      rw [isEmpty]
    refine ⟨⟨[], by rw [none]; rfl⟩, fun role block j recognised inside => ?_⟩
    have tight : ¬ source.IsLoose j := by
      rintro ⟨owner, bodyStart, later, isHeaders, -⟩
      cases isEmpty.symm.trans isHeaders
    refine ⟨classesOn j, ⟨?_, fun loose => absurd loose tight⟩, fun _ => tight⟩
    rintro ⟨header, reported, -⟩
    rw [none] at reported
    exact absurd reported List.not_mem_nil
  · refine ⟨⟨owner.name, ?_⟩, fun role block j recognised inside => ?_⟩
    · rw [functions, reportedFunctions_eq isHeaders isFound]
    refine ⟨classesOn j, mem_reportedLines_iff isHeaders isFound j, fun steppedOver => ?_⟩
    cases recognised with
    | ofClass isLine attached untagged =>
      rcases steppedOver with first | other
      · cases first
        exact not_isLoose_of_firstClass isLine attached untagged inside
      · cases other
    | ofFunction reported attached =>
      exact not_isLoose_of_doc isHeaders isFound reported attached inside
    | tagged isLine met isTagged =>
      rcases steppedOver with other | other
      · cases other
      · cases other

/-- A source with example code in the block of its class and in the block of a class variable. -/
def exampleCode : Source :=
  ofText "a.py".toList (joinLines (["class A:", "    \"\"\"Example:", "class B:", "    pass\"\"\"",
    "    \"\"\":class_var", "    def f(self):", "        pass", "    \"\"\"",
    "    X = 1"].map (·.toList)))

/-- The block below the first class of `exampleCode`. -/
def exampleClassBlock : DocBlock :=
  ⟨none, ["Example:".toList, "class B:".toList, "    pass".toList], 1, 4⟩

/-- The block above the class variable of `exampleCode`. -/
def exampleVariableBlock : DocBlock :=
  ⟨some classVariableTag, ["def f(self):".toList, "    pass".toList], 4, 8⟩

theorem recognises_exampleClassBlock :
    exampleCode.Recognises (.ofClass 0) exampleClassBlock := by
  have isLine : exampleCode.classLines[0]? = some 0 := by decide +kernel
  have attached : exampleCode.docBlockAt 1 = .ok (some exampleClassBlock) := by decide +kernel
  exact .ofClass isLine attached rfl

theorem recognises_exampleVariableBlock :
    exampleCode.Recognises .tagged exampleVariableBlock := by
  have isLine : exampleCode.classLines[1]? = some 2 := by decide +kernel
  have starts : exampleCode.bodyStart 2 = 3 := by decide +kernel
  have ends : exampleCode.spanEnd exampleCode.classLines 1 = 9 := by decide +kernel
  have isBlock : DocBlock.read 4 "    \"\"\":class_var".toList (exampleCode.linesFrom 5) =
      .ok exampleVariableBlock := by decide +kernel
  refine .tagged isLine ?_ (Or.inl rfl)
  rw [starts, ends]
  have met : exampleCode.Meets 9 4 exampleVariableBlock :=
    .here (by decide) (by decide +kernel) (by decide +kernel) isBlock
  exact .pass (by decide) (by decide +kernel : exampleCode.lines[3]? = some "    pass\"\"\"".toList)
    (by decide +kernel) met

/-- **A class and a function stem from lines inside blocks**: the line `class B:` in the block of
class `A`, and the line `def f(self):` in the block of the class variable. -/
theorem block_read_as_structure :
    ∃ classes, exampleCode.assemble false = .ok classes ∧
      (exampleCode.Recognises (.ofClass 0) exampleClassBlock ∧ exampleClassBlock.Holds 2 ∧
        ∃ c ∈ classes, c.position = 2) ∧
      exampleCode.Recognises .tagged exampleVariableBlock ∧ exampleVariableBlock.Holds 5 ∧
        ∃ header ∈ exampleCode.reportedFunctions, header.line = 5 := by
  have positions : ((exampleCode.assemble false).toOption.map fun classes =>
      classes.map (·.position)) = some [0, 2] := by decide +kernel
  have reported : exampleCode.reportedFunctions.map (·.line) = [5] := by decide +kernel
  cases assembled : exampleCode.assemble false with
  | error fault =>
    rw [assembled] at positions
    cases positions
  | ok classes =>
    rw [assembled] at positions
    have positions : classes.map (·.position) = [0, 2] := Option.some.inj positions
    refine ⟨classes, rfl, ⟨recognises_exampleClassBlock, by decide, ?_⟩,
      recognises_exampleVariableBlock, by decide, ?_⟩
    · exact List.mem_map.mp (by rw [positions]; decide)
    · exact List.mem_map.mp (by rw [reported]; decide)

theorem assemble_inside_block_sample :
    ∃ classes, exampleCode.assemble false = .ok classes ∧
      exampleCode.Recognises (.ofClass 0) exampleClassBlock ∧ exampleClassBlock.Holds 2 ∧
      ((∃ c ∈ classes, c.position = 2) ↔ (exampleCode.classAt? 2).isSome) ∧
      ¬ ∃ header ∈ exampleCode.reportedFunctions, header.line = 2 := by
  have read : (exampleCode.assemble false).isOk = true := by decide +kernel
  cases assembled : exampleCode.assemble false with
  | error fault =>
    rw [assembled] at read
    cases read
  | ok classes =>
    have inside : exampleClassBlock.Holds 2 := by decide
    obtain ⟨isClass, isFunction, steppedOver⟩ := (assemble_inside_block assembled).2 _ _ 2
      recognises_exampleClassBlock inside
    refine ⟨classes, rfl, recognises_exampleClassBlock, inside, isClass, ?_⟩
    rw [isFunction]
    exact steppedOver (Or.inl rfl)

end Source

end ReferencePages
