/-
**Classes stand on class lines, and one walk meets their variables.**

The search for the variables of a class starts anew below every assignment that it has found. Nothing
is lost or read twice that way: between a block and the assignment it describes there are blank lines
only, and an assignment opens no block. So what is found can be said by one walk over the lines of the
class:

* `blocks`: the blocks that a walk meets, from the opening line of a block to the line after it;
* `FindsOn`, `findsOn_findTaggedFrom`: the search for a tagged block is the first part of the walk;
* `blocks_of_findMember`: the walk below an assignment is the rest of it;
* `members_of_collected`: **all members that are found are those of the tagged blocks of one walk**;
* `assemble_classes`: **the classes of a source are those of its class lines, in order, each with the
  variables that one walk meets**.
-/

import ReferencePages.Proofs.Source.StrictMode

namespace ReferencePages

open Text Declaration

/-! ### Walks -/

/-- The blocks that open in the lines from a position on and before `stop`. Lines before `resume`
belong to the block met last, which is stepped over whole. -/
def blocksFrom (stop : Nat) : (resume pos : Nat) → List Line → Except ScanError (List DocBlock)
  | _, _, [] => .ok []
  | resume, pos, line :: rest =>
    if stop ≤ pos then .ok []
    else if pos < resume || ! opensBlock line then blocksFrom stop resume (pos + 1) rest
    else do
      let block ← DocBlock.read pos line rest
      let more ← blocksFrom stop block.next (pos + 1) rest
      return block :: more

theorem trimStart_dropPads (line : Line) : trimStart (dropPads line) = trimStart line := by
  induction line with
  | nil => rfl
  | cons c rest ih =>
    by_cases pad : isPad c = true
    · have dropped : dropPads (c :: rest) = dropPads rest := List.dropWhile_cons_of_pos pad
      rw [dropped, ih]
      exact (List.dropWhile_cons_of_pos (isBlank_of_isPad pad)).symm
    · rw [dropPads, List.dropWhile_cons_of_neg pad]

/-- An assignment opens no block: its first letter belongs to a name. -/
theorem not_opensBlock_of_classVariableOf? {block : DocBlock} {line : Line} {found : ClassVariable}
    (same : classVariableOf? block line = some found) : opensBlock line = false := by
  obtain ⟨assigned, isAssigned, -⟩ := Option.map_eq_some_iff.mp same
  obtain ⟨⟨name, rest⟩, isName, -⟩ := Option.bind_eq_some_iff.mp isAssigned
  unfold opensBlock
  rw [← trimStart_dropPads]
  generalize dropPads line = text at isName
  cases text with
  | nil => cases isName
  | cons c tail =>
    have isStart : isNameStart c = true := by
      by_contra other
      rw [identifier?, name?, if_neg other] at isName
      cases isName
    have written := isBlank_of_isNameRest (isNameRest_of_isNameStart isStart)
    have trimmed : trimStart (c :: tail) = c :: tail :=
      List.dropWhile_cons_of_neg (by simp [written])
    have other : c ≠ '"' := by
      rintro rfl
      cases isStart
    rw [trimmed, opensWith, sentinel, List.isPrefixOf_cons_cons, beq_false_of_ne other.symm,
      Bool.false_and]

namespace Source

variable {source : Source} {stop : Nat}

/-- The blocks that a walk over the lines from `start` on and before `stop` meets, in order. -/
def blocks (source : Source) (start stop : Nat) : Except ScanError (List DocBlock) :=
  blocksFrom stop start start (source.linesFrom start)

theorem blocks_of_le {start : Nat} (late : stop ≤ start) : source.blocks start stop = .ok [] := by
  unfold blocks
  cases source.linesFrom start with
  | nil => rfl
  | cons line rest => rw [blocksFrom, if_pos late]

theorem blocks_of_nil {start : Nat} (empty : source.linesFrom start = []) :
    source.blocks start stop = .ok [] := by
  unfold blocks
  rw [empty]
  rfl

/-- A walk that has stepped over a block goes on below it. -/
theorem blocksFrom_eq_blocks (resume pos : Nat) :
    blocksFrom stop resume pos (source.linesFrom pos) = source.blocks (max resume pos) stop := by
  generalize isFrom : source.linesFrom pos = ls
  induction ls generalizing resume pos with
  | nil =>
    have short := linesFrom_eq_nil isFrom
    rw [blocks_of_nil (List.drop_eq_nil_iff.mpr (by omega))]
    rfl
  | cons line rest ih =>
    obtain ⟨-, below⟩ := linesFrom_cons isFrom
    by_cases late : stop ≤ pos
    · rw [blocksFrom, if_pos late, blocks_of_le (by omega)]
    by_cases inside : pos < resume
    · rw [blocksFrom, if_neg late, if_pos (by simp [inside]), ih _ _ below]
      congr 1
      omega
    · rw [show max resume pos = pos by omega, blocks, isFrom, blocksFrom, blocksFrom, if_neg late,
        if_neg late, ih resume (pos + 1) below, ih pos (pos + 1) below,
        show max resume (pos + 1) = max pos (pos + 1) by omega]
      simp only [inside, Nat.lt_irrefl]

theorem linesFrom_of_line {pos : Nat} {line : Line} (isLine : source.lines[pos]? = some line) :
    source.linesFrom pos = line :: source.linesFrom (pos + 1) := by
  unfold linesFrom
  rw [List.drop_eq_getElem?_toList_append, isLine]
  rfl

/-- A line that opens no block is passed over. -/
theorem blocks_of_plain {pos : Nat} {line : Line} (isLine : source.lines[pos]? = some line)
    (plain : opensBlock line = false) : source.blocks pos stop = source.blocks (pos + 1) stop := by
  by_cases late : stop ≤ pos
  · rw [blocks_of_le late, blocks_of_le (by omega)]
  · rw [blocks, linesFrom_of_line isLine, blocksFrom, if_neg late, if_pos (by simp [plain]),
      blocksFrom_eq_blocks]
    congr 1
    omega

/-- A block is met on its opening line, and the walk goes on below it. -/
theorem blocks_of_block {pos : Nat} {line : Line} {block : DocBlock} (early : pos < stop)
    (isLine : source.lines[pos]? = some line) (opens : opensBlock line = true)
    (isBlock : DocBlock.read pos line (source.linesFrom (pos + 1)) = .ok block) :
    source.blocks pos stop = (source.blocks block.next stop).map (block :: ·) := by
  obtain ⟨-, later⟩ := DocBlock.openLine_read isBlock
  have below : blocksFrom stop block.next (pos + 1) (source.linesFrom (pos + 1)) =
      source.blocks block.next stop := by
    rw [blocksFrom_eq_blocks, show max block.next (pos + 1) = block.next by omega]
  rw [blocks, linesFrom_of_line isLine, blocksFrom, if_neg (by omega), if_neg (by simp [opens]),
    isBlock]
  show (blocksFrom stop block.next (pos + 1) (source.linesFrom (pos + 1)) >>= _) = _
  rw [below]
  cases source.blocks block.next stop <;> rfl

/-- Lines that open no block are passed over. -/
theorem blocks_of_gap {pos next : Nat} (later : pos ≤ next)
    (plain : ∀ j line, pos ≤ j → j < next → source.lines[j]? = some line →
      opensBlock line = false) : source.blocks pos stop = source.blocks next stop := by
  induction next, later using Nat.le_induction with
  | base => rfl
  | succ next later ih =>
    rw [ih fun j line late early => plain j line late (by omega)]
    cases isLine : source.lines[next]? with
    | some line => exact blocks_of_plain isLine (plain next line later (by omega) isLine)
    | none =>
      have short := List.getElem?_eq_none_iff.mp isLine
      rw [blocks_of_nil (List.drop_eq_nil_iff.mpr short),
        blocks_of_nil (List.drop_eq_nil_iff.mpr (by omega))]

/-! ### Searches as parts of a walk -/

variable {tag : Text} {start : Nat}

/-- What a search for a tagged block finds is the first block with the tag that a walk from `start` on
meets, and the walk goes on below it. -/
def FindsOn (source : Source) (tag : Text) (start stop : Nat) :
    Except ScanError (Option DocBlock) → Prop
  | .error _ => True
  | .ok none => ∃ met, source.blocks start stop = .ok met ∧ ∀ block ∈ met, block.tag ≠ some tag
  | .ok (some block) =>
    block.tag = some tag ∧ start < block.next ∧
      ∃ before, (∀ other ∈ before, other.tag ≠ some tag) ∧
        source.blocks start stop = (source.blocks block.next stop).map (before ++ block :: ·)

theorem FindsOn.of_plain {line : Line} {result : Except ScanError (Option DocBlock)}
    (isLine : source.lines[start]? = some line) (plain : opensBlock line = false)
    (below : source.FindsOn tag (start + 1) stop result) : source.FindsOn tag start stop result := by
  rcases result with error | (- | block)
  · trivial
  · obtain ⟨met, isMet, others⟩ := below
    exact ⟨met, (blocks_of_plain isLine plain).trans isMet, others⟩
  · obtain ⟨isTagged, later, before, others, walked⟩ := below
    exact ⟨isTagged, by omega, before, others, (blocks_of_plain isLine plain).trans walked⟩

theorem FindsOn.of_block {line : Line} {first : DocBlock}
    {result : Except ScanError (Option DocBlock)} (early : start < stop)
    (isLine : source.lines[start]? = some line) (opens : opensBlock line = true)
    (isFirst : DocBlock.read start line (source.linesFrom (start + 1)) = .ok first)
    (differs : first.tag ≠ some tag) (below : source.FindsOn tag first.next stop result) :
    source.FindsOn tag start stop result := by
  have walked := blocks_of_block early isLine opens isFirst
  obtain ⟨-, later⟩ := DocBlock.openLine_read isFirst
  rcases result with error | (- | block)
  · trivial
  · obtain ⟨met, isMet, others⟩ := below
    refine ⟨first :: met, ?_, List.forall_mem_cons.mpr ⟨differs, others⟩⟩
    rw [walked, isMet]
    rfl
  · obtain ⟨isTagged, later', before, others, walked'⟩ := below
    refine ⟨isTagged, by omega, first :: before, List.forall_mem_cons.mpr ⟨differs, others⟩, ?_⟩
    rw [walked, walked']
    cases source.blocks block.next stop <;> rfl

/-- **The search for a tagged block is the first part of a walk.** -/
theorem findsOn_findTaggedFrom (tag : Text) (stop resume pos : Nat) :
    source.FindsOn tag (max resume pos) stop
      (findTaggedFrom tag stop resume pos (source.linesFrom pos)) := by
  generalize isFrom : source.linesFrom pos = ls
  induction ls generalizing resume pos with
  | nil =>
    have short := linesFrom_eq_nil isFrom
    exact ⟨[], blocks_of_nil (List.drop_eq_nil_iff.mpr (by omega)),
      fun block member => absurd member List.not_mem_nil⟩
  | cons line rest ih =>
    obtain ⟨isLine, below⟩ := linesFrom_cons isFrom
    rw [findTaggedFrom]
    by_cases late : stop ≤ pos
    · rw [if_pos late]
      exact ⟨[], blocks_of_le (by omega), fun block member => absurd member List.not_mem_nil⟩
    rw [if_neg late]
    by_cases inside : pos < resume
    · have later := ih resume (pos + 1) below
      rw [show max resume (pos + 1) = max resume pos by omega] at later
      rwa [if_pos (by simp [inside])]
    rw [show max resume pos = pos by omega]
    by_cases opens : opensBlock line = true
    · rw [if_neg (by simp [inside, opens]), ← below]
      cases isFirst : DocBlock.read pos line (source.linesFrom (pos + 1)) with
      | error error => trivial
      | ok first =>
        obtain ⟨-, later⟩ := DocBlock.openLine_read isFirst
        simp only
        by_cases isTagged : first.tag = some tag
        · rw [if_pos isTagged]
          refine ⟨isTagged, later, [], fun other member => absurd member List.not_mem_nil, ?_⟩
          exact blocks_of_block (by omega) isLine opens isFirst
        · have rest := ih first.next (pos + 1) below
          rw [show max first.next (pos + 1) = first.next by omega, ← below] at rest
          rw [if_neg isTagged]
          exact .of_block (by omega) isLine opens isFirst isTagged rest
    · have plain : opensBlock line = false := Bool.eq_false_iff.mpr opens
      have rest := ih resume (pos + 1) below
      rw [show max resume (pos + 1) = pos + 1 by omega] at rest
      rw [if_pos (by simp [plain])]
      exact .of_plain isLine plain rest

/-! ### Members -/

/-- What the first line below a block that is not blank makes of it, if that line stands before
`stop`. -/
def memberBelow? {α : Type} (source : Source) (read? : DocBlock → Line → Option α) (stop : Nat)
    (block : DocBlock) : Option α := do
  let found ← firstWritten block.next (source.linesFrom block.next)
  if found.line < stop then read? block found.text else none

variable {α : Type} {kind : MemberKind} {read? : DocBlock → Line → Option α}

/-- A search for a member that finds none has walked to the end. -/
theorem blocks_of_findMember_none
    (nothing : findMember kind tag read? stop start (source.linesFrom start) = .ok none) :
    ∃ met, source.blocks start stop = .ok met ∧ ∀ block ∈ met, block.tag ≠ some tag := by
  have finds := source.findsOn_findTaggedFrom tag stop start start
  rw [Nat.max_self] at finds
  unfold findMember ReferencePages.findTagged at nothing
  split at nothing
  · cases nothing
  · rename_i isNone
    rwa [isNone] at finds
  · simp only at nothing
    split at nothing <;> cases nothing

/-- **A search for a member walks to the first block with the tag, and the walk goes on below the line
that declares the member.** -/
theorem blocks_of_findMember {a : α} {next : Nat}
    (plain : ∀ block line b, read? block line = some b → opensBlock line = false)
    (found : findMember kind tag read? stop start (source.linesFrom start) = .ok (some (a, next))) :
    ∃ before block, (∀ other ∈ before, other.tag ≠ some tag) ∧ block.tag = some tag ∧
      source.memberBelow? read? stop block = some a ∧ start < next ∧
      source.blocks start stop = (source.blocks next stop).map (before ++ block :: ·) := by
  have finds := source.findsOn_findTaggedFrom tag stop start start
  rw [Nat.max_self] at finds
  unfold findMember ReferencePages.findTagged at found
  split at found
  · cases found
  · cases found
  · rename_i block isBlock
    rw [isBlock] at finds
    obtain ⟨isTagged, later, before, others, walked⟩ := finds
    have isFrom : (source.linesFrom start).drop (block.next - start) =
        source.linesFrom block.next := by
      unfold linesFrom
      rw [List.drop_drop, show start + (block.next - start) = block.next by omega]
    simp only [isFrom] at found
    split at found
    · rename_i pair isTarget
      cases found
      obtain ⟨target, isWritten, isRead⟩ := Option.bind_eq_some_iff.mp isTarget
      obtain ⟨late, isLine, -, -, between⟩ := firstWritten_eq_some_iff.mp isWritten
      split at isRead
      · rename_i early
        obtain ⟨b, isMember, shown⟩ := Option.map_eq_some_iff.mp isRead
        obtain ⟨rfl, rfl⟩ := Prod.mk.inj shown
        refine ⟨before, block, others, isTagged, ?_, by omega, ?_⟩
        · unfold memberBelow?
          rw [isWritten, Option.bind_eq_bind, Option.bind_some, if_pos early, isMember]
        · -- blank lines lie between the block and the declaration, which opens no block
          have rest : source.blocks block.next stop = source.blocks (target.line + 1) stop := by
            refine blocks_of_gap (by omega) fun j line lateJ earlyJ isJ => ?_
            rcases Nat.lt_succ_iff_lt_or_eq.mp earlyJ with above | rfl
            · refine Bool.eq_false_iff.mpr fun opens => ?_
              cases (between j line lateJ above isJ).symm.trans (not_allBlank_of_opensBlock opens)
            · obtain rfl := Option.some.inj (isLine.symm.trans isJ)
              exact plain block _ _ isMember
          rw [walked, rest]
      · cases isRead
    · cases found

/-- **All members that are found are those of the tagged blocks of one walk, in order.** -/
theorem members_of_collected {found : List (α × Nat)}
    (plain : ∀ block line b, read? block line = some b → opensBlock line = false)
    (collected : Collected (findMember kind tag read? stop) source start found) :
    ∃ met, source.blocks start stop = .ok met ∧
      (met.filter (·.tag = some tag)).map (source.memberBelow? read? stop) =
        found.map fun pair => some pair.1 := by
  induction collected with
  | ended empty => exact ⟨[], blocks_of_nil empty, rfl⟩
  | stopped nothing =>
    obtain ⟨met, isMet, others⟩ := blocks_of_findMember_none nothing
    refine ⟨met, isMet, ?_⟩
    rw [List.filter_eq_nil_iff.mpr fun block member => by simpa using others block member]
    rfl
  | @step start next a more here below ih =>
    obtain ⟨before, block, others, isTagged, isMember, later, walked⟩ :=
      blocks_of_findMember plain here
    obtain ⟨met, isMet, members⟩ := ih
    rw [show max next (start + 1) = next by omega] at isMet
    refine ⟨before ++ block :: met, ?_, ?_⟩
    · rw [walked, isMet]
      rfl
    · have none : before.filter (·.tag = some tag) = [] :=
        List.filter_eq_nil_iff.mpr fun other member => by simpa using others other member
      rw [List.filter_append, none, List.nil_append, List.filter_cons_of_pos (by simpa using isTagged),
        List.map_cons, isMember, members, List.map_cons]

/-! ### Classes -/

/-- The records of classes bear the lines and names of their headers, and the variables documented
between a header's body start and the next header. -/
theorem classRecords_eq_ok {headers : List (ClassHeader × Nat)} {records : List ClassRecord}
    (same : source.classRecords headers = .ok records) :
    records.map (fun c => (c.position, c.name)) =
        headers.map (fun pair => (pair.1.line, pair.1.name)) ∧
      ∀ k c, records[k]? = some c → ∃ pair, headers[k]? = some pair ∧ pair.1.line = c.position ∧
        source.classVariables pair.2 (source.spanEnd (headers.map (·.1.line)) k) =
          .ok c.classVariables := by
  induction headers generalizing records with
  | nil =>
    cases same
    exact ⟨rfl, fun k c isRecord => absurd isRecord (by simp)⟩
  | cons pair later ih =>
    obtain ⟨header, bodyStart⟩ := pair
    obtain ⟨first, isFirst, same⟩ := bind_eq_ok same
    obtain ⟨rest, isRest, same⟩ := bind_eq_ok same
    cases same
    obtain ⟨documented, isDocumented, isFirst⟩ := bind_eq_ok isFirst
    obtain ⟨members, -, isFirst⟩ := bind_eq_ok isFirst
    cases isFirst
    obtain ⟨named, found⟩ := ih isRest
    refine ⟨?_, fun k c isRecord => ?_⟩
    · rw [List.map_cons, List.map_cons, named]
    · cases k with
      | zero =>
        cases isRecord
        refine ⟨(header, bodyStart), rfl, rfl, ?_⟩
        have isStop : source.spanEnd (header.line :: later.map (·.1.line)) 0 =
            (later.head?.map (·.1.line)).getD source.lines.length := by
          cases later <;> rfl
        rw [List.map_cons, isStop]
        exact orFault_eq_ok isDocumented
      | succ k => exact found k c isRecord

/-- What does not depend on functions and fields is kept when they are added. -/
theorem map_withFunctions {β : Type} (f : ClassRecord → β)
    (kept : ∀ c functions fields, f { c with functions := functions, fields := fields } = f c)
    {headers : List (ClassHeader × Nat)} {classes found : List ClassRecord}
    (same : source.withFunctions headers classes = .ok found) : found.map f = classes.map f := by
  cases classes with
  | nil =>
    cases same
    rfl
  | cons first others =>
    cases headers with
    | nil =>
      cases same
      rfl
    | cons pair later =>
      obtain ⟨functions, -, same⟩ := bind_eq_ok same
      obtain ⟨fields, -, same⟩ := bind_eq_ok same
      cases same
      rw [List.map_cons, List.map_cons, kept]

/-- The headers of a source bear the lines and the names of its public classes, in order. -/
theorem map_classHeaders {headers : List (ClassHeader × Nat)}
    (same : source.classHeaders = .ok headers) :
    headers.map (fun pair => (pair.1.line, pair.1.name)) =
      (List.range source.lines.length).filterMap fun i =>
        (source.classAt? i).map fun declared => (i, declared.name) := by
  obtain ⟨positions, areHeaders⟩ := classHeaders_eq_ok same
  have shown : headers.map (fun pair => (pair.1.line, pair.1.name)) =
      (headers.map (·.1.line)).filterMap fun i =>
        (source.classAt? i).map fun declared => (i, declared.name) := by
    rw [List.filterMap_map, ← List.filterMap_eq_map]
    refine List.filterMap_congr fun pair member => ?_
    obtain ⟨declared, isClass, isNamed, -⟩ := (areHeaders pair member).declared
    simp only [Function.comp_apply, isClass, Option.map_some, isNamed]
  rw [shown, positions, classLines, List.filterMap_filter]
  refine List.filterMap_congr fun i _ => ?_
  cases source.classAt? i <;> rfl

/-- **The classes of a source are those of its class lines, in order, each with the variables that one
walk meets**: from the start of its body to the next class line, or to the end. -/
theorem assemble_classes {strict : Bool} {classes : List ClassRecord}
    (same : source.assemble strict = .ok classes) :
    classes.map (fun c => (c.position, c.name)) =
        (List.range source.lines.length).filterMap (fun i =>
          (source.classAt? i).map fun declared => (i, declared.name)) ∧
      classes.Pairwise (fun first second => first.position < second.position) ∧
      ∀ k c, classes[k]? = some c →
        ∃ met, source.blocks (source.bodyStart c.position)
            (source.spanEnd source.classLines k) = .ok met ∧
          (met.filter (·.tag = some classVariableTag)).map
              (source.memberBelow? classVariableOf? (source.spanEnd source.classLines k)) =
            c.classVariables.map some := by
  have positions := positions_assemble same
  obtain ⟨headers, isHeaders, same⟩ := bind_eq_ok same
  obtain ⟨-, -, same⟩ := bind_eq_ok same
  obtain ⟨records, isRecords, same⟩ := bind_eq_ok same
  have isHeaders := orFault_eq_ok isHeaders
  have same := orFault_eq_ok same
  obtain ⟨named, found⟩ := classRecords_eq_ok isRecords
  refine ⟨?_, ?_, fun k c isClass => ?_⟩
  · rw [map_withFunctions _ (fun _ _ _ => rfl) same, named, map_classHeaders isHeaders]
  · rw [← List.pairwise_map (R := (· < ·)), positions]
    exact List.pairwise_lt_range.filter _
  · have kept := congrArg (·[k]?)
      (map_withFunctions (fun c => (c.position, c.classVariables)) (fun _ _ _ => rfl) same)
    simp only [List.getElem?_map, isClass, Option.map_some] at kept
    obtain ⟨record, isRecord, fields⟩ := Option.map_eq_some_iff.mp kept.symm
    obtain ⟨samePosition, sameVariables⟩ := Prod.mk.inj fields
    obtain ⟨pair, isPair, isLine, isFound⟩ := found k record isRecord
    obtain ⟨lines, areHeaders⟩ := classHeaders_eq_ok isHeaders
    have body := (areHeaders pair (List.mem_of_getElem? isPair)).body
    rw [lines, body, isLine, samePosition, sameVariables] at isFound
    obtain ⟨collected, isCollected, shown⟩ := map_eq_ok isFound
    have steps := collected_of_collect isCollected
    rw [Nat.max_self] at steps
    obtain ⟨met, isMet, members⟩ := members_of_collected
      (fun _ _ _ => not_opensBlock_of_classVariableOf?) steps
    refine ⟨met, isMet, members.trans ?_⟩
    rw [← shown, List.map_map]
    rfl

/-- Two public classes and a private one; a block with another tag mentions the tag of a variable. -/
def walkSample : Source :=
  ofText "a.py".toList (joinLines (["class Box:", "    \"\"\":class_var Wide.\"\"\"", "",
    "    WIDTH: int = 3", "    \"\"\":note", "    :class_var", "    \"\"\"",
    "    \"\"\":class_var", "    Tall.", "    \"\"\"", "    HEIGHT = 4", "class _Hidden:",
    "class Lid:", "    SIZE = 1"].map (·.toList)))

theorem assemble_classes_sample :
    ∃ first second, walkSample.assemble false = .ok [first, second] ∧
      [first, second].map (fun c => (c.position, c.name)) =
        [(0, "Box".toList), (12, "Lid".toList)] ∧
      ∃ met, walkSample.blocks (walkSample.bodyStart first.position) 12 = .ok met ∧
        (met.filter (·.tag = some classVariableTag)).map
            (walkSample.memberBelow? classVariableOf? 12) = first.classVariables.map some := by
  have read : ((walkSample.assemble false).toOption.map List.length) = some 2 := by decide +kernel
  have ends : walkSample.spanEnd walkSample.classLines 0 = 12 := by decide +kernel
  cases assembled : walkSample.assemble false with
  | error fault =>
    rw [assembled] at read
    cases read
  | ok classes =>
    rw [assembled] at read
    obtain ⟨first, second, rfl⟩ := List.length_eq_two.mp (Option.some.inj read)
    obtain ⟨named, -, walked⟩ := assemble_classes assembled
    have met := walked 0 first rfl
    rw [ends] at met
    exact ⟨first, second, rfl, named.trans (by decide +kernel), met⟩

end Source

end ReferencePages
