/-
**Searches advance, and their loops end.**

A search is given the position to start from and tells the position to resume from. The loops through a
source search again from there, and nothing but the search itself keeps them from going round for ever
or past the last line.

* `Source.Spans`: a fragment stands where its search started or below, the search resumes below it, and
  at most right below the last line;
* `spans_findClass`, `spans_findFunction`, `spans_findMember`, `spans_findTagged`: **every search
  advances and stays among the lines**;
* `Loops`: the finite runs of a loop; `Loops.unique`: there is at most one;
* `loops_collect`, `loops_headersFrom`: there is one, and it gives what the library collects;
* `Loops.ordered`: what a run finds stands in order, each fragment below all that the one before it took;
* `walksUntil_findTaggedFrom`: the walk to a tagged block ends, too;
* `searches_advance`: **all of this for every source and every start**.
-/

import ReferencePages.Proofs.Source.OneWalk
import ReferencePages.Proofs.Source.UnclosedBlocks

namespace ReferencePages

open Text Declaration

/-! ### Fragments among the lines -/

/-- The line stands from `start` on and before `next`, which is at most right below the last line. -/
def Source.Spans (source : Source) (start line next : Nat) : Prop :=
  start ≤ line ∧ line < next ∧ next ≤ source.lines.length

theorem staysIn_findClass (first last : Nat) :
    Finder.StaysIn findClass first last
      fun pair => first ≤ pair.1.line ∧ pair.1.line < pair.2 ∧ pair.2 ≤ last := by
  intro pos ls late ends
  induction ls generalizing pos with
  | nil => exact fun pair member => absurd member (Option.not_mem_none pair)
  | cons line rest ih =>
    rw [List.length_cons] at ends
    rw [findClass]
    split
    · rename_i declared _
      refine ((stays_classHeaderAt pos declared rest).imp late (by omega)
        fun pair within => within).map fun pair within => ?_
      intro other member
      cases member
      omega
    · exact ih (pos + 1) (Nat.le_succ_of_le late) (by omega)

/-- A member that is found is read from the first block with the tag, and the search resumes below that
block. -/
theorem findMember_eq_some {α : Type} {kind : MemberKind} {tag : Text}
    {read? : DocBlock → Line → Option α} {stop pos next : Nat} {ls : List Line} {a : α}
    (found : findMember kind tag read? stop pos ls = .ok (some (a, next))) :
    ∃ block line, findTagged tag stop pos ls = .ok (some block) ∧ read? block line = some a ∧
      block.next < next := by
  unfold findMember at found
  split at found
  · cases found
  · cases found
  · rename_i block isBlock
    simp only at found
    split at found
    · rename_i pair isPair
      cases found
      obtain ⟨target, isTarget, isPair⟩ := Option.bind_eq_some_iff.mp isPair
      obtain ⟨later, -⟩ := firstWritten_bounds isTarget
      split at isPair
      · obtain ⟨member, isMember, same⟩ := Option.map_eq_some_iff.mp isPair
        cases same
        exact ⟨block, target.text, isBlock, isMember, Nat.lt_succ_of_le later⟩
      · cases isPair
    · cases found

namespace Source

variable {source : Source} {start stop next : Nat}

/-- What a finder promises within its lines holds of what it finds from `start` on. -/
theorem of_staysIn {α : Type} {find : Finder α} {P : α × Nat → Prop} (pair : α × Nat)
    (nothing : find start [] = .ok none) (staysIn : find.StaysIn start source.lines.length P)
    (found : find start (source.linesFrom start) = .ok (some pair)) : P pair := by
  by_cases inside : start ≤ source.lines.length
  · have stays := staysIn start _ le_rfl (source.length_linesFrom inside)
    rw [found] at stays
    exact stays pair rfl
  · have empty : source.linesFrom start = [] := List.drop_eq_nil_iff.mpr (by omega)
    rw [empty, nothing] at found
    cases found

theorem spans_findClass {header : ClassHeader}
    (found : source.findClass start = .ok (some (header, next))) :
    source.Spans start header.line next :=
  of_staysIn (header, next) rfl (staysIn_findClass _ _) found

theorem spans_findFunction {indents : List Nat} {header : FunctionHeader}
    (found : source.findFunction start indents = .ok (some (header, next))) :
    source.Spans start header.line next :=
  of_staysIn (header, next) rfl (staysIn_findFunctionFrom _ _ _ _) found

theorem spans_findTagged {tag : Text} {block : DocBlock}
    (found : source.findTagged tag start stop = .ok (some block)) :
    source.Spans start block.openLine block.next := by
  unfold findTagged ReferencePages.findTagged at found
  by_cases inside : start ≤ source.lines.length
  · have stays := stays_findTaggedFrom tag stop start start (source.linesFrom start)
    rw [found, source.length_linesFrom inside] at stays
    exact stays block rfl
  · have empty : source.linesFrom start = [] := List.drop_eq_nil_iff.mpr (by omega)
    rw [empty] at found
    cases found

/-- A member stands with its block: the search resumes below the line that declares it. -/
theorem spans_findMember {α : Type} {kind : MemberKind} {tag : Text}
    {read? : DocBlock → Line → Option α} {a : α}
    (found : findMember kind tag read? stop start (source.linesFrom start) = .ok (some (a, next))) :
    ∃ block line, source.findTagged tag start stop = .ok (some block) ∧ read? block line = some a ∧
      source.Spans start block.openLine next := by
  have inside := of_staysIn (a, next) rfl (staysIn_findMember kind tag read? stop _ _) found
  obtain ⟨block, line, isBlock, isMember, later⟩ := findMember_eq_some found
  obtain ⟨late, ends, -⟩ := spans_findTagged isBlock
  exact ⟨block, line, isBlock, isMember, late, ends.trans later, inside.2⟩

end Source

/-! ### Loops -/

section Loops

variable {α : Type} {find : Nat → Except ScanError (Option α)} {resume : α → Nat} {pos : Nat}

/-- The finite runs of a loop that searches from a position, keeps what is found and goes on where
`resume` tells it to, until nothing is found or a search fails. -/
inductive Loops (find : Nat → Except ScanError (Option α)) (resume : α → Nat) :
    Nat → Except ScanError (List α) → Prop
  | stops {pos : Nat} (nothing : find pos = .ok none) : Loops find resume pos (.ok [])
  | fails {pos : Nat} {error : ScanError} (failed : find pos = .error error) :
      Loops find resume pos (.error error)
  | goesOn {pos : Nat} {a : α} {rest : Except ScanError (List α)} (found : find pos = .ok (some a))
      (below : Loops find resume (resume a) rest) : Loops find resume pos (rest.map (a :: ·))

/-- **A loop has one run at most.** -/
theorem Loops.unique {first second : Except ScanError (List α)} (one : Loops find resume pos first)
    (two : Loops find resume pos second) : first = second := by
  induction one generalizing second with
  | stops nothing =>
    cases two with
    | stops _ => rfl
    | fails failed => cases nothing.symm.trans failed
    | goesOn found _ => cases nothing.symm.trans found
  | fails failed =>
    cases two with
    | stops nothing => cases failed.symm.trans nothing
    | fails failed' =>
      cases failed.symm.trans failed'
      rfl
    | goesOn found _ => cases failed.symm.trans found
  | goesOn found _ ih =>
    cases two with
    | stops nothing => cases found.symm.trans nothing
    | fails failed => cases found.symm.trans failed
    | goesOn found' below =>
      cases found.symm.trans found'
      rw [ih below]

/-- A run depends on its start only by what is found from there. -/
theorem Loops.congr {other : Nat} {result : Except ScanError (List α)} (same : find other = find pos)
    (run : Loops find resume pos result) : Loops find resume other result := by
  cases run with
  | stops nothing => exact .stops (same.trans nothing)
  | fails failed => exact .fails (same.trans failed)
  | goesOn found below => exact .goesOn (same.trans found) below

/-- **What a run finds stands in order**, each fragment below all that the one before it took. -/
theorem Loops.ordered {line : α → Nat}
    (advances : ∀ pos a, find pos = .ok (some a) → pos ≤ line a ∧ line a < resume a)
    {result : Except ScanError (List α)} (run : Loops find resume pos result) :
    ∀ found, result = .ok found → (∀ a ∈ found, pos ≤ line a) ∧
      found.Pairwise fun first second => line first < line second ∧ resume first ≤ line second := by
  induction run with
  | stops nothing =>
    rintro found ⟨⟩
    exact ⟨fun a member => absurd member List.not_mem_nil, .nil⟩
  | fails failed => exact fun found same => (by cases same)
  | goesOn here _ ih =>
    intro found same
    obtain ⟨more, isMore, rfl⟩ := map_eq_ok same
    obtain ⟨below, ordered⟩ := ih more isMore
    obtain ⟨late, later⟩ := advances _ _ here
    refine ⟨List.forall_mem_cons.mpr ⟨late, fun a member => ?_⟩, List.pairwise_cons.mpr
      ⟨fun a member => ?_, ordered⟩⟩
    · exact (late.trans later.le).trans (below a member)
    · exact ⟨later.trans_le (below a member), below a member⟩

end Loops

namespace Source

variable {source : Source} {start stop : Nat} {tag : Text}

/-- **A loop over a finder that advances ends**, with what is collected in one pass over the lines. -/
theorem loops_collect {α : Type} {find : Finder α} (nothing : ∀ pos, find pos [] = .ok none)
    (advances : ∀ pos a next, find pos (source.linesFrom pos) = .ok (some (a, next)) → pos < next)
    (resume pos : Nat) :
    Loops (fun i => find i (source.linesFrom i)) (·.2) (max resume pos)
      (collect find resume pos (source.linesFrom pos)) := by
  generalize isFrom : source.linesFrom pos = ls
  induction ls generalizing resume pos with
  | nil =>
    have short := linesFrom_eq_nil isFrom
    have empty : source.linesFrom (max resume pos) = [] := List.drop_eq_nil_iff.mpr (by omega)
    refine .stops ?_
    simp only [empty, nothing]
  | cons line rest ih =>
    obtain ⟨-, below⟩ := linesFrom_cons isFrom
    rw [collect]
    split
    · rename_i early
      have later := ih resume (pos + 1) below
      rwa [show max resume (pos + 1) = max resume pos by omega] at later
    · rename_i late
      rw [show max resume pos = pos by omega, ← isFrom]
      split
      · rename_i error failed
        exact .fails failed
      · rename_i isNone
        exact .stops isNone
      · rename_i a next found
        have later := ih next (pos + 1) below
        rw [Nat.max_eq_left (Nat.succ_le_of_lt (advances pos a next found))] at later
        have more : Loops (fun i => find i (source.linesFrom i)) (·.2) pos
            ((collect find next (pos + 1) rest).map ((a, next) :: ·)) := .goesOn found later
        convert more using 1
        cases collect find next (pos + 1) rest <;> rfl

/-- **A loop has exactly one run**, which gives what is collected. -/
theorem loops_iff_collect {α : Type} {find : Finder α} (nothing : ∀ pos, find pos [] = .ok none)
    (advances : ∀ pos a next, find pos (source.linesFrom pos) = .ok (some (a, next)) → pos < next)
    (result : Except ScanError (List (α × Nat))) :
    Loops (fun i => find i (source.linesFrom i)) (·.2) start result ↔
      result = collect find start start (source.linesFrom start) := by
  have run := loops_collect nothing advances start start
  rw [Nat.max_self] at run
  exact ⟨fun other => other.unique run, fun same => same ▸ run⟩

/-- The loop over class headers resumes right below each header line. -/
theorem loops_headersFrom (source : Source) (pos : Nat) :
    Loops source.findClass (fun found => found.1.line + 1) pos
      (headersFrom pos (source.linesFrom pos)) := by
  generalize isFrom : source.linesFrom pos = ls
  induction ls generalizing pos with
  | nil =>
    refine .stops ?_
    rw [findClass, isFrom]
    rfl
  | cons line rest ih =>
    obtain ⟨-, below⟩ := linesFrom_cons isFrom
    have run := ih (pos + 1) below
    rw [headersFrom]
    cases isClass : publicClass? line with
    | none =>
      refine run.congr ?_
      rw [findClass, findClass, isFrom, below, ReferencePages.findClass, isClass]
    | some declared =>
      have here : source.findClass pos = (classHeaderAt pos declared rest).map some := by
        rw [findClass, isFrom, ReferencePages.findClass, isClass]
      simp only
      cases isHeader : classHeaderAt pos declared rest with
      | error error => exact .fails (by rw [here, isHeader]; rfl)
      | ok found =>
        obtain ⟨isAt, -⟩ := classHeaderAt_eq_ok isHeader
        have isFound : source.findClass pos = .ok (some found) := by
          rw [here, isHeader]
          rfl
        have more : Loops source.findClass (fun found => found.1.line + 1) pos
            ((headersFrom (pos + 1) rest).map (found :: ·)) :=
          .goesOn isFound (by simpa only [isAt] using run)
        convert more using 1
        cases headersFrom (pos + 1) rest <;> rfl

/-! ### The walk to a tagged block -/

/-- A walk for a block with the tag comes to its end on line `last`: at the end of the lines, at a block
that has the tag, or at one that cannot be read. -/
inductive EndsWalk (source : Source) (tag : Text) (stop last : Nat) :
    Except ScanError (Option DocBlock) → Prop
  | nothing (late : min stop source.lines.length ≤ last) : EndsWalk source tag stop last (.ok none)
  | found {line : Line} {block : DocBlock} (early : last < stop)
      (isLine : source.lines[last]? = some line) (opens : opensBlock line = true)
      (isBlock : DocBlock.read last line (source.linesFrom (last + 1)) = .ok block)
      (isTagged : block.tag = some tag) : EndsWalk source tag stop last (.ok (some block))
  | failed {line : Line} {error : ScanError} (early : last < stop)
      (isLine : source.lines[last]? = some line) (opens : opensBlock line = true)
      (isError : DocBlock.read last line (source.linesFrom (last + 1)) = .error error) :
      EndsWalk source tag stop last (.error error)

/-- A walk from `start`, over blocks without the tag, comes to its end with the given result. -/
def WalksUntil (source : Source) (tag : Text) (stop start : Nat)
    (result : Except ScanError (Option DocBlock)) : Prop :=
  ∃ last met, source.WalksTo stop last start met ∧ (∀ block ∈ met, block.tag ≠ some tag) ∧
    source.EndsWalk tag stop last result

theorem EndsWalk.walksUntil {last : Nat} {result : Except ScanError (Option DocBlock)}
    (ends : source.EndsWalk tag stop last result) : source.WalksUntil tag stop last result :=
  ⟨last, [], .here, fun _ member => absurd member List.not_mem_nil, ends⟩

/-- **The walk behind a search for a tagged block ends**, with what the search gives. -/
theorem walksUntil_findTaggedFrom (tag : Text) (stop resume pos : Nat) :
    source.WalksUntil tag stop (max resume pos)
      (findTaggedFrom tag stop resume pos (source.linesFrom pos)) := by
  generalize isFrom : source.linesFrom pos = ls
  induction ls generalizing resume pos with
  | nil =>
    have short := linesFrom_eq_nil isFrom
    exact (EndsWalk.nothing (by omega)).walksUntil
  | cons line rest ih =>
    obtain ⟨isLine, below⟩ := linesFrom_cons isFrom
    rw [findTaggedFrom]
    by_cases late : stop ≤ pos
    · rw [if_pos late]
      exact (EndsWalk.nothing (by omega)).walksUntil
    have early : pos < stop := Nat.lt_of_not_le late
    rw [if_neg late]
    by_cases inside : pos < resume
    · have later := ih resume (pos + 1) below
      rw [show max resume (pos + 1) = max resume pos by omega] at later
      rwa [if_pos (by simp [inside])]
    rw [show max resume pos = pos by omega]
    by_cases opens : ReferencePages.opensBlock line = true
    · rw [if_neg (by simp [inside, opens]), ← below]
      cases isBlock : DocBlock.read pos line (source.linesFrom (pos + 1)) with
      | error error => exact (EndsWalk.failed early isLine opens isBlock).walksUntil
      | ok block =>
        simp only
        by_cases isTagged : block.tag = some tag
        · rw [if_pos isTagged]
          exact (EndsWalk.found early isLine opens isBlock isTagged).walksUntil
        · obtain ⟨-, later⟩ := DocBlock.openLine_read isBlock
          obtain ⟨last, met, walk, others, ends⟩ := ih block.next (pos + 1) below
          rw [show max block.next (pos + 1) = block.next by omega] at walk
          rw [if_neg isTagged, below]
          exact ⟨last, block :: met, .block early isLine opens isBlock walk,
            List.forall_mem_cons.mpr ⟨isTagged, others⟩, ends⟩
    · have plain : ReferencePages.opensBlock line = false := Bool.eq_false_iff.mpr opens
      obtain ⟨last, met, walk, others, ends⟩ := ih resume (pos + 1) below
      rw [show max resume (pos + 1) = pos + 1 by omega] at walk
      rw [if_pos (by simp [plain])]
      exact ⟨last, met, .pass early isLine plain walk, others, ends⟩

/-! ### Searches of a source -/

variable {next : Nat}

theorem lt_of_findFunction {indents : List Nat} (pos : Nat) (header : FunctionHeader) (next : Nat)
    (found : ReferencePages.findFunction indents pos (source.linesFrom pos) = .ok (some (header, next))) :
    pos < next := by
  obtain ⟨late, later, -⟩ := spans_findFunction found
  exact late.trans_lt later

theorem lt_of_findMember {α : Type} {kind : MemberKind} {read? : DocBlock → Line → Option α}
    (pos : Nat) (a : α) (next : Nat)
    (found : findMember kind tag read? stop pos (source.linesFrom pos) = .ok (some (a, next))) :
    pos < next := by
  obtain ⟨block, line, -, -, late, later, -⟩ := spans_findMember found
  exact late.trans_lt later

theorem spans_findField {field : Field}
    (found : source.findField start stop = .ok (some (field, next))) :
    ∃ block, source.findTagged fieldTag start stop = .ok (some block) ∧
      field.description = block.text ∧ source.Spans start block.openLine next := by
  obtain ⟨block, line, isBlock, isField, spans⟩ := spans_findMember found
  obtain ⟨name, -, rfl⟩ := Option.map_eq_some_iff.mp isField
  exact ⟨block, isBlock, rfl, spans⟩

theorem spans_findClassVariable {documented : ClassVariable}
    (found : source.findClassVariable start stop = .ok (some (documented, next))) :
    ∃ block, source.findTagged classVariableTag start stop = .ok (some block) ∧
      documented.description = block.text ∧ source.Spans start block.openLine next := by
  obtain ⟨block, line, isBlock, isVariable, spans⟩ := spans_findMember found
  obtain ⟨assigned, -, rfl⟩ := Option.map_eq_some_iff.mp isVariable
  exact ⟨block, isBlock, rfl, spans⟩

/-- **The function headers of a source stand in order**, each below the lines that the one before it
took. -/
theorem ordered_functionHeaders {bodyIndent : Nat} {found : List (FunctionHeader × Nat)}
    (same : source.functionHeaders start bodyIndent = .ok found) :
    found.Pairwise fun first second =>
      first.1.line < second.1.line ∧ first.2 ≤ second.1.line := by
  have run : Loops (source.findFunction · [0, bodyIndent]) (·.2) start (.ok found) :=
    (loops_iff_collect (fun _ => rfl) lt_of_findFunction (.ok found)).mpr same.symm
  have advances : ∀ pos (pair : FunctionHeader × Nat),
      source.findFunction pos [0, bodyIndent] = .ok (some pair) →
        pos ≤ pair.1.line ∧ pair.1.line < pair.2 := by
    rintro pos ⟨header, next⟩ here
    obtain ⟨late, later, -⟩ := spans_findFunction here
    exact ⟨late, later⟩
  exact (run.ordered advances found rfl).2

/-- **Searches advance, and their loops end.** A header, a documented member or a block that is found
from `start` on stands there or below, the search resumes below it and at most right below the last
line, wherever `start` and `stop` lie. So each loop through a source has exactly one run, and the walk to
a tagged block comes to its end; the function headers stand in order, each below the lines that the one
before it took. -/
theorem searches_advance (source : Source) (start : Nat) :
    (∀ header next, source.findClass start = .ok (some (header, next)) →
      source.Spans start header.line next) ∧
    (∀ indents header next, source.findFunction start indents = .ok (some (header, next)) →
      source.Spans start header.line next) ∧
    (∀ stop field next, source.findField start stop = .ok (some (field, next)) →
      ∃ block, source.findTagged fieldTag start stop = .ok (some block) ∧
        field.description = block.text ∧ source.Spans start block.openLine next) ∧
    (∀ stop documented next, source.findClassVariable start stop = .ok (some (documented, next)) →
      ∃ block, source.findTagged classVariableTag start stop = .ok (some block) ∧
        documented.description = block.text ∧ source.Spans start block.openLine next) ∧
    (∀ block, source.docBlockAt start = .ok (some block) →
      source.Spans start block.openLine block.next) ∧
    (∀ tag stop block, source.findTagged tag start stop = .ok (some block) →
      source.Spans start block.openLine block.next) ∧
    (∀ result, Loops source.findClass (fun found => found.1.line + 1) 0 result ↔
      result = source.classHeaders) ∧
    (∀ stop result, Loops (source.findClassVariable · stop) (·.2) start result ↔
      result = collect (ReferencePages.findClassVariable stop) start start (source.linesFrom start)) ∧
    (∀ bodyIndent result, Loops (source.findFunction · [0, bodyIndent]) (·.2) start result ↔
      result = source.functionHeaders start bodyIndent) ∧
    (∀ stop result, Loops (source.findField · stop) (·.2) start result ↔
      result = collect (ReferencePages.findField stop) start start (source.linesFrom start)) ∧
    (∀ tag stop, source.WalksUntil tag stop start (source.findTagged tag start stop)) ∧
    ∀ bodyIndent found, source.functionHeaders start bodyIndent = .ok found →
      found.Pairwise fun first second =>
        first.1.line < second.1.line ∧ first.2 ≤ second.1.line := by
  refine ⟨fun _ _ => spans_findClass, fun _ _ _ => spans_findFunction, fun _ _ _ => spans_findField,
    fun _ _ _ => spans_findClassVariable, fun block found => (normalised_of_docBlockAt found).2.1,
    fun _ _ _ => spans_findTagged, fun result => ?_, fun stop result => ?_, fun bodyIndent result => ?_,
    fun stop result => ?_, fun tag stop => ?_, fun _ _ => ordered_functionHeaders⟩
  · have run := source.loops_headersFrom 0
    rw [show headersFrom 0 (source.linesFrom 0) = source.classHeaders from source.classHeaders_eq.symm]
      at run
    exact ⟨fun other => other.unique run, fun same => same ▸ run⟩
  · exact loops_iff_collect (fun _ => rfl) lt_of_findMember result
  · exact loops_iff_collect (fun _ => rfl) lt_of_findFunction result
  · exact loops_iff_collect (fun _ => rfl) lt_of_findMember result
  · have walk := source.walksUntil_findTaggedFrom tag stop start start
    rwa [Nat.max_self] at walk

/-- A class with a documented variable, a constructor over two lines with a documented field, and a hidden
function. -/
def lidSample : Source :=
  ofText "a.py".toList (joinLines (["# Boxes.", "class Box(Base):", "    \"\"\"A box",
    "    with a lid.\"\"\"", "    \"\"\":class_var Wide.\"\"\"", "", "    WIDTH = 3",
    "    def __init__(self,", "                 lid):", "        \"\"\":field What closes it.\"\"\"",
    "        self.lid = lid", "    def _open(self): pass", "    def area(self): return 3"].map (·.toList)))

def lidHeader (name : String) (line : Nat) (isHidden : Bool) (params : String) : FunctionHeader where
  name := name.toList
  line := line
  indent := 4
  isHidden := isHidden
  markedStatic := false
  params := params.toList
  doc := none

def lidHeaders : List (FunctionHeader × Nat) :=
  [(lidHeader "__init__" 7 false "self, lid", 9), (lidHeader "_open" 11 true "", 12),
    (lidHeader "area" 12 false "self", 13)]

theorem searches_advance_sample :
    (∃ header, lidSample.findClass 0 = .ok (some (header, 4)) ∧ lidSample.Spans 0 header.line 4) ∧
    (lidSample.findFunction 8 [0, 4] = .ok (some (lidHeader "_open" 11 true "", 12)) ∧
      lidSample.Spans 8 11 12) ∧
    (∃ block, lidSample.findField 4 40 = .ok (some (⟨"lid".toList, "What closes it.".toList⟩, 11)) ∧
      lidSample.findTagged fieldTag 4 40 = .ok (some block) ∧
      "What closes it.".toList = block.text ∧ lidSample.Spans 4 block.openLine 11) ∧
    (∃ documented block, lidSample.findClassVariable 4 13 = .ok (some (documented, 7)) ∧
      lidSample.findTagged classVariableTag 4 13 = .ok (some block) ∧
      documented.description = block.text ∧ lidSample.Spans 4 block.openLine 7) ∧
    (∃ block, lidSample.docBlockAt 2 = .ok (some block) ∧
      lidSample.Spans 2 block.openLine block.next) ∧
    (∃ block, lidSample.findTagged fieldTag 0 13 = .ok (some block) ∧
      lidSample.Spans 0 block.openLine block.next) ∧
    lidSample.functionHeaders 4 4 = .ok lidHeaders ∧
    lidHeaders.Pairwise fun first second =>
      first.1.line < second.1.line ∧ first.2 ≤ second.1.line := by
  have isClass : lidSample.findClass 0 = .ok (some
      (⟨"Box".toList, some "Base".toList, "A box\nwith a lid.".toList, 1, 4⟩, 4)) := by decide +kernel
  have isFunction : lidSample.findFunction 8 [0, 4] =
      .ok (some (lidHeader "_open" 11 true "", 12)) := by decide +kernel
  have isField : lidSample.findField 4 40 =
      .ok (some (⟨"lid".toList, "What closes it.".toList⟩, 11)) := by decide +kernel
  have isVariable : lidSample.findClassVariable 4 13 =
      .ok (some (⟨"WIDTH".toList, none, some "3".toList, "Wide.".toList⟩, 7)) := by decide +kernel
  have isBlock : lidSample.docBlockAt 2 = .ok (some
      ⟨none, ["A box".toList, "with a lid.".toList], 2, 4⟩) := by decide +kernel
  have isTagged : lidSample.findTagged fieldTag 0 13 = .ok (some
      ⟨some fieldTag, ["What closes it.".toList], 9, 10⟩) := by decide +kernel
  have areHeaders : lidSample.functionHeaders 4 4 = .ok lidHeaders := by decide +kernel
  obtain ⟨classes, -, -, -, -, tagged, -⟩ := searches_advance lidSample 0
  obtain ⟨-, -, -, -, blocks, -⟩ := searches_advance lidSample 2
  obtain ⟨-, functions, -⟩ := searches_advance lidSample 8
  obtain ⟨-, -, fields, documented, -, -, -, -, -, -, -, ordered⟩ := searches_advance lidSample 4
  obtain ⟨fieldBlock, fieldFound⟩ := fields _ _ _ isField
  obtain ⟨variableBlock, variableFound⟩ := documented _ _ _ isVariable
  exact ⟨⟨_, isClass, classes _ _ isClass⟩, ⟨isFunction, functions _ _ _ isFunction⟩,
    ⟨fieldBlock, isField, fieldFound⟩, ⟨_, variableBlock, isVariable, variableFound⟩,
    ⟨_, isBlock, blocks _ isBlock⟩, ⟨_, isTagged, tagged _ _ _ isTagged⟩, areHeaders,
    ordered _ _ areHeaders⟩

end Source

end ReferencePages
