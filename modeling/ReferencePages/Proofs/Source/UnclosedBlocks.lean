/-
**Blocks are refused exactly when they are never closed.**

* `IsNormalised`, `normalised_of_docBlockAt`: what is left of a block that is closed: its lines hold no
  sentinel and no blanks at their ends, the outer ones are written, and the lines between its first and
  its last one hold no sentinel;
* `WalksTo`, `findTaggedFrom_eq_error_iff`: the search for a tagged block is refused exactly when it
  walks to a block that stays open, over closed blocks with other tags;
* `blocks_refused_iff`: **both searches are refused exactly for a block that is never closed, and a
  block that is found is normalised**.
-/

import ReferencePages.Proofs.Source.StrictMode

namespace ReferencePages

open Text

/-! ### The lines of a block -/

namespace DocBlock

theorem dedentLine_isInfix (width : Nat) (line : Line) : dedentLine width line <:+: line := by
  unfold dedentLine
  split
  · exact List.nil_infix
  · exact (trimEnd_isPrefix _).isInfix.trans (List.drop_suffix _ _).isInfix

/-- No line before the closing one holds the sentinel, nor does what is kept of the closing one. -/
theorem untilClosed_unmarked {pos next : Nat} {ls body : List Line}
    (closed : untilClosed pos ls = some (body, next)) :
    (∀ line ∈ body, holds sentinel line = false) ∧
      ∀ k line, pos + k + 1 < next → ls[k]? = some line → holds sentinel line = false := by
  induction ls generalizing pos body with
  | nil => cases closed
  | cons first rest ih =>
    rw [untilClosed] at closed
    split at closed
    · rename_i before after isCut
      cases closed
      refine ⟨fun line member => ?_, fun k line early => absurd early (by omega)⟩
      split at member
      · cases member
      · rw [List.mem_singleton.mp member]
        exact holds_eq_false_iff.mpr (unmarked_of_cut? (by decide) isCut).2
    · rename_i isCut
      obtain ⟨⟨inner, last⟩, isMore, same⟩ := Option.map_eq_some_iff.mp closed
      cases same
      obtain ⟨unmarked, between⟩ := ih isMore
      have here : holds sentinel first = false := by rw [holds, isCut]; rfl
      refine ⟨List.forall_mem_cons.mpr ⟨here, unmarked⟩, fun k line early isLine => ?_⟩
      cases k with
      | zero =>
        cases isLine
        exact here
      | succ k => exact between k line (by omega) isLine

/-- Lines without the sentinel and without blanks at their ends, the outer ones not blank. -/
structure IsNormalised (block : DocBlock) : Prop where
  unmarked : ∀ line ∈ block.lines, holds sentinel line = false
  trimmed : ∀ line ∈ block.lines, ∀ c ∈ line.getLast?, isBlank c = false
  starts : ∀ line ∈ block.lines.head?, allBlank line = false
  ends : ∀ line ∈ block.lines.getLast?, allBlank line = false

theorem contentLine_unmarked {t : Text} (unmarked : holds sentinel t = false) :
    ∀ line ∈ contentLine (trim t), holds sentinel line = false ∧ trimEnd line = line := by
  intro line member
  have trimmed := (contentLine_spec t line member).2.1
  unfold contentLine at member
  split at member
  · cases member
  · rw [List.mem_singleton.mp member] at trimmed ⊢
    exact ⟨holds_of_isInfix (trim_isInfix t) unmarked, trimmed⟩

theorem dedent_unmarked {body : List Line} (unmarked : ∀ line ∈ body, holds sentinel line = false) :
    ∀ line ∈ dedent body, holds sentinel line = false ∧ trimEnd line = line := by
  intro line member
  obtain ⟨written, inBody, rfl⟩ := List.mem_map.mp member
  exact ⟨holds_of_isInfix (dedentLine_isInfix _ written) (unmarked written inBody),
    (dedentLine_spec _ written).2⟩

theorem head?_trimEmpty (ls : List Line) : (trimEmpty ls).head? ≠ some [] := by
  intro starts
  obtain ⟨taken, same⟩ : trimEmpty ls <+: ls.dropWhile List.isEmpty := by
    rw [← List.reverse_suffix, trimEmpty, List.reverse_reverse]
    exact List.dropWhile_suffix _
  have stops := List.head?_dropWhile_not List.isEmpty ls
  rw [← same, List.head?_append, starts] at stops
  cases stops

/-- Trimmed lines whose outer ones are not empty make a normalised block. -/
theorem IsNormalised.of_trimmed {block : DocBlock}
    (clean : ∀ line ∈ block.lines, holds sentinel line = false ∧ trimEnd line = line)
    (starts : block.lines.head? ≠ some []) (ends : block.lines.getLast? ≠ some []) :
    block.IsNormalised := by
  have written : ∀ line ∈ block.lines, line ≠ [] → allBlank line = false :=
    fun line member nonempty =>
      (endsWritten_of_trimEnd (clean line member).2 nonempty).not_allBlank
  refine ⟨fun line member => (clean line member).1, fun line member c isLast => ?_,
    fun line isHead => ?_, fun line isLast => ?_⟩
  · have nonempty : line ≠ [] := by
      rintro rfl
      cases isLast
    obtain ⟨before, last, rfl, notBlank⟩ := endsWritten_of_trimEnd (clean line member).2 nonempty
    rw [List.getLast?_concat] at isLast
    rwa [← Option.some.inj isLast]
  · exact written line (List.mem_of_head? isHead) fun empty => starts (empty ▸ isHead)
  · exact written line (List.mem_of_getLast? isLast) fun empty => ends (empty ▸ isLast)

/-- **A block that is read is normalised.** -/
theorem normalised_read {pos : Nat} {line : Line} {after : List Line} {block : DocBlock}
    (same : read pos line after = .ok block) : block.IsNormalised := by
  unfold read at same
  simp only at same
  split at same
  · rename_i content _ isCut
    cases same
    have unmarked := holds_eq_false_iff.mpr (unmarked_of_cut? (by decide) isCut).2
    have nonempty : [] ∉ contentLine (trim content) :=
      fun member => (contentLine_spec content [] member).2.2 rfl
    exact .of_trimmed (contentLine_unmarked unmarked)
      (fun starts => nonempty (List.mem_of_head? starts))
      fun ends => nonempty (List.mem_of_getLast? ends)
  · rename_i isCut
    split at same
    · rename_i body next closed
      cases same
      refine .of_trimmed (fun line member => ?_) (head?_trimEmpty _) (getLast?_trimEmpty _)
      rcases List.mem_append.mp (trimEmpty_subset _ member) with inFirst | inBody
      · exact contentLine_unmarked (by rw [holds, isCut]; rfl) line inFirst
      · exact dedent_unmarked (untilClosed_unmarked closed).1 line inBody
    · cases same

/-- The lines between the opening and the closing one hold no sentinel. -/
theorem between_read {pos : Nat} {line : Line} {after : List Line} {block : DocBlock}
    (same : read pos line after = .ok block) :
    ∀ k inside, pos + k + 2 < block.next → after[k]? = some inside →
      holds sentinel inside = false := by
  unfold read at same
  simp only at same
  split at same
  · cases same
    exact fun k inside early => absurd early (by simp; omega)
  · split at same
    · rename_i body next closed
      cases same
      intro k inside early isLine
      exact (untilClosed_unmarked closed).2 k inside
        (by have early : pos + k + 2 < next := early; omega) isLine
    · cases same

end DocBlock

namespace Source

variable {source : Source} {tag : Text} {start stop : Nat}

/-- A block that is found is read from its opening line on. -/
theorem read_of_docBlockAt {block : DocBlock} (found : source.docBlockAt start = .ok (some block)) :
    ∃ line, source.lines[block.openLine]? = some line ∧
      DocBlock.read block.openLine line (source.linesFrom (block.openLine + 1)) = .ok block := by
  unfold docBlockAt ReferencePages.docBlockAt at found
  split at found
  · cases found
  · rename_i first isFirst
    obtain ⟨-, isLine, -, isAfter, -⟩ := firstWritten_eq_some_iff.mp isFirst
    split at found
    · obtain ⟨other, isRead, same⟩ := map_eq_ok found
      cases same
      rw [(DocBlock.openLine_read isRead).1, ← isAfter]
      exact ⟨first.text, isLine, isRead⟩
    · cases found

/-- **A block that is found is normalised**, lies among the lines, and closes where the sentinel stands
next. -/
theorem normalised_of_docBlockAt {block : DocBlock}
    (found : source.docBlockAt start = .ok (some block)) :
    block.IsNormalised ∧ block.Within start source.lines.length ∧
      ∀ k line, block.openLine < k → k + 1 < block.next → source.lines[k]? = some line →
        holds sentinel line = false := by
  obtain ⟨first, isFirst, isRead⟩ := read_of_docBlockAt found
  refine ⟨DocBlock.normalised_read isRead, ?_, fun k line below early isLine => ?_⟩
  · obtain ⟨late, later, -⟩ := docBlockAt_eq_some found
    have inside := (List.getElem?_eq_some_iff.mp isFirst).1
    have stays := stays_docBlockAt start (source.linesFrom start)
    rw [source.length_linesFrom (by omega), show ReferencePages.docBlockAt start
      (source.linesFrom start) = .ok (some block) from found] at stays
    exact stays block rfl
  · refine DocBlock.between_read isRead (k - (block.openLine + 1)) line (by omega) ?_
    rw [linesFrom, List.getElem?_drop, show block.openLine + 1 + (k - (block.openLine + 1)) = k by omega]
    exact isLine

/-! ### Walks to a block that stays open -/

/-- A walk over the lines from a position on and before `stop` gets to line `last`. It goes line by
line, and from the opening line of a block that is closed to the line after it; `met` are the blocks it
has stepped over. -/
inductive WalksTo (source : Source) (stop last : Nat) : Nat → List DocBlock → Prop
  | here : WalksTo source stop last last []
  | pass {pos : Nat} {line : Line} {met : List DocBlock} (early : pos < stop)
      (isLine : source.lines[pos]? = some line) (plain : opensBlock line = false)
      (below : WalksTo source stop last (pos + 1) met) : WalksTo source stop last pos met
  | block {pos : Nat} {line : Line} {first : DocBlock} {met : List DocBlock} (early : pos < stop)
      (isLine : source.lines[pos]? = some line) (opens : opensBlock line = true)
      (isFirst : DocBlock.read pos line (source.linesFrom (pos + 1)) = .ok first)
      (below : WalksTo source stop last first.next met) : WalksTo source stop last pos (first :: met)

/-- A walk from `start` gets to a block on line `j`, before `stop`, that stays open, and no block that
it steps over has the tag. -/
def WalksIntoOpen (source : Source) (tag : Text) (stop start j : Nat) : Prop :=
  j < stop ∧ source.StaysOpen j ∧
    ∃ met, source.WalksTo stop j start met ∧ ∀ block ∈ met, block.tag ≠ some tag

variable {j pos : Nat} {line : Line}

theorem StaysOpen.opensBlock (staysOpen : source.StaysOpen j)
    (isLine : source.lines[j]? = some line) : ReferencePages.opensBlock line = true := by
  obtain ⟨other, isOther, opens, -⟩ := staysOpen.opens
  rwa [Option.some.inj (isLine.symm.trans isOther)]

theorem walksIntoOpen_early (into : source.WalksIntoOpen tag stop pos j) :
    pos < stop ∧ ∃ line, source.lines[pos]? = some line := by
  obtain ⟨early, staysOpen, met, walk, -⟩ := into
  cases walk with
  | here =>
    obtain ⟨line, isLine, -⟩ := staysOpen.opens
    exact ⟨early, line, isLine⟩
  | pass early isLine => exact ⟨early, _, isLine⟩
  | block early isLine => exact ⟨early, _, isLine⟩

/-- A line that opens no block is passed over. -/
theorem walksIntoOpen_of_plain (early : pos < stop) (isLine : source.lines[pos]? = some line)
    (plain : ReferencePages.opensBlock line = false) :
    source.WalksIntoOpen tag stop pos j ↔ source.WalksIntoOpen tag stop (pos + 1) j := by
  constructor
  · rintro ⟨before, staysOpen, met, walk, others⟩
    cases walk with
    | here =>
      rw [staysOpen.opensBlock isLine] at plain
      cases plain
    | pass _ _ _ below => exact ⟨before, staysOpen, met, below, others⟩
    | block _ isOther opens =>
      rw [Option.some.inj (isLine.symm.trans isOther), opens] at plain
      cases plain
  · rintro ⟨before, staysOpen, met, walk, others⟩
    exact ⟨before, staysOpen, met, .pass early isLine plain walk, others⟩

/-- A block that is closed is stepped over, unless it has the tag. -/
theorem walksIntoOpen_of_closed {first : DocBlock} (early : pos < stop)
    (isLine : source.lines[pos]? = some line) (opens : ReferencePages.opensBlock line = true)
    (isFirst : DocBlock.read pos line (source.linesFrom (pos + 1)) = .ok first) :
    source.WalksIntoOpen tag stop pos j ↔
      first.tag ≠ some tag ∧ source.WalksIntoOpen tag stop first.next j := by
  constructor
  · rintro ⟨before, staysOpen, met, walk, others⟩
    cases walk with
    | here =>
      have refused := (read_eq_error_iff_staysOpen isLine opens).mpr ⟨staysOpen, rfl⟩
      cases isFirst.symm.trans refused
    | pass _ isOther plain =>
      rw [← Option.some.inj (isLine.symm.trans isOther), opens] at plain
      cases plain
    | block _ isOther _ isRead below =>
      obtain rfl := Option.some.inj (isLine.symm.trans isOther)
      cases isFirst.symm.trans isRead
      obtain ⟨differs, others⟩ := List.forall_mem_cons.mp others
      exact ⟨differs, before, staysOpen, _, below, others⟩
  · rintro ⟨differs, before, staysOpen, met, walk, others⟩
    exact ⟨before, staysOpen, first :: met, .block early isLine opens isFirst walk,
      List.forall_mem_cons.mpr ⟨differs, others⟩⟩

/-- A walk ends at a block that stays open. -/
theorem walksIntoOpen_of_open (early : pos < stop) (staysOpen : source.StaysOpen pos) :
    source.WalksIntoOpen tag stop pos j ↔ j = pos := by
  obtain ⟨line, isLine, opens, -⟩ := staysOpen.opens
  constructor
  · rintro ⟨-, -, met, walk, -⟩
    cases walk with
    | here => rfl
    | pass _ isOther plain =>
      rw [← Option.some.inj (isLine.symm.trans isOther), opens] at plain
      cases plain
    | block _ isOther _ isRead =>
      obtain rfl := Option.some.inj (isLine.symm.trans isOther)
      cases isRead.symm.trans ((read_eq_error_iff_staysOpen isLine opens).mpr ⟨staysOpen, rfl⟩)
  · rintro rfl
    exact ⟨early, staysOpen, [], .here, fun block member => absurd member List.not_mem_nil⟩

/-- **The search for a tagged block is refused exactly when it walks to a block that stays open.** -/
theorem findTaggedFrom_eq_error_iff (resume pos : Nat) {error : ScanError} :
    findTaggedFrom tag stop resume pos (source.linesFrom pos) = .error error ↔
      ∃ j, source.WalksIntoOpen tag stop (max resume pos) j ∧ error = .unterminatedBlock j := by
  generalize isFrom : source.linesFrom pos = ls
  induction ls generalizing resume pos with
  | nil =>
    have short := linesFrom_eq_nil isFrom
    refine ⟨fun failed => (by cases failed), fun ⟨j, into, _⟩ => ?_⟩
    obtain ⟨-, line, isLine⟩ := walksIntoOpen_early into
    rw [List.getElem?_eq_none (by omega)] at isLine
    cases isLine
  | cons line rest ih =>
    obtain ⟨isLine, below⟩ := linesFrom_cons isFrom
    rw [findTaggedFrom]
    by_cases late : stop ≤ pos
    · rw [if_pos late]
      refine ⟨fun failed => (by cases failed), fun ⟨j, into, _⟩ => ?_⟩
      exact absurd (walksIntoOpen_early into).1 (by omega)
    have early : pos < stop := Nat.lt_of_not_le late
    rw [if_neg late]
    by_cases inside : pos < resume
    · rw [if_pos (by simp [inside]), ih resume (pos + 1) below,
        show max resume (pos + 1) = max resume pos by omega]
    rw [show max resume pos = pos by omega]
    by_cases opens : ReferencePages.opensBlock line = true
    · rw [if_neg (by simp [inside, opens]), ← below]
      cases isFirst : DocBlock.read pos line (source.linesFrom (pos + 1)) with
      | error other =>
        obtain ⟨staysOpen, rfl⟩ := (read_eq_error_iff_staysOpen isLine opens).mp isFirst
        simp only [walksIntoOpen_of_open early staysOpen, exists_eq_left, Except.error.injEq]
        exact eq_comm
      | ok first =>
        obtain ⟨-, later⟩ := DocBlock.openLine_read isFirst
        simp only [walksIntoOpen_of_closed early isLine opens isFirst]
        by_cases isTagged : first.tag = some tag
        · simp [isTagged]
        · rw [if_neg isTagged, below, ih first.next (pos + 1) below,
            show max first.next (pos + 1) = first.next by omega]
          simp [isTagged]
    · have plain : ReferencePages.opensBlock line = false := Bool.eq_false_iff.mpr opens
      rw [if_pos (by simp [plain]), ih resume (pos + 1) below,
        show max resume (pos + 1) = pos + 1 by omega]
      simp only [walksIntoOpen_of_plain early isLine plain]

/-- **Blocks are refused exactly when they are never closed.** The search for a block is refused when
the first line that is not blank opens one that stays open, and the search for a tagged block when its
walk gets to one that stays open over closed blocks with other tags; the error counts the opening line
from one. A block that is found is normalised, lies among the lines, and no line between its opening
and its closing one holds the sentinel. -/
theorem blocks_refused_iff (source : Source) (start : Nat) :
    (∀ error, source.docBlockAt start = .error error ↔
      ∃ j, source.IsFirstWritten start j ∧ source.StaysOpen j ∧ error = .unterminatedBlock j) ∧
    (∀ block, source.docBlockAt start = .ok (some block) →
      block.IsNormalised ∧ block.Within start source.lines.length ∧
        ∀ k line, block.openLine < k → k < block.next - 1 → source.lines[k]? = some line →
          holds sentinel line = false) ∧
    (∀ tag stop error, source.findTagged tag start stop = .error error ↔
      ∃ j, source.WalksIntoOpen tag stop start j ∧ error = .unterminatedBlock j) ∧
    ∀ j, ScanError.message source.name (.unterminatedBlock j) = source.name ++ [':'] ++
      Text.ofNat (j + 1) ++ [':', ' '] ++ "doc-comment block is never closed".toList := by
  refine ⟨fun error => docBlockAt_eq_error_iff_staysOpen, fun block found => ?_,
    fun tag stop error => ?_, fun j => rfl⟩
  · obtain ⟨isNormalised, within, between⟩ := normalised_of_docBlockAt found
    exact ⟨isNormalised, within, fun k line below early => between k line below (by omega)⟩
  · have refused : findTaggedFrom tag stop start start (source.linesFrom start) = .error error ↔ _ :=
      source.findTaggedFrom_eq_error_iff start start
    rwa [Nat.max_self] at refused

/-- A field's block with text before its closing sentinel, and a class variable's block that is never
closed. -/
def openTailSample : Source :=
  ofText "a.py".toList (joinLines (["", "    \"\"\":field Width,  ", "        in \"columns\"", " ",
    "      of text. \"\"\" # end", "    self.w = 1", "  \"\"\":class_var Height", "    never closed"].map
      (·.toList)))

theorem blocks_refused_iff_sample :
    (∃ block, openTailSample.docBlockAt 0 = .ok (some block) ∧
      block.lines = ["Width,", "  in \"columns\"", "", "of text."].map (·.toList) ∧
      block.IsNormalised ∧ block.Within 0 openTailSample.lines.length) ∧
    (∃ j, openTailSample.WalksIntoOpen classVariableTag 8 0 j ∧
      ScanError.unterminatedBlock 6 = .unterminatedBlock j) ∧
    ∃ j, openTailSample.IsFirstWritten 6 j ∧ openTailSample.StaysOpen j ∧
      ScanError.unterminatedBlock 6 = .unterminatedBlock j := by
  have found : openTailSample.docBlockAt 0 = .ok (some
      ⟨some fieldTag, ["Width,", "  in \"columns\"", "", "of text."].map (·.toList), 1, 5⟩) := by
    decide +kernel
  have refused : openTailSample.findTagged classVariableTag 0 8 = .error (.unterminatedBlock 6) := by
    decide +kernel
  have refused' : openTailSample.docBlockAt 6 = .error (.unterminatedBlock 6) := by decide +kernel
  obtain ⟨-, normalised, tagged, -⟩ := blocks_refused_iff openTailSample 0
  obtain ⟨isNormalised, within, -⟩ := normalised _ found
  exact ⟨⟨_, found, rfl, isNormalised, within⟩, (tagged _ _ _).mp refused,
    ((blocks_refused_iff openTailSample 6).1 _).mp refused'⟩

end Source

end ReferencePages
