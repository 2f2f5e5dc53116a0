/-
**Strict mode refines the default mode.**

In strict mode a second class is refused, once the headers are found and before anything else of the
source is looked at:

* `StaysOpen`: a block that opens on a line is never closed, said of the lines alone; a search for a
  block is refused for nothing else (`docBlockAt_eq_error_iff_staysOpen`);
* `LeavesOpen`: the block below a line stays open (`docBlockAt_eq_error_iff`);
* `assemble_of_leavesOpen`: the first block that is left open below a class line is refused in both
  modes;
* `assemble_of_few`, `assemble_of_second`: one class is read alike in both modes, a second one is
  refused whatever else is wrong with the source;
* `assemble_strict`: **what strict mode gives for every source**.
-/

import ReferencePages.Proofs.Source.ReversedRange

namespace ReferencePages

open Text Declaration

/-! ### Blocks that are left open -/

namespace DocBlock

/-- What follows the opening sentinel of a block and its tag on the line that opens it. -/
def opening (line : Line) : Text := (readTag ((trimStart line).drop sentinel.length)).2

/-- No line closes a block when none holds the sentinel. -/
theorem untilClosed_eq_none_iff (pos : Nat) {ls : List Line} :
    untilClosed pos ls = none ↔ ∀ line ∈ ls, holds sentinel line = false := by
  induction ls generalizing pos with
  | nil => exact ⟨fun _ line member => absurd member List.not_mem_nil, fun _ => rfl⟩
  | cons line rest ih =>
    rw [untilClosed, List.forall_mem_cons]
    unfold holds at ih ⊢
    cases cut? sentinel line with
    | some cut => simp
    | none => simp [ih]

theorem read_eq_error_iff {pos : Nat} {line : Line} {after : List Line} {error : ScanError} :
    read pos line after = .error error ↔
      error = .unterminatedBlock pos ∧ holds sentinel (opening line) = false ∧
        ∀ later ∈ after, holds sentinel later = false := by
  rw [← untilClosed_eq_none_iff (pos + 1)]
  unfold read opening holds
  simp only
  cases cut? sentinel (readTag ((trimStart line).drop sentinel.length)).2 with
  | some cut => simp
  | none =>
    cases untilClosed (pos + 1) after with
    | some closed => simp
    | none => simp [eq_comm]

end DocBlock

theorem not_allBlank_of_opensBlock {line : Line} (opens : opensBlock line = true) :
    allBlank line = false := by
  refine Bool.eq_false_iff.mpr fun blank => ?_
  unfold opensBlock trimStart at opens
  rw [List.dropWhile_eq_nil_iff.mpr (List.all_eq_true.mp blank)] at opens
  cases opens

theorem map_eq_error_iff {ε α β : Type} {f : α → β} {x : Except ε α} {error : ε} :
    x.map f = .error error ↔ x = .error error := by
  cases x <;> simp [Except.map]

namespace Source

variable {source : Source}

/-- A block opens on line `j`, the first line below line `i` that is not blank, and nothing closes it:
the sentinel stands neither behind the opening one and the tag nor on a later line. -/
structure LeavesOpen (source : Source) (i j : Nat) : Prop where
  below : i < j
  between : ∀ k line, i < k → k < j → source.lines[k]? = some line → allBlank line = true
  opens : ∃ line, source.lines[j]? = some line ∧ opensBlock line = true ∧
    holds sentinel (DocBlock.opening line) = false
  unclosed : ∀ k line, j < k → source.lines[k]? = some line → holds sentinel line = false

theorem forall_mem_linesFrom {P : Line → Prop} {pos : Nat} :
    (∀ line ∈ source.linesFrom pos, P line) ↔
      ∀ k line, pos ≤ k → source.lines[k]? = some line → P line := by
  constructor
  · intro all k line late isLine
    refine all line (List.mem_iff_getElem?.mpr ⟨k - pos, ?_⟩)
    rw [linesFrom, List.getElem?_drop, show pos + (k - pos) = k by omega]
    exact isLine
  · intro all line member
    obtain ⟨k, isLine⟩ := List.mem_iff_getElem?.mp member
    rw [linesFrom, List.getElem?_drop] at isLine
    exact all (pos + k) line (Nat.le_add_right pos k) isLine

/-- Line `j` is the first line from `start` on that is not blank. -/
structure IsFirstWritten (source : Source) (start j : Nat) : Prop where
  late : start ≤ j
  written : ∃ line, source.lines[j]? = some line ∧ allBlank line = false
  above : ∀ k line, start ≤ k → k < j → source.lines[k]? = some line → allBlank line = true

/-- A block opens on line `j`, and the sentinel stands neither behind the opening one and the tag nor
on a later line. -/
structure StaysOpen (source : Source) (j : Nat) : Prop where
  opens : ∃ line, source.lines[j]? = some line ∧ opensBlock line = true ∧
    holds sentinel (DocBlock.opening line) = false
  unclosed : ∀ k line, j < k → source.lines[k]? = some line → holds sentinel line = false

/-- A block that opens on a line is refused exactly when it stays open. -/
theorem read_eq_error_iff_staysOpen {pos : Nat} {line : Line} {error : ScanError}
    (isLine : source.lines[pos]? = some line) (opens : opensBlock line = true) :
    DocBlock.read pos line (source.linesFrom (pos + 1)) = .error error ↔
      source.StaysOpen pos ∧ error = .unterminatedBlock pos := by
  rw [DocBlock.read_eq_error_iff, forall_mem_linesFrom]
  constructor
  · rintro ⟨rfl, opening, unclosed⟩
    exact ⟨⟨⟨line, isLine, opens, opening⟩, unclosed⟩, rfl⟩
  · rintro ⟨⟨⟨first, isFirst, -, opening⟩, unclosed⟩, rfl⟩
    obtain rfl := Option.some.inj (isLine.symm.trans isFirst)
    exact ⟨rfl, opening, unclosed⟩

/-- **A search for a block is refused exactly when the first line that is not blank opens one that
stays open.** -/
theorem docBlockAt_eq_error_iff_staysOpen {start : Nat} {error : ScanError} :
    source.docBlockAt start = .error error ↔
      ∃ j, source.IsFirstWritten start j ∧ source.StaysOpen j ∧ error = .unterminatedBlock j := by
  unfold docBlockAt ReferencePages.docBlockAt
  constructor
  · intro failed
    split at failed
    · cases failed
    · rename_i found isFound
      obtain ⟨late, isLine, written, isAfter, above⟩ := firstWritten_eq_some_iff.mp isFound
      split at failed
      · rename_i opens
        rw [map_eq_error_iff, isAfter, read_eq_error_iff_staysOpen isLine opens] at failed
        exact ⟨found.line, ⟨late, ⟨found.text, isLine, written⟩, above⟩, failed⟩
      · cases failed
  · rintro ⟨j, ⟨late, -, above⟩, staysOpen, rfl⟩
    obtain ⟨line, isLine, opens, -⟩ := staysOpen.opens
    have isFound : firstWritten start (source.linesFrom start) =
        some ⟨j, line, source.linesFrom (j + 1)⟩ :=
      firstWritten_eq_some_iff.mpr
        ⟨late, isLine, not_allBlank_of_opensBlock opens, rfl, above⟩
    rw [isFound]
    simp only
    rw [if_pos opens, map_eq_error_iff, read_eq_error_iff_staysOpen isLine opens]
    exact ⟨staysOpen, rfl⟩

theorem leavesOpen_iff {i j : Nat} :
    source.LeavesOpen i j ↔ source.IsFirstWritten (i + 1) j ∧ source.StaysOpen j := by
  constructor
  · rintro ⟨below, between, ⟨line, isLine, opens, opening⟩, unclosed⟩
    exact ⟨⟨below, ⟨line, isLine, not_allBlank_of_opensBlock opens⟩, between⟩,
      ⟨line, isLine, opens, opening⟩, unclosed⟩
  · rintro ⟨⟨late, -, above⟩, opens, unclosed⟩
    exact ⟨late, above, opens, unclosed⟩

/-- **The block below a line is refused exactly when it is left open.** -/
theorem docBlockAt_eq_error_iff {i : Nat} {error : ScanError} :
    source.docBlockAt (i + 1) = .error error ↔
      ∃ j, source.LeavesOpen i j ∧ error = .unterminatedBlock j := by
  simp only [docBlockAt_eq_error_iff_staysOpen, leavesOpen_iff, and_assoc]

/-! ### The first block that is left open -/

/-- The headers fail at the first class line whose block is left open. -/
theorem headersFrom_eq_error {pos : Nat} {error : ScanError}
    (failed : headersFrom pos (source.linesFrom pos) = .error error) :
    ∃ i, pos ≤ i ∧ (source.classAt? i).isSome ∧ source.docBlockAt (i + 1) = .error error ∧
      ∀ k, pos ≤ k → k < i → (source.classAt? k).isSome →
        ∃ block, source.docBlockAt (k + 1) = .ok block := by
  generalize isFrom : source.linesFrom pos = ls at failed
  induction ls generalizing pos with
  | nil => cases failed
  | cons line rest ih =>
    obtain ⟨isLine, below⟩ := linesFrom_cons isFrom
    have here := classAt?_of_line isLine
    rw [headersFrom] at failed
    cases isClass : publicClass? line with
    | none =>
      rw [isClass] at failed here
      obtain ⟨i, late, isClassLine, opens, closed⟩ := ih below failed
      refine ⟨i, by omega, isClassLine, opens, fun k lateK early isClassK => ?_⟩
      rcases Nat.eq_or_lt_of_le lateK with rfl | later
      · rw [here] at isClassK
        cases isClassK
      · exact closed k later early isClassK
    | some declared =>
      rw [isClass] at failed here
      have isClassHere : (source.classAt? pos).isSome = true := by rw [here]; rfl
      rcases bind_eq_error_iff.mp failed with opens | ⟨first, isFirst, failed⟩
      · rw [classHeaderAt, plainBlockAt, ← below] at opens
        exact ⟨pos, le_rfl, isClassHere, map_eq_error_iff.mp (map_eq_error_iff.mp opens),
          fun k late early => absurd early (by omega)⟩
      · rcases bind_eq_error_iff.mp failed with failed | ⟨more, -, shown⟩
        · obtain ⟨i, late, isClassLine, opens, closed⟩ := ih below failed
          refine ⟨i, by omega, isClassLine, opens, fun k lateK early isClassK => ?_⟩
          rcases Nat.eq_or_lt_of_le lateK with rfl | later
          · rw [← below] at isFirst
            exact (isHeader_of_classHeaderAt here isFirst).1 ▸
              (isHeader_of_classHeaderAt here isFirst).2.closed
          · exact closed k later early isClassK
        · cases shown

/-- The block below class line `i`, which opens on line `j`, is left open, and the block below every
class line above `i` is closed. -/
structure FirstLeftOpen (source : Source) (i j : Nat) : Prop where
  isClass : i ∈ source.classLines
  leavesOpen : source.LeavesOpen i j
  first : ∀ above ∈ source.classLines, above < i → ∀ k, ¬ source.LeavesOpen above k

theorem exists_docBlockAt_iff {i : Nat} :
    (∃ block, source.docBlockAt (i + 1) = .ok block) ↔ ∀ j, ¬ source.LeavesOpen i j := by
  constructor
  · rintro ⟨block, isBlock⟩ j opens
    cases isBlock.symm.trans (docBlockAt_eq_error_iff.mpr ⟨j, opens, rfl⟩)
  · intro closed
    cases isBlock : source.docBlockAt (i + 1) with
    | ok block => exact ⟨block, rfl⟩
    | error error =>
      obtain ⟨j, opens, -⟩ := docBlockAt_eq_error_iff.mp isBlock
      exact absurd opens (closed j)

/-- **A source whose headers are not found is refused for the first block that is left open**, whether
a second class is allowed or not. -/
theorem assemble_of_leavesOpen {i j : Nat} (isClass : i ∈ source.classLines)
    (leavesOpen : source.LeavesOpen i j) :
    ∃ line opening, source.FirstLeftOpen line opening ∧
      ∀ strict, source.assemble strict = .error (.refused (.unterminatedBlock opening)) := by
  cases isHeaders : source.classHeaders with
  | ok headers =>
    have closed := exists_classHeaders_iff.mp ⟨headers, isHeaders⟩ i (mem_classLines.mp isClass)
    exact absurd leavesOpen (exists_docBlockAt_iff.mp closed j)
  | error error =>
    have failed : headersFrom 0 (source.linesFrom 0) = .error error :=
      (classHeaders_eq source).symm.trans isHeaders
    obtain ⟨line, -, isLine, opens, closed⟩ := headersFrom_eq_error failed
    obtain ⟨opening, isOpening, rfl⟩ := docBlockAt_eq_error_iff.mp opens
    refine ⟨line, opening, ⟨mem_classLines.mpr isLine, isOpening, fun above isAbove early => ?_⟩,
      fun strict => ?_⟩
    · exact exists_docBlockAt_iff.mp
        (closed above (Nat.zero_le above) early (mem_classLines.mp isAbove))
    · unfold assemble
      rw [isHeaders]
      rfl

/-! ### A second class -/

/-- Where no second class is refused, the classes and their functions are read. -/
theorem assemble_of_allowed {strict : Bool} {headers : List (ClassHeader × Nat)}
    (isHeaders : source.classHeaders = .ok headers)
    (allowed : checkStrict strict headers = .ok ()) :
    source.assemble strict = (source.classRecords headers >>= fun classes =>
      orFault (source.withFunctions headers classes)) := by
  unfold assemble
  rw [isHeaders]
  show (orFault (checkStrict strict headers) >>= _) = _
  rw [allowed]
  rfl

/-- Where there is no second class, strictness plays no part. -/
theorem assemble_of_few (few : source.classLines.length ≤ 1) :
    source.assemble true = source.assemble false := by
  cases isHeaders : source.classHeaders with
  | error error =>
    unfold assemble
    rw [isHeaders]
    rfl
  | ok headers =>
    have short : headers.length ≤ 1 := by
      rwa [← headers.length_map (·.1.line), (classHeaders_eq_ok isHeaders).1]
    rw [assemble_of_allowed isHeaders (checkStrict_eq_ok_iff.mpr (Or.inr short)),
      assemble_of_allowed isHeaders (checkStrict_eq_ok_iff.mpr (Or.inl rfl))]

/-- A second class is refused before anything else is looked for. -/
theorem assemble_of_second (several : 2 ≤ source.classLines.length)
    (closed : ∀ i ∈ source.classLines, ∀ j, ¬ source.LeavesOpen i j) :
    ∃ line declared, source.classLines[1]? = some line ∧ source.classAt? line = some declared ∧
      source.assemble true = .error (.refused (.secondClass line declared.name)) := by
  obtain ⟨headers, isHeaders⟩ : ∃ headers, source.classHeaders = .ok headers :=
    exists_classHeaders_iff.mpr fun i isClass =>
      exists_docBlockAt_iff.mpr (closed i (mem_classLines.mpr isClass))
  obtain ⟨positions, areHeaders⟩ := classHeaders_eq_ok isHeaders
  rw [← positions] at several ⊢
  match headers with
  | first :: (second, body) :: more =>
    obtain ⟨declared, isClass, isNamed, -⟩ :=
      (areHeaders (second, body) (List.mem_cons_of_mem _ List.mem_cons_self)).declared
    refine ⟨second.line, declared, rfl, isClass, ?_⟩
    have isNamed : second.name = declared.name := isNamed
    unfold assemble
    rw [isHeaders, ← isNamed]
    rfl
  | [_] => exact absurd several (Nat.not_succ_le_self 1)
  | [] => exact absurd several (Nat.not_succ_le_zero 1)

/-- **What strict mode gives for every source.** With one class or none it is what the default mode
gives. With several, it is the error of the default mode for the first block below a class line that
is left open; if all of these are closed, it names the second class and its line, whatever else the
source holds. -/
theorem assemble_strict (source : Source) :
    (source.classLines.length ≤ 1 → source.assemble true = source.assemble false) ∧
      (2 ≤ source.classLines.length →
        ((∃ i ∈ source.classLines, ∃ j, source.LeavesOpen i j) →
          ∃ i j, source.FirstLeftOpen i j ∧
            ∀ strict, source.assemble strict = .error (.refused (.unterminatedBlock j))) ∧
        ((∀ i ∈ source.classLines, ∀ j, ¬ source.LeavesOpen i j) →
          ∃ line declared, source.classLines[1]? = some line ∧
            source.classAt? line = some declared ∧
            source.assemble true = .error (.refused (.secondClass line declared.name)) ∧
            ScanError.message source.name (.secondClass line declared.name) =
              source.name ++ [':'] ++ Text.ofNat (line + 1) ++ [':', ' '] ++
                ("second class `".toList ++ declared.name ++ "` in one file (strict mode)".toList))) := by
  refine ⟨assemble_of_few, fun several => ⟨?_, fun closed => ?_⟩⟩
  · rintro ⟨i, isClass, j, leavesOpen⟩
    exact assemble_of_leavesOpen isClass leavesOpen
  · obtain ⟨line, declared, isLine, isClass, refused⟩ := assemble_of_second several closed
    exact ⟨line, declared, isLine, isClass, refused, rfl⟩

/-- Two classes, with a class variable that is not declared and a signature that is never closed. -/
def secondClassSample : Source :=
  ofText "a.py".toList (joinLines (["class A:", "    \"\"\":class_var size\"\"\"", "    f()",
    "class B:", "    def f("].map (·.toList)))

/-- Two classes, and a block below each of them, the second of which is never closed. -/
def openBlockSample : Source :=
  ofText "a.py".toList (joinLines (["class A:", "    \"\"\"closed\"\"\"", "class B:", "",
    "    \"\"\"open", "    def f("].map (·.toList)))

theorem assemble_strict_sample :
    (2 ≤ secondClassSample.classLines.length ∧
      (∀ i ∈ secondClassSample.classLines, ∀ j, ¬ secondClassSample.LeavesOpen i j) ∧
      secondClassSample.assemble false = .error (.refused (.malformedMember 1 .classVariable)) ∧
      ∃ line declared, secondClassSample.classLines[1]? = some line ∧
        secondClassSample.classAt? line = some declared ∧
        secondClassSample.assemble true = .error (.refused (.secondClass line declared.name))) ∧
    (2 ≤ openBlockSample.classLines.length ∧
      ∃ i j, openBlockSample.FirstLeftOpen i j ∧
        ∀ strict, openBlockSample.assemble strict = .error (.refused (.unterminatedBlock j))) := by
  have several : 2 ≤ secondClassSample.classLines.length := by decide +kernel
  have closed : ∀ i ∈ secondClassSample.classLines, ∀ j, ¬ secondClassSample.LeavesOpen i j := by
    have read : ∀ i ∈ secondClassSample.classLines,
        (secondClassSample.docBlockAt (i + 1)).isOk = true := by decide +kernel
    intro i isClass
    refine exists_docBlockAt_iff.mp ?_
    have isRead := read i isClass
    cases isBlock : secondClassSample.docBlockAt (i + 1) with
    | ok block => exact ⟨block, rfl⟩
    | error error =>
      rw [isBlock] at isRead
      cases isRead
  have several' : 2 ≤ openBlockSample.classLines.length := by decide +kernel
  have opens : openBlockSample.docBlockAt 3 = .error (.unterminatedBlock 4) := by decide +kernel
  obtain ⟨j, leavesOpen, -⟩ := docBlockAt_eq_error_iff.mp opens
  obtain ⟨line, declared, isLine, isClass, refused, -⟩ :=
    ((assemble_strict secondClassSample).2 several).2 closed
  exact ⟨⟨several, closed, by decide +kernel, line, declared, isLine, isClass, refused⟩, several',
    ((assemble_strict openBlockSample).2 several').1 ⟨2, by decide +kernel, j, leavesOpen⟩⟩

end Source

end ReferencePages
