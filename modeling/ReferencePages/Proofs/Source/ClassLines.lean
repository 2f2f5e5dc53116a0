/-
**The class headers of a source are those of its class lines.**

The search for class headers resumes right below the header line that it found last, so it passes
over no line: every line that declares a public class gives a header, whether it stands in a block or
not. What the search finds can be said line by line (`headersFrom`):

* `classHeaders_eq`: the search gives the headers line by line;
* `IsHeader`: a header with what its line declares, and the start of its body (`bodyStart`);
* `classLines`: the lines that declare a public class, in order;
* `classHeaders_eq_ok`: **the headers that are found are those of the class lines, in order**;
* `exists_classHeaders_iff`: headers are found when every block below a class line is closed;
* `positions_assemble`: **the classes of a source stand on its class lines**;
* `assemble_renamed`: the name that a source is shown by plays no part in its classes.
-/

import ReferencePages.Proofs.Source.Selection

namespace ReferencePages

open Text Declaration

/-! ### Headers line by line -/

/-- The headers of the public classes in the lines from a position on, line by line. -/
def headersFrom (pos : Nat) : List Line → Except ScanError (List (ClassHeader × Nat))
  | [] => .ok []
  | line :: rest =>
    match publicClass? line with
    | none => headersFrom (pos + 1) rest
    | some declared => do
      let first ← classHeaderAt pos declared rest
      let more ← headersFrom (pos + 1) rest
      return first :: more

/-- A header bears what its line declares, and its body starts below the block that is attached. -/
theorem classHeaderAt_eq_ok {pos body : Nat} {declared : ClassLine} {after : List Line}
    {header : ClassHeader} (same : classHeaderAt pos declared after = .ok (header, body)) :
    header.line = pos ∧ header.name = declared.name ∧ header.bases = declared.bases ∧
      ∃ block, plainBlockAt (pos + 1) after = .ok block ∧
        body = (block.map (·.next)).getD (pos + 1) := by
  obtain ⟨block, isBlock, shown⟩ := map_eq_ok same
  cases shown
  exact ⟨rfl, rfl, rfl, block, isBlock, rfl⟩

theorem le_of_findClass {pos next : Nat} {ls : List Line} {header : ClassHeader}
    (found : findClass pos ls = .ok (some (header, next))) : pos ≤ header.line := by
  induction ls generalizing pos with
  | nil => cases found
  | cons line rest ih =>
    rw [findClass] at found
    split at found
    · obtain ⟨pair, isPair, shown⟩ := map_eq_ok found
      cases shown
      exact (classHeaderAt_eq_ok isPair).1.ge
    · exact Nat.le_of_succ_le (ih found)

/-- A line that declares no public class is passed over. -/
theorem collect_findClassLine_cons {line : Line} (notClass : publicClass? line = none) (pos : Nat)
    (rest : List Line) :
    collect findClassLine pos pos (line :: rest) =
      collect findClassLine (pos + 1) (pos + 1) rest := by
  have passed : findClass pos (line :: rest) = findClass (pos + 1) rest := by
    rw [findClass, notClass]
  rw [collect, if_neg (Nat.lt_irrefl pos), findClassLine, passed]
  cases rest with
  | nil => rfl
  | cons second others =>
    rw [collect, if_neg (Nat.lt_irrefl (pos + 1)), findClassLine]
    cases found : findClass (pos + 1) (second :: others) with
    | error error => rfl
    | ok answer =>
      cases answer with
      | none => rfl
      | some pair =>
        obtain ⟨header, body⟩ := pair
        have late := le_of_findClass found
        simp only [Except.map, Option.map_some]
        rw [collect, if_pos (by omega)]

/-- A line that declares a public class is found, and the search resumes right below it. -/
theorem findClassLine_of_class {line : Line} {declared : ClassLine}
    (isClass : publicClass? line = some declared) (pos : Nat) (rest : List Line) :
    findClassLine pos (line :: rest) =
      (classHeaderAt pos declared rest).map fun pair => some (pair, pos + 1) := by
  have found : findClass pos (line :: rest) = (classHeaderAt pos declared rest).map some := by
    rw [findClass, isClass]
  rw [findClassLine, found]
  cases isHeader : classHeaderAt pos declared rest with
  | error error => rfl
  | ok pair =>
    obtain ⟨isLine, -⟩ := classHeaderAt_eq_ok isHeader
    rw [← isLine]
    rfl

/-- **The search that resumes below each header gives the headers line by line.** -/
theorem collect_findClassLine (pos : Nat) (ls : List Line) :
    (collect findClassLine pos pos ls).map (List.map (·.1)) = headersFrom pos ls := by
  induction ls generalizing pos with
  | nil => rfl
  | cons line rest ih =>
    cases isClass : publicClass? line with
    | none => rw [collect_findClassLine_cons isClass, ih, headersFrom, isClass]
    | some declared =>
      rw [collect, if_neg (Nat.lt_irrefl pos), findClassLine_of_class isClass, headersFrom, isClass]
      simp only
      rw [← ih]
      cases classHeaderAt pos declared rest with
      | error error => rfl
      | ok pair =>
        simp only [Except.map]
        cases collect findClassLine (pos + 1) (pos + 1) rest <;> rfl

namespace Source

variable {source : Source}

theorem classHeaders_eq (source : Source) : source.classHeaders = headersFrom 0 source.lines :=
  collect_findClassLine 0 source.lines

/-! ### Class lines -/

/-- The public class that line `i` declares. -/
def classAt? (source : Source) (i : Nat) : Option ClassLine :=
  (source.lines[i]?).bind publicClass?

/-- The lines that declare a public class, in order. -/
def classLines (source : Source) : List Nat :=
  (List.range source.lines.length).filter fun i => (source.classAt? i).isSome

/-- Where the body of a class on line `i` starts: below the untagged block that opens on the first
line below it that is not blank, and right below the line when there is no such block. -/
def bodyStart (source : Source) (i : Nat) : Nat :=
  match source.docBlockAt (i + 1) with
  | .ok (some block) => if block.tag = none then block.next else i + 1
  | _ => i + 1

/-- A header and the start of its body are those of the class that its line declares. -/
structure IsHeader (source : Source) (pair : ClassHeader × Nat) : Prop where
  declared : ∃ declared, source.classAt? pair.1.line = some declared ∧
    pair.1.name = declared.name ∧ pair.1.bases = declared.bases
  body : pair.2 = source.bodyStart pair.1.line
  closed : ∃ block, source.docBlockAt (pair.1.line + 1) = .ok block

theorem classAt?_of_line {i : Nat} {line : Line} (isLine : source.lines[i]? = some line) :
    source.classAt? i = publicClass? line := by
  unfold classAt?
  rw [isLine, Option.bind_some]

theorem mem_classLines {i : Nat} : i ∈ source.classLines ↔ (source.classAt? i).isSome := by
  unfold classLines
  rw [List.mem_filter, List.mem_range, and_iff_right_iff_imp]
  intro isClass
  by_contra late
  unfold classAt? at isClass
  rw [List.getElem?_eq_none (by omega)] at isClass
  cases isClass

theorem isHeader_of_classHeaderAt {pos : Nat} {declared : ClassLine} {pair : ClassHeader × Nat}
    (isClass : source.classAt? pos = some declared)
    (same : classHeaderAt pos declared (source.linesFrom (pos + 1)) = .ok pair) :
    pair.1.line = pos ∧ source.IsHeader pair := by
  obtain ⟨header, body⟩ := pair
  obtain ⟨isLine, isNamed, hasBases, plain, isPlain, isBody⟩ := classHeaderAt_eq_ok same
  subst isLine
  obtain ⟨block, isBlock, rfl⟩ := map_eq_ok isPlain
  refine ⟨rfl, ⟨declared, isClass, isNamed, hasBases⟩, ?_, block, isBlock⟩
  show body = source.bodyStart header.line
  unfold bodyStart
  rw [show source.docBlockAt (header.line + 1) = .ok block from isBlock, isBody]
  cases block with
  | none => rfl
  | some block =>
    simp only [Option.filter_some, Option.isNone_iff_eq_none]
    split <;> rfl

/-- **The headers line by line are those of the class lines.** -/
theorem headersFrom_eq_ok {pos : Nat} {headers : List (ClassHeader × Nat)}
    (same : headersFrom pos (source.linesFrom pos) = .ok headers) :
    headers.map (·.1.line) = (List.range' pos (source.linesFrom pos).length).filter
        (fun i => (source.classAt? i).isSome) ∧
      ∀ pair ∈ headers, source.IsHeader pair := by
  generalize isFrom : source.linesFrom pos = ls at same
  induction ls generalizing pos headers with
  | nil =>
    cases same
    exact ⟨rfl, fun pair member => absurd member List.not_mem_nil⟩
  | cons line rest ih =>
    obtain ⟨isLine, below⟩ := linesFrom_cons isFrom
    rw [List.length_cons, List.range'_succ, List.filter_cons, classAt?_of_line isLine]
    rw [headersFrom] at same
    cases isClass : publicClass? line with
    | none =>
      rw [isClass] at same
      exact ih below same
    | some declared =>
      rw [isClass] at same
      obtain ⟨first, isFirst, same⟩ := bind_eq_ok same
      obtain ⟨more, isMore, same⟩ := bind_eq_ok same
      cases same
      obtain ⟨positions, areHeaders⟩ := ih below isMore
      rw [← below] at isFirst
      obtain ⟨isAt, isHeader⟩ := isHeader_of_classHeaderAt
        ((classAt?_of_line isLine).trans isClass) isFirst
      refine ⟨?_, fun pair member => ?_⟩
      · rw [if_pos (by rfl), List.map_cons, isAt, positions]
      · rcases List.mem_cons.mp member with rfl | inMore
        · exact isHeader
        · exact areHeaders pair inMore

/-- **The headers of a source are those of its class lines, in order.** -/
theorem classHeaders_eq_ok {headers : List (ClassHeader × Nat)}
    (same : source.classHeaders = .ok headers) :
    headers.map (·.1.line) = source.classLines ∧ ∀ pair ∈ headers, source.IsHeader pair := by
  rw [classHeaders_eq] at same
  have same : headersFrom 0 (source.linesFrom 0) = .ok headers := same
  have spec := headersFrom_eq_ok same
  rwa [← List.range_eq_range'] at spec

theorem exists_headersFrom {pos : Nat}
    (closed : ∀ i, (source.classAt? i).isSome → ∃ block, source.docBlockAt (i + 1) = .ok block) :
    ∃ headers, headersFrom pos (source.linesFrom pos) = .ok headers := by
  generalize isFrom : source.linesFrom pos = ls
  induction ls generalizing pos with
  | nil => exact ⟨[], rfl⟩
  | cons line rest ih =>
    obtain ⟨isLine, below⟩ := linesFrom_cons isFrom
    obtain ⟨more, isMore⟩ := ih below
    rw [headersFrom]
    cases isClass : publicClass? line with
    | none => exact ⟨more, isMore⟩
    | some declared =>
      obtain ⟨block, isBlock⟩ := closed pos (by rw [classAt?_of_line isLine, isClass]; rfl)
      rw [docBlockAt, below] at isBlock
      simp only
      rw [isMore, classHeaderAt, plainBlockAt, isBlock]
      exact ⟨_, rfl⟩

/-- **Headers are found when the block below every class line is closed.** -/
theorem exists_classHeaders_iff :
    (∃ headers, source.classHeaders = .ok headers) ↔
      ∀ i, (source.classAt? i).isSome → ∃ block, source.docBlockAt (i + 1) = .ok block := by
  constructor
  · rintro ⟨headers, same⟩ i isClass
    obtain ⟨positions, areHeaders⟩ := classHeaders_eq_ok same
    have member : i ∈ headers.map (·.1.line) := by
      rw [positions]
      exact mem_classLines.mpr isClass
    obtain ⟨pair, inHeaders, rfl⟩ := List.mem_map.mp member
    exact (areHeaders pair inHeaders).closed
  · intro closed
    rw [classHeaders_eq]
    have found : ∃ headers, headersFrom 0 (source.linesFrom 0) = .ok headers :=
      exists_headersFrom closed
    exact found

/-! ### The classes of a source -/

theorem positions_withFunctions {headers : List (ClassHeader × Nat)}
    {classes found : List ClassRecord} (same : source.withFunctions headers classes = .ok found) :
    found.map (·.position) = classes.map (·.position) := by
  cases classes with
  | nil =>
    cases same
    rfl
  | cons first others =>
    cases headers with
    | nil =>
      cases same
      rfl
    | cons pair later =>
      obtain ⟨functions, -, same⟩ := bind_eq_ok same
      obtain ⟨fields, -, same⟩ := bind_eq_ok same
      cases same
      rfl

/-- **The classes of a source stand on its class lines**, one on each. -/
theorem positions_assemble {strict : Bool} {classes : List ClassRecord}
    (same : source.assemble strict = .ok classes) :
    classes.map (·.position) = source.classLines := by
  obtain ⟨headers, isHeaders, same⟩ := bind_eq_ok same
  obtain ⟨-, -, same⟩ := bind_eq_ok same
  obtain ⟨records, isRecords, same⟩ := bind_eq_ok same
  rw [positions_withFunctions (orFault_eq_ok same), (functions_classRecords isRecords).1]
  exact (classHeaders_eq_ok (orFault_eq_ok isHeaders)).1

/-! ### Names -/

section Renamed

variable (source : Source) (name : Text)

theorem classRecords_renamed (headers : List (ClassHeader × Nat)) :
    { source with name := name }.classRecords headers = source.classRecords headers := by
  induction headers with
  | nil => rfl
  | cons header rest ih =>
    rw [classRecords, classRecords, ih]
    rfl

theorem constructorFields_renamed (classLines : List Nat)
    (headers : List (FunctionHeader × Nat)) :
    { source with name := name }.constructorFields classLines headers =
      source.constructorFields classLines headers := by
  induction headers with
  | nil => rfl
  | cons header rest ih =>
    rw [constructorFields, constructorFields, ih]
    rfl

theorem withFunctions_renamed (headers : List (ClassHeader × Nat))
    (classes : List ClassRecord) :
    { source with name := name }.withFunctions headers classes =
      source.withFunctions headers classes := by
  unfold withFunctions
  simp only [constructorFields_renamed]
  rfl

/-- The name that a source is shown by plays no part in its classes. -/
theorem assemble_renamed (strict : Bool) :
    { source with name := name }.assemble strict = source.assemble strict := by
  unfold assemble
  simp only [classRecords_renamed, withFunctions_renamed]
  rfl

end Renamed

end Source

end ReferencePages
