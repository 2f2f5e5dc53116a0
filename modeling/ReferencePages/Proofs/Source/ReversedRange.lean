/-
**When a range of lines is reversed.**

The members of an enumeration are looked for from the start of its body up to the next class. The
block below a class line is read to its end, and a line in it may declare the next class; then the
body starts below the place where it has to end. This is the only way to a reversed range:

* `Swallows`: class `k` is an enumeration whose block reaches beyond the line of the next class;
* `membersOf_eq_error`: the members of a class are out of reach when it swallows the next one;
* `classRecords_eq_reversedRange_iff`: the first such class stops the run, unless the class variables
  of a class above it are refused;
* `Reverses`, `InRange`: the whole condition, and the positions that are used otherwise;
* `assemble_eq_reversedRange_iff`: **a source has a reversed range exactly when `Reverses` holds**, it
  is read or refused otherwise, and every position that is used lies among its lines.
-/

import ReferencePages.Proofs.Source.Bounds

namespace ReferencePages

open Text Declaration

/-! ### Errors -/

theorem bind_eq_error_iff {ε α β : Type} {f : α → Except ε β} {x : Except ε α} {error : ε} :
    (x >>= f) = .error error ↔ x = .error error ∨ ∃ a, x = .ok a ∧ f a = .error error := by
  cases x with
  | error other =>
    refine ⟨fun same => Or.inl (congrArg Except.error (Except.error.inj same)), ?_⟩
    rintro (same | ⟨a, isOk, -⟩)
    · exact congrArg Except.error (Except.error.inj same)
    · cases isOk
  | ok a =>
    refine ⟨fun same => Or.inr ⟨a, rfl, same⟩, ?_⟩
    rintro (same | ⟨b, isOk, same⟩)
    · cases same
    · cases isOk
      exact same

theorem orFault_eq_error_iff {α : Type} {x : Except ScanError α} {fault : Fault} :
    orFault x = .error fault ↔ ∃ error, x = .error error ∧ fault = .refused error := by
  cases x with
  | error error =>
    refine ⟨fun same => ⟨error, rfl, (Except.error.inj same).symm⟩, ?_⟩
    rintro ⟨other, same, rfl⟩
    cases same
    rfl
  | ok a =>
    refine ⟨fun same => (by cases same), ?_⟩
    rintro ⟨error, same, -⟩
    cases same

theorem topLevelLine?_bounds {pos i : Nat} {ls : List Line} (found : topLevelLine? pos ls = some i) :
    pos ≤ i ∧ i < pos + ls.length := by
  induction ls generalizing pos with
  | nil => cases found
  | cons line rest ih =>
    rw [topLevelLine?] at found
    rw [List.length_cons]
    split at found
    · cases found
      omega
    · have below := ih found
      omega

namespace Source

variable {source : Source}

theorem topLevelEnd_bounds {start : Nat} (inside : start ≤ source.lines.length) :
    start ≤ source.topLevelEnd start ∧ source.topLevelEnd start ≤ source.lines.length := by
  have ends := source.length_linesFrom inside
  unfold topLevelEnd
  cases found : topLevelLine? start (source.linesFrom start) with
  | none => exact ⟨inside, le_rfl⟩
  | some i =>
    have bounds := topLevelLine?_bounds found
    rw [Option.getD_some]
    omega

/-! ### One class -/

/-- The members of an enumeration are out of reach when its body starts below its end. -/
theorem membersOf_eq_error {header : ClassHeader} {bodyStart spanEnd : Nat}
    (inside : bodyStart ≤ source.lines.length) (isEnum : namesEnum header.bases = true)
    (reversed : spanEnd < bodyStart) :
    source.membersOf header bodyStart spanEnd = .error .reversedRange := by
  unfold membersOf enumValues range
  simp only
  rw [if_pos isEnum, if_neg (by omega)]
  rfl

/-- The members of a class are found when it is no enumeration or its body starts above its end. -/
theorem exists_membersOf {header : ClassHeader} {bodyStart spanEnd : Nat}
    (inside : bodyStart ≤ source.lines.length)
    (straight : namesEnum header.bases = true → bodyStart ≤ spanEnd) :
    ∃ members, source.membersOf header bodyStart spanEnd = .ok members := by
  unfold membersOf enumValues range
  simp only
  by_cases isEnum : namesEnum header.bases = true
  · have below := topLevelEnd_bounds inside
    have reaches := straight isEnum
    rw [if_pos isEnum, if_pos (by omega)]
    exact ⟨_, rfl⟩
  · rw [if_neg isEnum]
    exact ⟨[], rfl⟩

/-- Where nothing is left to search, no class variable is found. -/
theorem classVariables_of_le {start stop : Nat} (reversed : stop ≤ start) :
    source.classVariables start stop = .ok [] := by
  unfold classVariables
  cases source.linesFrom start with
  | nil => rfl
  | cons line rest =>
    have nothing : ReferencePages.findClassVariable stop start (line :: rest) = .ok none := by
      rw [ReferencePages.findClassVariable, findMember, ReferencePages.findTagged,
        findTaggedFrom, if_pos reversed]
    rw [collect, if_neg (Nat.lt_irrefl start), nothing]
    rfl

/-! ### All classes -/

/-- Where the lines of class `k` end: at the next one of the class lines, or at the end of the
source. -/
def spanEnd (source : Source) (lines : List Nat) (k : Nat) : Nat :=
  (lines[k + 1]?).getD source.lines.length

/-- Class `k`, by the class lines, is an enumeration, and its body starts below the line of the next
class. -/
def Swallows (source : Source) (lines : List Nat) (k : Nat) : Prop :=
  ∃ line next declared, lines[k]? = some line ∧ lines[k + 1]? = some next ∧
    source.classAt? line = some declared ∧ namesEnum declared.bases = true ∧
    next < source.bodyStart line

/-- The class variables of class `k`, by the class lines, are read without an error. -/
def ReadsVariables (source : Source) (lines : List Nat) (k : Nat) : Prop :=
  ∃ line documented, lines[k]? = some line ∧
    source.classVariables (source.bodyStart line) (source.spanEnd lines k) = .ok documented

/-- A header of the source whose body starts among the lines. -/
structure IsHeaderInside (source : Source) (pair : ClassHeader × Nat) : Prop where
  isHeader : source.IsHeader pair
  inside : pair.2 ≤ source.lines.length

theorem swallows_zero {header : ClassHeader} {bodyStart : Nat}
    (isInside : source.IsHeaderInside (header, bodyStart)) (lines : List Nat) :
    source.Swallows (header.line :: lines) 0 ↔
      namesEnum header.bases = true ∧ source.spanEnd (header.line :: lines) 0 < bodyStart := by
  obtain ⟨declared, isClass, -, hasBases⟩ := isInside.isHeader.declared
  have body : bodyStart = source.bodyStart header.line := isInside.isHeader.body
  have inside : bodyStart ≤ source.lines.length := isInside.inside
  have hasBases : header.bases = declared.bases := hasBases
  constructor
  · rintro ⟨line, next, other, isLine, isNext, isOther, isEnum, reversed⟩
    cases isLine
    obtain rfl := Option.some.inj (isClass.symm.trans isOther)
    rw [hasBases]
    refine ⟨isEnum, ?_⟩
    rw [spanEnd, isNext, body]
    exact reversed
  · rintro ⟨isEnum, reversed⟩
    cases isNext : (header.line :: lines)[0 + 1]? with
    | none =>
      rw [spanEnd, isNext] at reversed
      exact absurd inside (Nat.not_le_of_lt reversed)
    | some next =>
      rw [spanEnd, isNext, body] at reversed
      exact ⟨header.line, next, declared, rfl, isNext, isClass, hasBases ▸ isEnum, reversed⟩

/-- One class is out of reach, is refused, or is read. -/
theorem classRecord_cases {header : ClassHeader} {bodyStart : Nat} {lines : List Nat}
    (isInside : source.IsHeaderInside (header, bodyStart)) {stop : Nat}
    (isStop : source.spanEnd (header.line :: lines) 0 = stop) :
    (source.Swallows (header.line :: lines) 0 ∧
        source.classRecord header bodyStart stop = .error .reversedRange) ∨
      (¬ source.Swallows (header.line :: lines) 0 ∧
        ¬ source.ReadsVariables (header.line :: lines) 0 ∧
        ∃ error, source.classVariables bodyStart stop = .error error ∧
          source.classRecord header bodyStart stop = .error (.refused error)) ∨
      (¬ source.Swallows (header.line :: lines) 0 ∧
        source.ReadsVariables (header.line :: lines) 0 ∧
        ∃ first, source.classRecord header bodyStart stop = .ok first) := by
  have body : bodyStart = source.bodyStart header.line := isInside.isHeader.body
  have zero := swallows_zero isInside lines
  rw [isStop] at zero
  unfold classRecord
  by_cases swallows : source.Swallows (header.line :: lines) 0
  · obtain ⟨isEnum, reversed⟩ := zero.mp swallows
    refine Or.inl ⟨swallows, ?_⟩
    rw [classVariables_of_le reversed.le, membersOf_eq_error isInside.inside isEnum reversed]
    rfl
  · refine Or.inr ?_
    have straight : namesEnum header.bases = true → bodyStart ≤ stop := by
      intro isEnum
      by_contra reversed
      exact swallows (zero.mpr ⟨isEnum, by omega⟩)
    obtain ⟨members, areMembers⟩ := exists_membersOf isInside.inside straight
    cases reads : source.classVariables bodyStart stop with
    | error error =>
      refine Or.inl ⟨swallows, ?_, error, rfl, rfl⟩
      rintro ⟨line, documented, isLine, isRead⟩
      cases isLine
      rw [← body, isStop, reads] at isRead
      cases isRead
    | ok documented =>
      refine Or.inr ⟨swallows, ⟨header.line, documented, rfl, ?_⟩, ?_⟩
      · rw [← body, isStop, reads]
      · rw [areMembers]
        exact ⟨_, rfl⟩

/-- **The first class that swallows the next one stops the run**, unless the class variables of a
class above it are refused. -/
theorem classRecords_eq_reversedRange_iff {headers : List (ClassHeader × Nat)}
    (areInside : ∀ pair ∈ headers, source.IsHeaderInside pair) :
    source.classRecords headers = .error .reversedRange ↔
      ∃ k, source.Swallows (headers.map (·.1.line)) k ∧
        ∀ i < k, ¬ source.Swallows (headers.map (·.1.line)) i ∧
          source.ReadsVariables (headers.map (·.1.line)) i := by
  induction headers with
  | nil =>
    refine ⟨fun same => (by cases same), ?_⟩
    rintro ⟨k, ⟨line, next, declared, isLine, -⟩, -⟩
    cases isLine
  | cons pair later ih =>
    obtain ⟨header, bodyStart⟩ := pair
    have below := ih fun other member => areInside other (List.mem_cons_of_mem _ member)
    have isStop : source.spanEnd (header.line :: later.map (·.1.line)) 0 =
        (later.head?.map (·.1.line)).getD source.lines.length := by
      cases later <;> rfl
    rw [List.map_cons, classRecords]
    simp only
    rcases classRecord_cases (areInside _ List.mem_cons_self) isStop with
      ⟨swallows, stops⟩ | ⟨free, unread, error, -, refused⟩ | ⟨free, reads, first, isFirst⟩
    · rw [stops]
      exact ⟨fun _ => ⟨0, swallows, fun i early => absurd early (Nat.not_lt_zero i)⟩, fun _ => rfl⟩
    · rw [refused]
      refine ⟨fun same => (by cases same), ?_⟩
      rintro ⟨k, swallows, above⟩
      cases k with
      | zero => exact absurd swallows free
      | succ k => exact absurd (above 0 (Nat.succ_pos k)).2 unread
    · have rest : (source.classRecords later >>= fun rest => Except.ok (first :: rest)) =
          .error .reversedRange ↔ source.classRecords later = .error .reversedRange := by
        rw [bind_eq_error_iff]
        refine or_iff_left ?_
        rintro ⟨_, -, shown⟩
        cases shown
      rw [isFirst]
      show (source.classRecords later >>= fun rest => Except.ok (first :: rest)) = _ ↔ _
      rw [rest, below]
      constructor
      · rintro ⟨k, swallows, above⟩
        refine ⟨k + 1, swallows, fun i early => ?_⟩
        cases i with
        | zero => exact ⟨free, reads⟩
        | succ i => exact above i (by omega)
      · rintro ⟨k, swallows, above⟩
        cases k with
        | zero => exact absurd swallows free
        | succ k => exact ⟨k, swallows, fun i early => above (i + 1) (by omega)⟩

/-! ### The whole source -/

theorem checkStrict_eq_ok_iff {strict : Bool} {headers : List (ClassHeader × Nat)} :
    checkStrict strict headers = .ok () ↔ strict = false ∨ headers.length ≤ 1 := by
  unfold checkStrict
  split
  · refine ⟨fun same => (by cases same), ?_⟩
    rintro (same | few)
    · cases same
    · simp only [List.length_cons] at few
      omega
  · rename_i several
    refine ⟨fun _ => ?_, fun _ => rfl⟩
    cases strict with
    | false => exact Or.inl rfl
    | true =>
      refine Or.inr ?_
      match headers with
      | [] => exact Nat.zero_le 1
      | [_] => exact le_rfl
      | first :: second :: more => exact absurd rfl (several first second.1 second.2 more rfl)

theorem isHeaderInside_of_classHeaders {headers : List (ClassHeader × Nat)}
    (same : source.classHeaders = .ok headers) : ∀ pair ∈ headers, source.IsHeaderInside pair := by
  have stays := source.stays_classHeaders
  rw [same] at stays
  exact fun pair member => ⟨(classHeaders_eq_ok same).2 pair member, (stays pair member).2⟩

/-- A range of lines is reversed: every block below a class line is closed, a second class is allowed
or there is none, and some class swallows the next one, where no class above it does and the class
variables of all classes above it are read. -/
structure Reverses (source : Source) (strict : Bool) : Prop where
  closed : ∀ line, (source.classAt? line).isSome → ∃ block, source.docBlockAt (line + 1) = .ok block
  allowed : strict = false ∨ source.classLines.length ≤ 1
  swallowed : ∃ k, source.Swallows source.classLines k ∧
    ∀ i < k, ¬ source.Swallows source.classLines i ∧ source.ReadsVariables source.classLines i

/-- A source fails where its headers, a second class, a record or the functions fail. -/
theorem assemble_eq_error {strict : Bool} {fault : Fault}
    (failed : source.assemble strict = .error fault) :
    (∃ error, source.classHeaders = .error error ∧ fault = .refused error) ∨
      ∃ headers, source.classHeaders = .ok headers ∧
        ((∃ error, checkStrict strict headers = .error error ∧ fault = .refused error) ∨
          checkStrict strict headers = .ok () ∧
            (source.classRecords headers = .error fault ∨
              ∃ classes error, source.withFunctions headers classes = .error error ∧
                fault = .refused error)) := by
  unfold assemble at failed
  rcases bind_eq_error_iff.mp failed with noHeaders | ⟨headers, isHeaders, failed⟩
  · exact Or.inl (orFault_eq_error_iff.mp noHeaders)
  · refine Or.inr ⟨headers, orFault_eq_ok isHeaders, ?_⟩
    rcases bind_eq_error_iff.mp failed with second | ⟨_, isStrict, failed⟩
    · exact Or.inl (orFault_eq_error_iff.mp second)
    · refine Or.inr ⟨orFault_eq_ok isStrict, ?_⟩
      rcases bind_eq_error_iff.mp failed with noRecords | ⟨classes, -, failed⟩
      · exact Or.inl noRecords
      · exact Or.inr ⟨classes, orFault_eq_error_iff.mp failed⟩

/-- **A range of lines is reversed under exactly these conditions.** -/
theorem reverses_iff {strict : Bool} :
    source.assemble strict = .error .reversedRange ↔ source.Reverses strict := by
  constructor
  · intro failed
    rcases assemble_eq_error failed with ⟨error, -, shown⟩ | ⟨headers, isHeaders, failed⟩
    · cases shown
    rcases failed with ⟨error, -, shown⟩ | ⟨isStrict, failed⟩
    · cases shown
    rcases failed with failed | ⟨classes, error, -, shown⟩
    · obtain ⟨positions, -⟩ := classHeaders_eq_ok isHeaders
      have swallowed := (classRecords_eq_reversedRange_iff
        (isHeaderInside_of_classHeaders isHeaders)).mp failed
      rw [positions] at swallowed
      refine ⟨exists_classHeaders_iff.mp ⟨headers, isHeaders⟩, ?_, swallowed⟩
      rw [← positions, List.length_map]
      exact checkStrict_eq_ok_iff.mp isStrict
    · cases shown
  · intro reverses
    obtain ⟨headers, isHeaders⟩ := exists_classHeaders_iff.mpr reverses.closed
    obtain ⟨positions, -⟩ := classHeaders_eq_ok isHeaders
    have isStrict : checkStrict strict headers = .ok () := by
      rw [checkStrict_eq_ok_iff, ← headers.length_map (·.1.line), positions]
      exact reverses.allowed
    have swallowed := reverses.swallowed
    rw [← positions] at swallowed
    have failed := (classRecords_eq_reversedRange_iff
      (isHeaderInside_of_classHeaders isHeaders)).mpr swallowed
    unfold assemble
    rw [isHeaders]
    show (orFault (checkStrict strict headers) >>= _) = _
    rw [isStrict]
    show (source.classRecords headers >>= _) = _
    rw [failed]
    rfl

/-- No class of a source that is read swallows the next one. -/
theorem not_swallows_of_classRecords {headers : List (ClassHeader × Nat)}
    {classes : List ClassRecord} (areInside : ∀ pair ∈ headers, source.IsHeaderInside pair)
    (same : source.classRecords headers = .ok classes) (k : Nat) :
    ¬ source.Swallows (headers.map (·.1.line)) k := by
  induction headers generalizing classes k with
  | nil =>
    rintro ⟨line, next, declared, isLine, -⟩
    cases isLine
  | cons pair later ih =>
    obtain ⟨header, bodyStart⟩ := pair
    have isStop : source.spanEnd (header.line :: later.map (·.1.line)) 0 =
        (later.head?.map (·.1.line)).getD source.lines.length := by
      cases later <;> rfl
    obtain ⟨first, isFirst, same⟩ := bind_eq_ok same
    obtain ⟨rest, isRest, -⟩ := bind_eq_ok same
    cases k with
    | zero =>
      rcases classRecord_cases (areInside _ List.mem_cons_self) isStop with
        ⟨-, stops⟩ | ⟨free, -⟩ | ⟨free, -⟩
      · cases stops.symm.trans isFirst
      · exact free
      · exact free
    | succ k =>
      exact ih (fun other member => areInside other (List.mem_cons_of_mem _ member)) isRest k

/-! ### Positions in range -/

theorem line_lt_of_classRecords {headers : List (ClassHeader × Nat)} {error : ScanError}
    (areInside : ∀ pair ∈ headers, source.IsHeaderInside pair)
    (failed : source.classRecords headers = .error (.refused error)) :
    error.line < source.lines.length := by
  induction headers with
  | nil => cases failed
  | cons pair later ih =>
    obtain ⟨header, bodyStart⟩ := pair
    have isInside := areInside _ List.mem_cons_self
    have isStop : source.spanEnd (header.line :: later.map (·.1.line)) 0 =
        (later.head?.map (·.1.line)).getD source.lines.length := by
      cases later <;> rfl
    rcases bind_eq_error_iff.mp failed with here | ⟨first, -, failed⟩
    · rcases classRecord_cases isInside isStop with
        ⟨-, stops⟩ | ⟨-, -, other, isOther, refused⟩ | ⟨-, -, first, isFirst⟩
      · cases stops.symm.trans here
      · cases refused.symm.trans here
        have stays := source.stays_classVariables isInside.inside
          ((later.head?.map (·.1.line)).getD source.lines.length)
        rw [isOther] at stays
        exact stays.2
      · cases isFirst.symm.trans here
    · rcases bind_eq_error_iff.mp failed with below | ⟨_, -, shown⟩
      · exact ih (fun other member => areInside other (List.mem_cons_of_mem _ member)) below
      · cases shown

theorem line_lt_of_checkStrict {strict : Bool} {headers : List (ClassHeader × Nat)}
    {error : ScanError} (areInside : ∀ pair ∈ headers, source.IsHeaderInside pair)
    (starts : ∀ pair ∈ headers, pair.1.line < pair.2)
    (failed : checkStrict strict headers = .error error) : error.line < source.lines.length := by
  unfold checkStrict at failed
  split at failed
  · rename_i first second body more
    cases failed
    have member : (second, body) ∈ first :: (second, body) :: more :=
      List.mem_cons_of_mem _ List.mem_cons_self
    exact (starts _ member).trans_le (areInside _ member).inside
  · cases failed

/-- The positions that are used when a source is read: class lines and the starts of bodies, the
positions that searches for class variables, functions and fields resume from, the range of lines
that holds the members of an enumeration, the places of classes and the lines of errors. -/
structure InRange (source : Source) (strict : Bool) : Prop where
  headers : ∀ line ∈ source.classLines,
    line < source.bodyStart line ∧ source.bodyStart line ≤ source.lines.length
  classVariables : ∀ start stop found, start ≤ source.lines.length →
    collect (ReferencePages.findClassVariable stop) start start (source.linesFrom start) = .ok found →
    ∀ pair ∈ found, start < pair.2 ∧ pair.2 ≤ source.lines.length
  functions : ∀ start indent found, start ≤ source.lines.length →
    source.functionHeaders start indent = .ok found →
    ∀ pair ∈ found, start ≤ pair.1.line ∧ pair.1.line < pair.2 ∧ pair.2 ≤ source.lines.length
  fields : ∀ start stop found, start ≤ source.lines.length →
    collect (ReferencePages.findField stop) start start (source.linesFrom start) = .ok found →
    ∀ pair ∈ found, start < pair.2 ∧ pair.2 ≤ source.lines.length
  members : ∀ classes, source.assemble strict = .ok classes → ∀ k line declared,
    source.classLines[k]? = some line → source.classAt? line = some declared →
    namesEnum declared.bases = true →
    source.bodyStart line ≤
        min (source.topLevelEnd (source.bodyStart line)) (source.spanEnd source.classLines k) ∧
      min (source.topLevelEnd (source.bodyStart line)) (source.spanEnd source.classLines k) ≤
        source.lines.length
  classes : ∀ classes, source.assemble strict = .ok classes →
    ∀ c ∈ classes, c.position < source.lines.length
  error : ∀ error, source.assemble strict = .error (.refused error) →
    error.line < source.lines.length

theorem bodyStart_bounds {line : Nat} (inside : line < source.lines.length) :
    line < source.bodyStart line ∧ source.bodyStart line ≤ source.lines.length := by
  have stays := stays_docBlockAt (line + 1) (source.linesFrom (line + 1))
  rw [source.length_linesFrom inside] at stays
  have stays : Stays (line + 1) source.lines.length
      (fun found => ∀ block ∈ found, block.Within (line + 1) source.lines.length)
      (source.docBlockAt (line + 1)) := stays
  unfold bodyStart
  split
  · rename_i block isBlock
    rw [isBlock] at stays
    obtain ⟨opens, below, closes⟩ := stays block rfl
    split
    · omega
    · omega
  · omega

theorem lt_length_of_mem_classLines {line : Nat} (member : line ∈ source.classLines) :
    line < source.lines.length :=
  List.mem_range.mp (List.mem_filter.mp member).1

theorem members_inRange {k line : Nat} {declared : ClassLine}
    (free : ¬ source.Swallows source.classLines k) (isLine : source.classLines[k]? = some line)
    (isClass : source.classAt? line = some declared) (isEnum : namesEnum declared.bases = true) :
    source.bodyStart line ≤
        min (source.topLevelEnd (source.bodyStart line)) (source.spanEnd source.classLines k) ∧
      min (source.topLevelEnd (source.bodyStart line)) (source.spanEnd source.classLines k) ≤
        source.lines.length := by
  obtain ⟨-, inside⟩ := bodyStart_bounds
    (lt_length_of_mem_classLines (List.mem_of_getElem? isLine))
  obtain ⟨below, ends⟩ := topLevelEnd_bounds inside
  have reaches : source.bodyStart line ≤ source.spanEnd source.classLines k := by
    unfold spanEnd
    cases isNext : source.classLines[k + 1]? with
    | none => exact inside
    | some next =>
      by_contra reversed
      exact free ⟨line, next, declared, isLine, isNext, isClass, isEnum, Nat.lt_of_not_le reversed⟩
  exact ⟨le_min below reaches, (min_le_left _ _).trans ends⟩

/-- **Every position that is used lies among the lines.** -/
theorem inRange (source : Source) (strict : Bool) : source.InRange strict where
  headers := fun line member => bodyStart_bounds (lt_length_of_mem_classLines member)
  classVariables := by
    intro start stop found inside same
    have stays := source.stays_members .classVariable classVariableTag classVariableOf? inside stop
    rw [ReferencePages.findClassVariable] at same
    rw [same] at stays
    exact stays
  functions := by
    intro start indent found inside same
    have stays := source.stays_functionHeaders inside indent
    rw [same] at stays
    exact stays
  fields := by
    intro start stop found inside same
    have stays := source.stays_members .field fieldTag fieldOf? inside stop
    rw [ReferencePages.findField] at same
    rw [same] at stays
    exact stays
  members := by
    intro classes same k line declared isLine isClass isEnum
    obtain ⟨headers, isHeaders, same⟩ := bind_eq_ok same
    obtain ⟨_, -, same⟩ := bind_eq_ok same
    obtain ⟨records, isRecords, -⟩ := bind_eq_ok same
    have isHeaders := orFault_eq_ok isHeaders
    have free := not_swallows_of_classRecords (isHeaderInside_of_classHeaders isHeaders) isRecords k
    rw [(classHeaders_eq_ok isHeaders).1] at free
    exact members_inRange free isLine isClass isEnum
  classes := by
    intro classes same c member
    refine lt_length_of_mem_classLines ?_
    rw [← positions_assemble same]
    exact List.mem_map_of_mem member
  error := by
    intro error failed
    have headersStay := source.stays_classHeaders
    rcases assemble_eq_error failed with ⟨other, isOther, shown⟩ | ⟨headers, isHeaders, failed⟩
    · cases shown
      rw [isOther] at headersStay
      exact headersStay.2
    have areInside := isHeaderInside_of_classHeaders isHeaders
    rw [isHeaders] at headersStay
    rcases failed with ⟨other, isOther, shown⟩ | ⟨-, failed⟩
    · cases shown
      exact line_lt_of_checkStrict areInside (fun pair member => (headersStay pair member).1) isOther
    rcases failed with failed | ⟨classes, other, isOther, shown⟩
    · exact line_lt_of_classRecords areInside failed
    · cases shown
      have stays := source.stays_withFunctions (fun pair member => (areInside pair member).inside)
        classes
      rw [isOther] at stays
      exact stays.2

/-- **A source has a reversed range exactly when `Reverses` holds.** In every other case it is read
or refused; every position that is used lies among its lines. -/
theorem assemble_eq_reversedRange_iff (source : Source) (strict : Bool) :
    (source.assemble strict = .error .reversedRange ↔ source.Reverses strict) ∧
      (¬ source.Reverses strict →
        (∃ classes, source.assemble strict = .ok classes) ∨
          ∃ error, source.assemble strict = .error (.refused error)) ∧
      source.InRange strict := by
  refine ⟨reverses_iff, fun straight => ?_, source.inRange strict⟩
  cases result : source.assemble strict with
  | ok classes => exact Or.inl ⟨classes, rfl⟩
  | error fault =>
    cases fault with
    | refused error => exact Or.inr ⟨error, rfl⟩
    | reversedRange => exact absurd (reverses_iff.mp result) straight

/-- The block below an enumeration holds a line that declares another class. -/
example : (ofText "a.py".toList (joinLines (["class Color(Enum):", "    \"\"\"Example:",
    "class Shape:", "    pass\"\"\""].map (·.toList)))).assemble false =
      .error .reversedRange := by
  decide +kernel

end Source

end ReferencePages
