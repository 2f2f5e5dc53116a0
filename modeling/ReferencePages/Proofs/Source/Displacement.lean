/-
**What is read does not depend on what stands above.**

A reader is given a position and the lines from there on. Given the same lines further down, it finds
the same fragments further down: every position in the answer moves by the same distance, and so does
the line of an error. The distance is `k` throughout.

* `docBlockAt_down`, `findTagged_down`, `readSignature_down`: blocks and signatures;
* `headersFrom_down`: class headers;
* `Finder.Moves`: the answers of a finder move; `moves_findFunctionFrom` and `moves_findMember` say so
  of the finders, and `collect_down` of a whole search;
* `classHeaders_below`: lines without a public class on top of a source add no class header;
* `assemble_below`: **with such lines on top, a source has the same classes further down**, the same
  error further down, or the same fault.
-/

import ReferencePages.Proofs.Source.ClassLines

namespace ReferencePages

open Text Declaration

/-! ### Positions further down -/

/-- The error further down. -/
def ScanError.down (k : Nat) : ScanError → ScanError
  | .unterminatedBlock line => .unterminatedBlock (line + k)
  | .unterminatedSignature line name => .unterminatedSignature (line + k) name
  | .malformedMember line kind => .malformedMember (line + k) kind
  | .secondClass line name => .secondClass (line + k) name

/-- The message of an error further down gives a line further down, and is the same otherwise. -/
theorem ScanError.description_down (k : Nat) (error : ScanError) :
    (error.down k).description = (error.description.1 + k, error.description.2) := by
  cases error <;> rfl

/-- The fault further down. -/
def Fault.down (k : Nat) : Fault → Fault
  | .refused error => .refused (error.down k)
  | .reversedRange => .reversedRange

/-- The line further down. -/
def WrittenLine.down (k : Nat) (found : WrittenLine) : WrittenLine :=
  { found with line := found.line + k }

/-- The block further down. -/
def DocBlock.down (k : Nat) (block : DocBlock) : DocBlock :=
  { block with openLine := block.openLine + k, next := block.next + k }

/-- The class header further down. -/
def ClassHeader.down (k : Nat) (header : ClassHeader) : ClassHeader :=
  { header with line := header.line + k }

/-- The function header further down. -/
def FunctionHeader.down (k : Nat) (header : FunctionHeader) : FunctionHeader :=
  { header with line := header.line + k, doc := header.doc.map (·.down k) }

/-- The class further down. -/
def ClassRecord.down (k : Nat) (record : ClassRecord) : ClassRecord :=
  { record with position := record.position + k }

/-- What is found, with the position to resume from, further down. -/
def foundDown {α : Type} (k : Nat) (move : α → α) (found : α × Nat) : α × Nat :=
  (move found.1, found.2 + k)

/-! ### Results further down -/

section Carried

variable {ε α β γ : Type}

/-- A result with its error and its value changed. -/
def carried (onError : ε → ε) (onValue : α → β) : Except ε α → Except ε β
  | .ok value => .ok (onValue value)
  | .error error => .error (onError error)

theorem carried_map {onError : ε → ε} {inner : α → α} {outer : β → β} {f g : α → β}
    (commutes : ∀ a, g (inner a) = outer (f a)) (x : Except ε α) :
    (carried onError inner x).map g = carried onError outer (x.map f) := by
  cases x with
  | error error => rfl
  | ok a => exact congrArg Except.ok (commutes a)

theorem carried_bind {onError : ε → ε} {inner : α → α} {outer : β → β}
    {f g : α → Except ε β} (commutes : ∀ a, g (inner a) = carried onError outer (f a))
    (x : Except ε α) :
    (carried onError inner x >>= g) = carried onError outer (x >>= f) := by
  cases x with
  | error error => rfl
  | ok a => exact commutes a

theorem orFault_carried (k : Nat) (move : α → α) (x : Except ScanError α) :
    orFault (carried (ScanError.down k) move x) = carried (Fault.down k) move (orFault x) := by
  cases x <;> rfl

end Carried

/-! ### Blocks -/

theorem firstWritten_down (k pos : Nat) (ls : List Line) :
    firstWritten (pos + k) ls = (firstWritten pos ls).map (·.down k) := by
  induction ls generalizing pos with
  | nil => rfl
  | cons line rest ih =>
    rw [firstWritten, firstWritten, Nat.add_right_comm]
    split
    · exact ih (pos + 1)
    · rfl

namespace DocBlock

theorem untilClosed_down (k pos : Nat) (ls : List Line) :
    untilClosed (pos + k) ls = (untilClosed pos ls).map fun (body, next) => (body, next + k) := by
  induction ls generalizing pos with
  | nil => rfl
  | cons line rest ih =>
    rw [untilClosed, untilClosed, Nat.add_right_comm]
    split
    · rfl
    · rw [ih, Option.map_map, Option.map_map]
      rfl

theorem read_down (k pos : Nat) (line : Line) (after : List Line) :
    read (pos + k) line after = carried (ScanError.down k) (DocBlock.down k) (read pos line after) := by
  unfold read
  simp only
  split
  · rw [Nat.add_right_comm]
    rfl
  · rw [Nat.add_right_comm, untilClosed_down]
    cases untilClosed (pos + 1) after <;> rfl

end DocBlock

theorem docBlockAt_down (k pos : Nat) (ls : List Line) :
    docBlockAt (pos + k) ls =
      carried (ScanError.down k) (Option.map (·.down k)) (docBlockAt pos ls) := by
  unfold docBlockAt
  rw [firstWritten_down]
  cases firstWritten pos ls with
  | none => rfl
  | some found =>
    simp only [Option.map_some, WrittenLine.down]
    split
    · rw [DocBlock.read_down]
      refine carried_map (fun block => ?_) _
      rfl
    · rfl

theorem plainBlockAt_down (k pos : Nat) (ls : List Line) :
    plainBlockAt (pos + k) ls =
      carried (ScanError.down k) (Option.map (·.down k)) (plainBlockAt pos ls) := by
  unfold plainBlockAt
  rw [docBlockAt_down]
  refine carried_map (fun found => ?_) _
  cases found with
  | none => rfl
  | some block =>
    rw [Option.map_some, Option.filter_some, Option.filter_some]
    show (if block.tag.isNone then some (block.down k) else none) = _
    split <;> rfl

theorem findTaggedFrom_down (k : Nat) (tag : Text) (stop resume pos : Nat) (ls : List Line) :
    findTaggedFrom tag (stop + k) (resume + k) (pos + k) ls =
      carried (ScanError.down k) (Option.map (·.down k)) (findTaggedFrom tag stop resume pos ls) := by
  induction ls generalizing resume pos with
  | nil => rfl
  | cons line rest ih =>
    simp only [findTaggedFrom, Nat.add_le_add_iff_right, Nat.add_lt_add_iff_right]
    rw [Nat.add_right_comm]
    split
    · rfl
    · split
      · exact ih resume (pos + 1)
      · rw [DocBlock.read_down]
        cases DocBlock.read pos line rest with
        | error error => rfl
        | ok block =>
          simp only [carried, DocBlock.down]
          split
          · rfl
          · exact ih block.next (pos + 1)

theorem findTagged_down (k : Nat) (tag : Text) (stop pos : Nat) (ls : List Line) :
    findTagged tag (stop + k) (pos + k) ls =
      carried (ScanError.down k) (Option.map (·.down k)) (findTagged tag stop pos ls) :=
  findTaggedFrom_down k tag stop pos pos ls

/-! ### Signatures -/

theorem signatureFrom_down (k : Nat) (reading : Reading) (pos : Nat) (ls : List Line) :
    signatureFrom reading (pos + k) ls =
      (signatureFrom reading pos ls).map fun (params, next) => (params, next + k) := by
  induction ls generalizing reading pos with
  | nil => rfl
  | cons line rest ih =>
    rw [signatureFrom, signatureFrom]
    simp only
    rw [Nat.add_right_comm]
    split
    · rfl
    · rw [ih, Option.map_map, Option.map_map]
      rfl

theorem readSignature_down (k pos : Nat) (name text : Text) (after : List Line) :
    readSignature (pos + k) name text after =
      carried (ScanError.down k) (fun (params, next) => (params, next + k))
        (readSignature pos name text after) := by
  unfold readSignature
  rw [signatureFrom_down]
  cases signatureFrom (.params 0) pos (text :: after) <;> rfl

/-! ### Finders -/

/-- Given the same lines further down, the second finder finds what the first one finds, further
down. The two differ in the positions they are told to stop at, if any. -/
def Finder.Moves {α : Type} (k : Nat) (move : α → α) (find further : Finder α) : Prop :=
  ∀ pos ls, further (pos + k) ls =
    carried (ScanError.down k) (Option.map (foundDown k move)) (find pos ls)

/-- **What is collected moves with what is found.** -/
theorem collect_down {α : Type} {k : Nat} {move : α → α} {find further : Finder α}
    (moves : Finder.Moves k move find further) (resume pos : Nat) (ls : List Line) :
    collect further (resume + k) (pos + k) ls =
      carried (ScanError.down k) (List.map (foundDown k move)) (collect find resume pos ls) := by
  induction ls generalizing resume pos with
  | nil => rfl
  | cons line rest ih =>
    have step : pos + k + 1 = pos + 1 + k := Nat.add_right_comm pos k 1
    simp only [collect, Nat.add_lt_add_iff_right, step]
    split
    · exact ih resume (pos + 1)
    · rw [moves]
      cases find pos (line :: rest) with
      | error error => rfl
      | ok found =>
        cases found with
        | none => rfl
        | some pair =>
          obtain ⟨first, next⟩ := pair
          simp only [carried, Option.map_some, foundDown]
          rw [ih next (pos + 1)]
          cases collect find next (pos + 1) rest <;> rfl

/-- A class header with the start of its body, further down. -/
def headerDown (k : Nat) : ClassHeader × Nat → ClassHeader × Nat := foundDown k (·.down k)

/-- A function header with the position to resume from, further down. -/
def functionDown (k : Nat) : FunctionHeader × Nat → FunctionHeader × Nat := foundDown k (·.down k)

theorem bodyIndentOf_down (k pos : Nat) (ls : List Line) :
    bodyIndentOf (pos + k) ls = bodyIndentOf pos ls := by
  unfold bodyIndentOf
  rw [firstWritten_down]
  cases firstWritten pos ls <;> rfl

theorem classHeaderAt_down (k pos : Nat) (declared : ClassLine) (after : List Line) :
    classHeaderAt (pos + k) declared after =
      carried (ScanError.down k) (headerDown k) (classHeaderAt pos declared after) := by
  unfold classHeaderAt
  rw [Nat.add_right_comm, plainBlockAt_down, bodyIndentOf_down]
  refine carried_map (fun block => ?_) _
  cases block <;> rfl

theorem headersFrom_down (k pos : Nat) (ls : List Line) :
    headersFrom (pos + k) ls =
      carried (ScanError.down k) (List.map (headerDown k)) (headersFrom pos ls) := by
  induction ls generalizing pos with
  | nil => rfl
  | cons line rest ih =>
    rw [headersFrom, headersFrom, Nat.add_right_comm, ih]
    split
    · rfl
    · rw [classHeaderAt_down]
      refine carried_bind (fun first => ?_) _
      refine carried_bind (fun more => ?_) _
      rfl

theorem functionHeaderAt_down (k : Nat) (marked : Bool) (pos : Nat) (declared : FunctionLine)
    (after : List Line) :
    functionHeaderAt marked (pos + k) declared after =
      carried (ScanError.down k) (functionDown k) (functionHeaderAt marked pos declared after) := by
  unfold functionHeaderAt
  simp only
  split
  · rw [Nat.add_right_comm]
    rfl
  · rw [readSignature_down]
    cases readSignature pos declared.name declared.rest after with
    | error error => rfl
    | ok signature =>
      obtain ⟨params, next⟩ := signature
      simp only [carried]
      rw [show next + k - (pos + k + 1) = next - (pos + 1) by omega, plainBlockAt_down]
      refine carried_map (fun doc => ?_) _
      cases doc <;> rfl

theorem moves_findFunctionFrom (k : Nat) (indents : List Nat) (marked : Bool) :
    Finder.Moves k (·.down k) (findFunctionFrom indents marked) (findFunctionFrom indents marked) := by
  intro pos ls
  induction ls generalizing marked pos with
  | nil => rfl
  | cons line rest ih =>
    rw [findFunctionFrom, findFunctionFrom, Nat.add_right_comm]
    split
    · exact ih _ (pos + 1)
    · split
      · exact ih _ (pos + 1)
      · split
        · rw [functionHeaderAt_down]
          refine carried_map (fun pair => ?_) _
          rfl
        · exact ih _ (pos + 1)

/-- The finder of a member moves with the position it stops at, when the member does not depend on
where its block stands. -/
theorem moves_findMember {α : Type} (k : Nat) (kind : MemberKind) (tag : Text)
    (read? : DocBlock → Line → Option α)
    (blind : ∀ block line, read? (block.down k) line = read? block line) (stop : Nat) :
    Finder.Moves k id (findMember kind tag read? stop) (findMember kind tag read? (stop + k)) := by
  intro pos ls
  unfold findMember
  rw [findTagged_down]
  cases findTagged tag stop pos ls with
  | error error => rfl
  | ok found =>
    cases found with
    | none => rfl
    | some block =>
      simp only [carried, Option.map_some]
      rw [show (block.down k).next - (pos + k) = block.next - pos by
        show block.next + k - (pos + k) = block.next - pos
        omega]
      rw [show (block.down k).next = block.next + k from rfl, firstWritten_down]
      cases firstWritten block.next (ls.drop (block.next - pos)) with
      | none => rfl
      | some target =>
        simp only [Option.map_some, Option.bind_eq_bind, Option.bind_some, WrittenLine.down,
          Nat.add_lt_add_iff_right, blind]
        rw [Nat.add_right_comm]
        by_cases early : target.line < stop
        · rw [if_pos early, if_pos early]
          cases read? block target.text <;> rfl
        · rw [if_neg early, if_neg early]
          rfl

theorem topLevelLine?_down (k pos : Nat) (ls : List Line) :
    topLevelLine? (pos + k) ls = (topLevelLine? pos ls).map (· + k) := by
  induction ls generalizing pos with
  | nil => rfl
  | cons line rest ih =>
    rw [topLevelLine?, topLevelLine?, Nat.add_right_comm]
    split
    · rfl
    · exact ih (pos + 1)

/-! ### Sources with lines on top -/

namespace Source

/-- The source with further lines on top. -/
def below (above : List Line) (source : Source) : Source :=
  { source with lines := above ++ source.lines }

variable (above : List Line) (source : Source)

theorem linesFrom_below (start : Nat) :
    (source.below above).linesFrom (start + above.length) = source.linesFrom start := by
  unfold linesFrom below
  rw [Nat.add_comm, List.drop_length_add_append]

theorem length_below :
    (source.below above).lines.length = source.lines.length + above.length := by
  unfold below
  rw [List.length_append, Nat.add_comm]

/-- A position that falls back to the end of the source. -/
theorem getD_below (position : Option Nat) :
    (position.map (· + above.length)).getD (source.below above).lines.length =
      position.getD source.lines.length + above.length := by
  rw [length_below]
  cases position <;> rfl

theorem classVariables_below (start stop : Nat) :
    (source.below above).classVariables (start + above.length) (stop + above.length) =
      carried (ScanError.down above.length) id (source.classVariables start stop) := by
  have moves := moves_findMember above.length .classVariable classVariableTag classVariableOf?
    (fun _ _ => rfl) stop
  unfold classVariables
  rw [linesFrom_below, ReferencePages.findClassVariable, collect_down moves]
  refine carried_map (fun found => ?_) _
  rw [List.map_map]
  rfl

theorem fields_below (start stop : Nat) :
    (source.below above).fields (start + above.length) (stop + above.length) =
      carried (ScanError.down above.length) id (source.fields start stop) := by
  have moves := moves_findMember above.length .field fieldTag fieldOf? (fun _ _ => rfl) stop
  unfold fields
  rw [linesFrom_below, ReferencePages.findField, collect_down moves]
  refine carried_map (fun found => ?_) _
  rw [List.map_map]
  rfl

theorem functionHeaders_below (start bodyIndent : Nat) :
    (source.below above).functionHeaders (start + above.length) bodyIndent =
      carried (ScanError.down above.length) (List.map (functionDown above.length))
        (source.functionHeaders start bodyIndent) := by
  unfold functionHeaders
  rw [linesFrom_below]
  exact collect_down (moves_findFunctionFrom above.length _ false) start start _

/-! ### Constructors -/

theorem constructorEnd_below (classLines : List Nat) (header : FunctionHeader)
    (later : List (FunctionHeader × Nat)) :
    (source.below above).constructorEnd (classLines.map (· + above.length))
        (header.down above.length) (later.map (functionDown above.length)) =
      source.constructorEnd classLines header later + above.length := by
  have nextFunction : (later.map (functionDown above.length)).head?.map (·.1.line) =
      (later.head?.map (·.1.line)).map (· + above.length) := by
    cases later <;> rfl
  have nextClass : (classLines.map (· + above.length)).find? ((header.down above.length).line < ·) =
      (classLines.find? (header.line < ·)).map (· + above.length) := by
    rw [List.find?_map]
    congr 2
    funext line
    exact decide_eq_decide.mpr Nat.add_lt_add_iff_right
  unfold constructorEnd
  rw [nextFunction, nextClass, getD_below, getD_below]
  exact Nat.add_min_add_right ..

theorem constructorFields_below (classLines : List Nat) (headers : List (FunctionHeader × Nat)) :
    (source.below above).constructorFields (classLines.map (· + above.length))
        (headers.map (functionDown above.length)) =
      carried (ScanError.down above.length) id (source.constructorFields classLines headers) := by
  induction headers with
  | nil => rfl
  | cons pair later ih =>
    obtain ⟨header, next⟩ := pair
    show (source.below above).constructorFields _ ((header.down above.length, next + above.length) ::
      later.map (functionDown above.length)) = _
    rw [constructorFields, constructorFields, constructorEnd_below, fields_below, ih]
    show (if header.name = constructorName then _ else _) = _
    by_cases isConstructor : header.name = constructorName
    · rw [if_pos isConstructor, if_pos isConstructor]
      cases source.fields next (source.constructorEnd classLines header later) with
      | error error => rfl
      | ok found =>
        refine carried_map (fun more => ?_) _
        rfl
    · rw [if_neg isConstructor, if_neg isConstructor]

/-! ### Classes -/

theorem range_below (start stop : Nat) :
    (source.below above).range (start + above.length) (stop + above.length) =
      source.range start stop := by
  have cut : ∀ first last : Nat, ((source.below above).lines.take (last + above.length)).drop
      (first + above.length) = (source.lines.take last).drop first := by
    intro first last
    unfold below
    rw [Nat.add_comm last, List.take_length_add_append, Nat.add_comm first,
      List.drop_length_add_append]
  unfold range
  rw [length_below]
  simp only [Nat.add_min_add_right, Nat.add_le_add_iff_right, cut]

theorem topLevelEnd_below (start : Nat) :
    (source.below above).topLevelEnd (start + above.length) =
      source.topLevelEnd start + above.length := by
  unfold topLevelEnd
  rw [linesFrom_below, topLevelLine?_down, getD_below]

/-- A range of lines can only be reversed, and that fault has no line. -/
theorem carried_enumValues (k start stop indent : Nat) :
    carried (Fault.down k) id (source.enumValues start stop indent) =
      source.enumValues start stop indent := by
  unfold enumValues range
  simp only
  split <;> rfl

theorem membersOf_below (header : ClassHeader) (bodyStart spanEnd : Nat) :
    (source.below above).membersOf (header.down above.length) (bodyStart + above.length)
        (spanEnd + above.length) =
      carried (Fault.down above.length) id (source.membersOf header bodyStart spanEnd) := by
  unfold membersOf
  show (if namesEnum header.bases then _ else _) = _
  by_cases isEnum : namesEnum header.bases = true
  · rw [if_pos isEnum, if_pos isEnum, carried_enumValues, topLevelEnd_below, Nat.add_min_add_right]
    unfold enumValues
    rw [range_below]
    rfl
  · rw [if_neg isEnum, if_neg isEnum]
    rfl

theorem classRecord_below (header : ClassHeader) (bodyStart spanEnd : Nat) :
    (source.below above).classRecord (header.down above.length) (bodyStart + above.length)
        (spanEnd + above.length) =
      carried (Fault.down above.length) (·.down above.length)
        (source.classRecord header bodyStart spanEnd) := by
  unfold classRecord
  rw [classVariables_below, orFault_carried, membersOf_below]
  refine carried_bind (fun documented => ?_) _
  refine carried_bind (fun members => ?_) _
  rfl

theorem classRecords_below (headers : List (ClassHeader × Nat)) :
    (source.below above).classRecords (headers.map (headerDown above.length)) =
      carried (Fault.down above.length) (List.map (·.down above.length))
        (source.classRecords headers) := by
  induction headers with
  | nil => rfl
  | cons pair later ih =>
    obtain ⟨header, bodyStart⟩ := pair
    have nextClass : (later.map (headerDown above.length)).head?.map (·.1.line) =
        (later.head?.map (·.1.line)).map (· + above.length) := by
      cases later <;> rfl
    show (source.below above).classRecords ((header.down above.length, bodyStart + above.length) ::
      later.map (headerDown above.length)) = _
    rw [classRecords, classRecords, nextClass, getD_below, classRecord_below, ih]
    refine carried_bind (fun first => ?_) _
    refine carried_bind (fun rest => ?_) _
    rfl

theorem functionRecord_down (k : Nat) (className : Text) (header : FunctionHeader) :
    functionRecord className (header.down k) = functionRecord className header := by
  unfold functionRecord FunctionHeader.down
  cases header.doc <;> rfl

theorem shown_functionDown (k : Nat) (className : Text) (headers : List (FunctionHeader × Nat)) :
    (((headers.map (functionDown k)).map (·.1)).filter (! ·.isHidden)).map
        (functionRecord className) =
      ((headers.map (·.1)).filter (! ·.isHidden)).map (functionRecord className) := by
  have moved : (headers.map (functionDown k)).map (·.1) =
      (headers.map (·.1)).map (FunctionHeader.down k) := by
    rw [List.map_map, List.map_map]
    rfl
  rw [moved, List.filter_map, List.map_map]
  refine List.map_congr_left fun header _ => ?_
  exact functionRecord_down k className header

theorem withFunctions_below (headers : List (ClassHeader × Nat)) (classes : List ClassRecord) :
    (source.below above).withFunctions (headers.map (headerDown above.length))
        (classes.map (·.down above.length)) =
      carried (ScanError.down above.length) (List.map (·.down above.length))
        (source.withFunctions headers classes) := by
  cases classes with
  | nil => rfl
  | cons first others =>
    cases headers with
    | nil => rfl
    | cons pair later =>
      obtain ⟨owner, bodyStart⟩ := pair
      have classLines : (((owner, bodyStart) :: later).map (headerDown above.length)).map (·.1.line) =
          (((owner, bodyStart) :: later).map (·.1.line)).map (· + above.length) := by
        rw [List.map_map, List.map_map]
        rfl
      simp only [withFunctions, List.map_cons] at classLines ⊢
      rw [classLines]
      show ((source.below above).functionHeaders (bodyStart + above.length) owner.bodyIndent >>= _) = _
      rw [functionHeaders_below]
      refine carried_bind (fun functions => ?_) _
      have fieldsBelow := constructorFields_below above source
        (owner.line :: later.map (·.1.line)) functions
      rw [List.map_cons] at fieldsBelow
      rw [fieldsBelow, shown_functionDown]
      refine carried_bind (fun fields => ?_) _
      rfl

theorem checkStrict_below (k : Nat) (strict : Bool) (headers : List (ClassHeader × Nat)) :
    checkStrict strict (headers.map (headerDown k)) =
      carried (ScanError.down k) id (checkStrict strict headers) := by
  cases strict with
  | false => rfl
  | true =>
    match headers with
    | [] => rfl
    | [_] => rfl
    | _ :: _ :: _ => rfl

/-! ### Class headers -/

theorem headersFrom_append {above : List Line} (plain : ∀ line ∈ above, publicClass? line = none)
    (pos : Nat) (rest : List Line) :
    headersFrom pos (above ++ rest) = headersFrom (pos + above.length) rest := by
  induction above generalizing pos with
  | nil => rfl
  | cons line others ih =>
    rw [List.cons_append, headersFrom, plain line List.mem_cons_self]
    simp only
    rw [ih (fun other member => plain other (List.mem_cons_of_mem _ member)) (pos + 1)]
    rw [List.length_cons, Nat.add_right_comm, Nat.add_assoc pos]

/-- **Lines that declare no public class add no header.** -/
theorem classHeaders_below {above : List Line} (plain : ∀ line ∈ above, publicClass? line = none)
    (source : Source) :
    (source.below above).classHeaders =
      carried (ScanError.down above.length) (List.map (headerDown above.length))
        source.classHeaders := by
  rw [classHeaders_eq, classHeaders_eq, below, headersFrom_append plain, headersFrom_down]

/-- **With lines on top that declare no public class, a source has the same classes further down**;
it is refused for the same reason further down, or it has the same fault. -/
theorem assemble_below {above : List Line} (plain : ∀ line ∈ above, publicClass? line = none)
    (source : Source) (strict : Bool) :
    (source.below above).assemble strict =
      carried (Fault.down above.length) (List.map (·.down above.length))
        (source.assemble strict) := by
  unfold assemble
  rw [classHeaders_below plain, orFault_carried]
  refine carried_bind (fun headers => ?_) _
  rw [checkStrict_below, orFault_carried]
  refine carried_bind (fun _ => ?_) _
  rw [classRecords_below]
  refine carried_bind (fun classes => ?_) _
  rw [withFunctions_below, orFault_carried]

/-- Lines without a public class: a function, a decorator, an open block and a private class. -/
def linesAbove : List Line :=
  ["def above(x, (", "@staticmethod", "    \"\"\"never closed", "class _Hidden(Enum):"].map (·.toList)

/-- A class with a variable, a constructor with a field and a function, and an enumeration. -/
def displacedSample : Source :=
  ofText "a.py".toList (joinLines (["class Shape:", "    \"\"\":class_var Limit.\"\"\"",
    "    LIMIT = 3", "    def __init__(self):", "        \"\"\":field Width.\"\"\"",
    "        self.w = 1", "class Color(Enum):", "    RED = 1  # Warm."].map (·.toList)))

theorem assemble_below_sample :
    (∀ line ∈ linesAbove, publicClass? line = none) ∧
      ((displacedSample.below linesAbove).assemble false =
        carried (Fault.down 4) (List.map (·.down 4)) (displacedSample.assemble false)) ∧
      (displacedSample.below linesAbove).assemble true =
        .error (.refused (.secondClass 10 "Color".toList)) := by
  have plain : ∀ line ∈ linesAbove, publicClass? line = none := by decide
  have refused : displacedSample.assemble true =
      .error (.refused (.secondClass 6 "Color".toList)) := by decide +kernel
  refine ⟨plain, assemble_below plain displacedSample false, ?_⟩
  rw [assemble_below plain displacedSample true, refused]
  rfl

end Source

end ReferencePages
