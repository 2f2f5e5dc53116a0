/-
**Positions stay among the lines.**

A reader that is given the lines from a position on answers with positions of those lines: a block
opens on one of them, a search resumes at most right below the last of them, and an error stems from
one of them. `Stays first last P` says of a result that its value satisfies `P` and that its error
lies from `first` on and before `last`.

* `stays_docBlockAt`, `stays_findTaggedFrom`, `stays_readSignature`: blocks and signatures;
* `stays_classHeaderAt`, `staysIn_findFunctionFrom`, `staysIn_findMember`: headers and members;
* `staysIn_collect`: **a search stays where its finder stays**;
* `stays_classHeaders`, `stays_functionHeaders`, `stays_members`: the searches through a source;
* `stays_withFunctions`: the functions and fields of the first class.
-/

import ReferencePages.Proofs.Source.ClassLines

namespace ReferencePages

open Text Declaration

/-- The line that an error stems from. -/
def ScanError.line (error : ScanError) : Nat := error.description.1

/-! ### Results that stay -/

section Stays

variable {α β : Type} {first last : Nat}

/-- The value satisfies `P`, or the error stems from a line from `first` on and before `last`. -/
def Stays (first last : Nat) (P : α → Prop) : Except ScanError α → Prop
  | .ok value => P value
  | .error error => first ≤ error.line ∧ error.line < last

theorem Stays.imp {P Q : α → Prop} {outerFirst outerLast : Nat} {x : Except ScanError α}
    (stays : Stays first last P x) (early : outerFirst ≤ first) (late : last ≤ outerLast)
    (implies : ∀ a, P a → Q a) : Stays outerFirst outerLast Q x := by
  cases x with
  | ok a => exact implies a stays
  | error error => exact ⟨early.trans stays.1, stays.2.trans_le late⟩

theorem Stays.map {P : α → Prop} {Q : β → Prop} {x : Except ScanError α} {f : α → β}
    (stays : Stays first last P x) (implies : ∀ a, P a → Q (f a)) :
    Stays first last Q (x.map f) := by
  cases x with
  | ok a => exact implies a stays
  | error error => exact stays

theorem Stays.bind {P : α → Prop} {Q : β → Prop} {x : Except ScanError α}
    {f : α → Except ScanError β} (stays : Stays first last P x)
    (implies : ∀ a, P a → Stays first last Q (f a)) : Stays first last Q (x >>= f) := by
  cases x with
  | ok a => exact implies a stays
  | error error => exact stays

end Stays

/-! ### Blocks -/

theorem firstWritten_bounds {pos : Nat} {ls : List Line} {found : WrittenLine}
    (same : firstWritten pos ls = some found) :
    pos ≤ found.line ∧ found.line + 1 + found.after.length = pos + ls.length := by
  induction ls generalizing pos with
  | nil => cases same
  | cons line rest ih =>
    rw [firstWritten] at same
    rw [List.length_cons]
    split at same
    · have below := ih same
      omega
    · cases same
      exact ⟨le_rfl, by show pos + 1 + rest.length = _; omega⟩

theorem untilClosed_bounds {pos next : Nat} {ls body : List Line}
    (same : DocBlock.untilClosed pos ls = some (body, next)) : next ≤ pos + ls.length := by
  induction ls generalizing pos body with
  | nil => cases same
  | cons line rest ih =>
    rw [DocBlock.untilClosed] at same
    rw [List.length_cons]
    split at same
    · cases same
      omega
    · obtain ⟨⟨more, last⟩, isMore, shown⟩ := Option.map_eq_some_iff.mp same
      cases shown
      have below := ih isMore
      omega

/-- The block opens and closes among the lines from `first` on and before `last`. -/
def DocBlock.Within (first last : Nat) (block : DocBlock) : Prop :=
  first ≤ block.openLine ∧ block.openLine < block.next ∧ block.next ≤ last

theorem DocBlock.stays_read (pos : Nat) (line : Line) (after : List Line) :
    Stays pos (pos + 1 + after.length) (DocBlock.Within pos (pos + 1 + after.length))
      (DocBlock.read pos line after) := by
  unfold DocBlock.read
  simp only
  split
  · exact ⟨le_rfl, Nat.lt_succ_self pos, Nat.le_add_right _ _⟩
  · split
    · rename_i body next closes
      have later := lt_of_untilClosed closes
      exact ⟨le_rfl, by show pos < next; omega, untilClosed_bounds closes⟩
    · exact ⟨le_rfl, by show pos < _; omega⟩

theorem stays_docBlockAt (pos : Nat) (ls : List Line) :
    Stays pos (pos + ls.length) (fun found => ∀ block ∈ found, block.Within pos (pos + ls.length))
      (docBlockAt pos ls) := by
  unfold docBlockAt
  cases isFirst : firstWritten pos ls with
  | none => exact fun block member => absurd member (Option.not_mem_none block)
  | some found =>
    obtain ⟨early, ends⟩ := firstWritten_bounds isFirst
    simp only
    split
    · refine ((DocBlock.stays_read found.line found.text found.after).imp early ends.le
        fun block within => within).map fun block within => ?_
      intro other member
      cases member
      exact ⟨early.trans within.1, within.2.1, within.2.2.trans ends.le⟩
    · exact fun block member => absurd member (Option.not_mem_none block)

theorem stays_plainBlockAt (pos : Nat) (ls : List Line) :
    Stays pos (pos + ls.length) (fun found => ∀ block ∈ found, block.Within pos (pos + ls.length))
      (plainBlockAt pos ls) := by
  refine (stays_docBlockAt pos ls).map fun found within block member => ?_
  exact within block (Option.filter_eq_some_iff.mp member).1

theorem stays_findTaggedFrom (tag : Text) (stop resume pos : Nat) (ls : List Line) :
    Stays pos (pos + ls.length) (fun found => ∀ block ∈ found, block.Within pos (pos + ls.length))
      (findTaggedFrom tag stop resume pos ls) := by
  induction ls generalizing resume pos with
  | nil => exact fun block member => absurd member (Option.not_mem_none block)
  | cons line rest ih =>
    have ends : pos + 1 + rest.length = pos + (line :: rest).length := by
      rw [List.length_cons]
      omega
    have below : ∀ next, Stays pos (pos + (line :: rest).length)
        (fun found => ∀ block ∈ found, block.Within pos (pos + (line :: rest).length))
        (findTaggedFrom tag stop next (pos + 1) rest) := by
      intro next
      refine (ih next (pos + 1)).imp (Nat.le_succ pos) ends.le fun found within block member => ?_
      have inside := within block member
      exact ⟨Nat.le_of_succ_le inside.1, inside.2.1, inside.2.2.trans ends.le⟩
    rw [findTaggedFrom]
    split
    · exact fun block member => absurd member (Option.not_mem_none block)
    · split
      · exact below resume
      · have stays := DocBlock.stays_read pos line rest
        rw [ends] at stays
        split
        · rename_i error isError
          rw [isError] at stays
          exact stays
        · rename_i block isBlock
          rw [isBlock] at stays
          split
          · intro other member
            cases member
            exact stays
          · exact below block.next

/-! ### Signatures -/

theorem signatureFrom_bounds {reading : Reading} {pos next : Nat} {ls : List Line} {params : Text}
    (same : signatureFrom reading pos ls = some (params, next)) : next ≤ pos + ls.length := by
  induction ls generalizing reading pos params with
  | nil => cases same
  | cons line rest ih =>
    rw [signatureFrom] at same
    simp only at same
    rw [List.length_cons]
    split at same
    · cases same
      omega
    · obtain ⟨⟨more, last⟩, isMore, shown⟩ := Option.map_eq_some_iff.mp same
      cases shown
      have below := ih isMore
      omega

theorem stays_readSignature (pos : Nat) (name text : Text) (after : List Line) :
    Stays pos (pos + 1 + after.length)
      (fun signature => pos < signature.2 ∧ signature.2 ≤ pos + 1 + after.length)
      (readSignature pos name text after) := by
  unfold readSignature
  split
  · rename_i params next isSignature
    have ends := signatureFrom_bounds isSignature
    rw [List.length_cons] at ends
    exact ⟨lt_of_signatureFrom isSignature, by show next ≤ _; omega⟩
  · exact ⟨le_rfl, by show pos < _; omega⟩

/-! ### Headers -/

theorem stays_classHeaderAt (pos : Nat) (declared : ClassLine) (after : List Line) :
    Stays pos (pos + 1 + after.length)
      (fun pair => pair.1.line = pos ∧ pos < pair.2 ∧ pair.2 ≤ pos + 1 + after.length)
      (classHeaderAt pos declared after) := by
  refine ((stays_plainBlockAt (pos + 1) after).imp (Nat.le_succ pos) le_rfl
    fun found within => within).map fun found within => ⟨rfl, ?_⟩
  cases found with
  | none => exact ⟨Nat.lt_succ_self pos, Nat.le_add_right _ _⟩
  | some block =>
    obtain ⟨opens, ends, closes⟩ := within block rfl
    exact ⟨by show pos < block.next; omega, closes⟩

theorem stays_functionHeaderAt (marked : Bool) (pos : Nat) (declared : FunctionLine)
    (after : List Line) :
    Stays pos (pos + 1 + after.length)
      (fun pair => pair.1.line = pos ∧ pos < pair.2 ∧ pair.2 ≤ pos + 1 + after.length)
      (functionHeaderAt marked pos declared after) := by
  have signature := stays_readSignature pos declared.name declared.rest after
  unfold functionHeaderAt
  simp only
  split
  · exact ⟨rfl, Nat.lt_succ_self pos, Nat.le_add_right _ _⟩
  · split
    · rename_i error isError
      rw [isError] at signature
      exact signature
    · rename_i params next isSignature
      rw [isSignature] at signature
      obtain ⟨later, inside⟩ : pos < next ∧ next ≤ pos + 1 + after.length := signature
      have ends : next + (after.drop (next - (pos + 1))).length = pos + 1 + after.length := by
        rw [List.length_drop]
        omega
      refine ((stays_plainBlockAt next (after.drop (next - (pos + 1)))).imp later.le ends.le
        fun found within => within).map fun found within => ⟨rfl, ?_⟩
      cases found with
      | none => exact ⟨later, inside⟩
      | some block =>
        obtain ⟨opens, below, closes⟩ := within block rfl
        exact ⟨by show pos < block.next; omega, closes.trans ends.le⟩

/-! ### Finders -/

/-- In the lines from `first` on that end before `last`, what the finder finds satisfies `P` and its
errors lie among these lines. -/
def Finder.StaysIn {α : Type} (find : Finder α) (first last : Nat) (P : α × Nat → Prop) : Prop :=
  ∀ pos ls, first ≤ pos → pos + ls.length = last →
    Stays first last (fun found => ∀ pair ∈ found, P pair) (find pos ls)

/-- **A search stays where its finder stays.** -/
theorem staysIn_collect {α : Type} {find : Finder α} {first last : Nat} {P : α × Nat → Prop}
    (staysIn : find.StaysIn first last P) {resume pos : Nat} {ls : List Line} (late : first ≤ pos)
    (ends : pos + ls.length = last) :
    Stays first last (fun found => ∀ pair ∈ found, P pair) (collect find resume pos ls) := by
  induction ls generalizing resume pos with
  | nil => exact fun pair member => absurd member List.not_mem_nil
  | cons line rest ih =>
    have below : ∀ next, Stays first last (fun found => ∀ pair ∈ found, P pair)
        (collect find next (pos + 1) rest) := by
      intro next
      rw [List.length_cons] at ends
      exact ih (Nat.le_succ_of_le late) (by omega)
    have here := staysIn pos (line :: rest) late ends
    rw [collect]
    split
    · exact below resume
    · split
      · rename_i error isError
        rw [isError] at here
        exact here
      · exact fun pair member => absurd member List.not_mem_nil
      · rename_i found next isFound
        rw [isFound] at here
        have more := below next
        split
        · rename_i error isError
          rw [isError] at more
          exact more
        · rename_i others areOthers
          rw [areOthers] at more
          intro pair member
          rcases List.mem_cons.mp member with rfl | inOthers
          · exact here _ rfl
          · exact more pair inOthers

theorem staysIn_findFunctionFrom (indents : List Nat) (marked : Bool) (first last : Nat) :
    (findFunctionFrom indents marked).StaysIn first last
      fun pair => first ≤ pair.1.line ∧ pair.1.line < pair.2 ∧ pair.2 ≤ last := by
  intro pos ls late ends
  induction ls generalizing marked pos with
  | nil => exact fun pair member => absurd member (Option.not_mem_none pair)
  | cons line rest ih =>
    rw [List.length_cons] at ends
    have below : ∀ later, Stays first last (fun found => ∀ pair ∈ found,
        first ≤ pair.1.line ∧ pair.1.line < pair.2 ∧ pair.2 ≤ last)
        (findFunctionFrom indents later (pos + 1) rest) :=
      fun later => ih later (pos + 1) (Nat.le_succ_of_le late) (by omega)
    rw [findFunctionFrom]
    split
    · exact below _
    · split
      · exact below _
      · rename_i declared _
        split
        · have stays := stays_functionHeaderAt marked pos declared rest
          refine (stays.imp late (by omega) fun pair within => within).map fun pair within => ?_
          intro other member
          cases member
          omega
        · exact below _

theorem staysIn_findMember {α : Type} (kind : MemberKind) (tag : Text)
    (read? : DocBlock → Line → Option α) (stop first last : Nat) :
    (findMember kind tag read? stop).StaysIn first last fun pair => first < pair.2 ∧ pair.2 ≤ last := by
  intro pos ls late ends
  have tagged := stays_findTaggedFrom tag stop pos pos ls
  unfold findMember findTagged
  split
  · rename_i error isError
    rw [isError] at tagged
    exact ⟨late.trans tagged.1, tagged.2.trans_eq ends⟩
  · exact fun pair member => absurd member (Option.not_mem_none pair)
  · rename_i block isBlock
    rw [isBlock] at tagged
    obtain ⟨opens, below, closes⟩ := tagged block rfl
    simp only
    split
    · rename_i found isFound
      intro pair member
      cases member
      obtain ⟨target, isTarget, isFound⟩ := Option.bind_eq_some_iff.mp isFound
      obtain ⟨later, rest⟩ := firstWritten_bounds isTarget
      rw [List.length_drop] at rest
      split at isFound
      · obtain ⟨member, -, rfl⟩ := Option.map_eq_some_iff.mp isFound
        show first < target.line + 1 ∧ target.line + 1 ≤ last
        omega
      · cases isFound
    · exact ⟨by show first ≤ block.openLine; omega, by show block.openLine < last; omega⟩

/-! ### Searches through a source -/

namespace Source

variable (source : Source)

theorem length_linesFrom {start : Nat} (inside : start ≤ source.lines.length) :
    start + (source.linesFrom start).length = source.lines.length := by
  unfold linesFrom
  rw [List.length_drop]
  omega

/-- Class headers, and the starts of their bodies, stand among the lines. -/
theorem stays_headersFrom (pos : Nat) (ls : List Line) :
    Stays pos (pos + ls.length)
      (fun headers => ∀ pair ∈ headers, pair.1.line < pair.2 ∧ pair.2 ≤ pos + ls.length)
      (headersFrom pos ls) := by
  induction ls generalizing pos with
  | nil => exact fun pair member => absurd member List.not_mem_nil
  | cons line rest ih =>
    have ends : pos + 1 + rest.length = pos + (line :: rest).length := by
      rw [List.length_cons]
      omega
    have below : Stays pos (pos + (line :: rest).length)
        (fun headers => ∀ pair ∈ headers,
          pair.1.line < pair.2 ∧ pair.2 ≤ pos + (line :: rest).length)
        (headersFrom (pos + 1) rest) := by
      refine (ih (pos + 1)).imp (Nat.le_succ pos) ends.le fun headers within pair member => ?_
      rw [← ends]
      exact within pair member
    rw [headersFrom]
    split
    · exact below
    · rename_i declared _
      have here := stays_classHeaderAt pos declared rest
      rw [ends] at here
      refine here.bind fun header within => below.bind fun more areWithin => ?_
      intro pair member
      rcases List.mem_cons.mp member with rfl | inMore
      · exact ⟨within.1.trans_lt within.2.1, within.2.2⟩
      · exact areWithin pair inMore

theorem stays_classHeaders :
    Stays 0 source.lines.length
      (fun headers => ∀ pair ∈ headers, pair.1.line < pair.2 ∧ pair.2 ≤ source.lines.length)
      source.classHeaders := by
  rw [classHeaders_eq]
  have stays := stays_headersFrom 0 source.lines
  rwa [Nat.zero_add] at stays

theorem stays_functionHeaders {start : Nat} (inside : start ≤ source.lines.length)
    (bodyIndent : Nat) :
    Stays start source.lines.length
      (fun found => ∀ pair ∈ found,
        start ≤ pair.1.line ∧ pair.1.line < pair.2 ∧ pair.2 ≤ source.lines.length)
      (source.functionHeaders start bodyIndent) :=
  staysIn_collect (staysIn_findFunctionFrom _ _ _ _) le_rfl (source.length_linesFrom inside)

theorem stays_members {α : Type} (kind : MemberKind) (tag : Text)
    (read? : DocBlock → Line → Option α) {start : Nat} (inside : start ≤ source.lines.length)
    (stop : Nat) :
    Stays start source.lines.length
      (fun found => ∀ pair ∈ found, start < pair.2 ∧ pair.2 ≤ source.lines.length)
      (collect (findMember kind tag read? stop) start start (source.linesFrom start)) :=
  staysIn_collect (staysIn_findMember _ _ _ _ _ _) le_rfl (source.length_linesFrom inside)

theorem stays_classVariables {start : Nat} (inside : start ≤ source.lines.length) (stop : Nat) :
    Stays start source.lines.length (fun _ => True) (source.classVariables start stop) :=
  (source.stays_members .classVariable classVariableTag classVariableOf? inside stop).map
    fun _ _ => trivial

theorem stays_fields {start : Nat} (inside : start ≤ source.lines.length) (stop : Nat) :
    Stays start source.lines.length (fun _ => True) (source.fields start stop) :=
  (source.stays_members .field fieldTag fieldOf? inside stop).map fun _ _ => trivial

theorem stays_constructorFields {classLines : List Nat} {headers : List (FunctionHeader × Nat)}
    (inside : ∀ pair ∈ headers, pair.2 ≤ source.lines.length) :
    Stays 0 source.lines.length (fun _ => True) (source.constructorFields classLines headers) := by
  induction headers with
  | nil => exact trivial
  | cons pair later ih =>
    obtain ⟨header, next⟩ := pair
    have below := ih fun other member => inside other (List.mem_cons_of_mem _ member)
    have here := source.stays_fields (inside _ List.mem_cons_self)
      (source.constructorEnd classLines header later)
    rw [constructorFields]
    split
    · split
      · rename_i error isError
        rw [isError] at here
        exact ⟨Nat.zero_le _, here.2⟩
      · exact below.map fun _ _ => trivial
    · exact below

theorem stays_withFunctions {headers : List (ClassHeader × Nat)}
    (inside : ∀ pair ∈ headers, pair.2 ≤ source.lines.length) (classes : List ClassRecord) :
    Stays 0 source.lines.length (fun _ => True) (source.withFunctions headers classes) := by
  cases classes with
  | nil => exact trivial
  | cons first others =>
    cases headers with
    | nil => exact trivial
    | cons pair later =>
      obtain ⟨owner, bodyStart⟩ := pair
      have functions := (source.stays_functionHeaders (inside _ List.mem_cons_self)
        owner.bodyIndent).imp (Nat.zero_le _) le_rfl fun found within pair member =>
          (within pair member).2.2
      refine functions.bind fun found within => ?_
      exact (source.stays_constructorFields within).bind fun _ _ => trivial

end Source

end ReferencePages
