/-
**A comment behind a class variable.**

A class variable is declared on the first line below its block that is not blank. Nothing below that
line is looked at, and of a comment behind it only the value is cleared.

* `findMember_append`: the line of a member that is found is looked at last, whatever stands in its
  place;
* `assignment?_commented`: what a comment does to an assignment with a value, with an annotation alone
  and with neither;
* `findClassVariable_comment`: **a comment behind a class variable changes nothing exactly when the
  variable has a value**; without one the comment becomes part of the annotation, or the search fails.

Both happen to ordinary comments (`comment_joins_annotation`).
-/

import ReferencePages.Proofs.Declaration.Literals
import ReferencePages.Proofs.Source.Bounds

namespace ReferencePages

open Text Declaration

/-! ### What a search looks at -/

/-- A line that closes a block is the last one that is looked at. -/
theorem DocBlock.untilClosed_append {pos next : Nat} {upper lower body : List Line}
    (closes : DocBlock.untilClosed pos (upper ++ lower) = some (body, next))
    (inside : next ≤ pos + upper.length) (other : List Line) :
    DocBlock.untilClosed pos (upper ++ other) = some (body, next) := by
  induction upper generalizing pos body with
  | nil =>
    have late := lt_of_untilClosed closes
    rw [List.length_nil] at inside
    omega
  | cons line rest ih =>
    rw [List.length_cons] at inside
    rw [List.cons_append, DocBlock.untilClosed] at closes ⊢
    split at closes
    · exact closes
    · obtain ⟨⟨more, last⟩, isMore, shown⟩ := Option.map_eq_some_iff.mp closes
      cases shown
      rw [ih isMore (by omega)]
      rfl

theorem DocBlock.read_append {pos : Nat} {line : Line} {upper lower : List Line} {block : DocBlock}
    (reads : DocBlock.read pos line (upper ++ lower) = .ok block)
    (inside : block.next ≤ pos + 1 + upper.length) (other : List Line) :
    DocBlock.read pos line (upper ++ other) = .ok block := by
  unfold DocBlock.read at reads ⊢
  simp only at reads ⊢
  split at reads
  · exact reads
  · split at reads
    · rename_i body next closes
      cases reads
      rw [untilClosed_append closes inside]
    · cases reads

/-- A block that is searched for opens where the block above it was left, or later. -/
theorem le_openLine_of_findTaggedFrom {tag : Text} {stop resume pos : Nat} {ls : List Line}
    {block : DocBlock} (found : findTaggedFrom tag stop resume pos ls = .ok (some block)) :
    resume ≤ block.openLine := by
  induction ls generalizing resume pos with
  | nil => cases found
  | cons line rest ih =>
    rw [findTaggedFrom] at found
    split at found
    · cases found
    split at found
    · exact ih found
    rename_i here
    split at found
    · cases found
    rename_i first reads
    have within := DocBlock.stays_read pos line rest
    rw [reads] at within
    obtain ⟨opens, below, -⟩ := within
    simp only [Bool.or_eq_true, decide_eq_true_eq, not_or, not_lt] at here
    split at found
    · cases found
      exact here.1.trans opens
    · have later := ih found
      omega

/-- **A block that is found closes above what does not matter.** -/
theorem findTaggedFrom_append {tag : Text} {stop resume pos : Nat} {upper lower : List Line}
    {block : DocBlock} (found : findTaggedFrom tag stop resume pos (upper ++ lower) = .ok (some block))
    (inside : block.next ≤ pos + upper.length) (other : List Line) :
    findTaggedFrom tag stop resume pos (upper ++ other) = .ok (some block) := by
  induction upper generalizing resume pos with
  | nil =>
    have within := stays_findTaggedFrom tag stop resume pos lower
    rw [List.nil_append] at found
    rw [found] at within
    obtain ⟨opens, below, -⟩ := within block rfl
    rw [List.length_nil] at inside
    omega
  | cons line rest ih =>
    rw [List.length_cons] at inside
    rw [List.cons_append, findTaggedFrom] at found ⊢
    split at found
    · cases found
    rename_i early
    rw [if_neg early]
    split at found
    · rename_i skipped
      rw [if_pos skipped]
      exact ih found (by omega)
    rename_i opens
    rw [if_neg opens]
    split at found
    · cases found
    rename_i first reads
    split at found
    · rename_i isTagged
      cases found
      rw [DocBlock.read_append reads (by omega)]
      simp only
      rw [if_pos isTagged]
    · rename_i otherTag
      -- the block read first ends above the one that is found
      have above := le_openLine_of_findTaggedFrom found
      have within := stays_findTaggedFrom tag stop first.next (pos + 1) (rest ++ lower)
      rw [found] at within
      obtain ⟨-, below, -⟩ := within block rfl
      rw [DocBlock.read_append reads (by omega)]
      simp only
      rw [if_neg otherTag]
      exact ih found (by omega)

theorem firstWritten_append {pos : Nat} {upper lower : List Line} {line : Line} {found : WrittenLine}
    (isFirst : firstWritten pos (upper ++ line :: lower) = some found)
    (here : found.line = pos + upper.length) :
    found.text = line ∧ ∀ other more, allBlank other = false →
      firstWritten pos (upper ++ other :: more) = some ⟨pos + upper.length, other, more⟩ := by
  induction upper generalizing pos with
  | nil =>
    rw [List.length_nil] at here
    rw [List.nil_append, firstWritten] at isFirst
    split at isFirst
    · have late := (firstWritten_bounds isFirst).1
      omega
    · cases isFirst
      refine ⟨rfl, fun other more written => ?_⟩
      rw [List.nil_append, firstWritten, if_neg (by simp [written])]
      rfl
  | cons first rest ih =>
    rw [List.length_cons] at here
    rw [List.cons_append, firstWritten] at isFirst
    split at isFirst
    · rename_i blank
      obtain ⟨isText, others⟩ := ih isFirst (by omega)
      refine ⟨isText, fun other more written => ?_⟩
      rw [List.cons_append, firstWritten, if_pos blank, others other more written, List.length_cons,
        Nat.add_right_comm pos 1, Nat.add_assoc pos]
    · cases isFirst
      simp only at here
      omega

/-- **The line of a member that is found is looked at last.** With another line that is not blank in its
place, the search fails exactly when that line declares no member. -/
theorem findMember_append {α : Type} {kind : MemberKind} {tag : Text}
    {read? : DocBlock → Line → Option α} {stop pos : Nat} {upper below : List Line} {line : Line}
    {member : α} (found : findMember kind tag read? stop pos (upper ++ line :: below) =
      .ok (some (member, pos + upper.length + 1))) :
    ∃ block, read? block line = some member ∧ ∀ other more, allBlank other = false →
      findMember kind tag read? stop pos (upper ++ other :: more) =
        match read? block other with
        | some member => .ok (some (member, pos + upper.length + 1))
        | none => .error (.malformedMember block.openLine kind) := by
  unfold findMember findTagged at found
  split at found
  · cases found
  · cases found
  rename_i block isBlock
  simp only at found
  split at found
  case h_2 => cases found
  rename_i target isTarget
  cases found
  obtain ⟨written, isWritten, isTarget⟩ := Option.bind_eq_some_iff.mp isTarget
  split at isTarget
  case isFalse => cases isTarget
  rename_i early
  obtain ⟨member', reads, shown⟩ := Option.map_eq_some_iff.mp isTarget
  obtain ⟨rfl, isLast⟩ := Prod.mk.inj shown
  have within := stays_findTaggedFrom tag stop pos pos (upper ++ line :: below)
  rw [isBlock] at within
  obtain ⟨opens, later, -⟩ := within block rfl
  have late := (firstWritten_bounds isWritten).1
  have shorter : block.next - pos ≤ upper.length := by omega
  rw [List.drop_append_of_le_length shorter] at isWritten
  have position : written.line = block.next + (upper.drop (block.next - pos)).length := by
    rw [List.length_drop]
    omega
  obtain ⟨isText, others⟩ := firstWritten_append isWritten position
  refine ⟨block, isText ▸ reads, fun other more notBlank => ?_⟩
  have isLine : block.next + (upper.drop (block.next - pos)).length = pos + upper.length := by omega
  unfold findMember findTagged
  rw [findTaggedFrom_append isBlock (by omega)]
  simp only
  rw [List.drop_append_of_le_length shorter, others other more notBlank, isLine]
  simp only [Option.bind_eq_bind, Option.bind_some]
  rw [if_pos (by omega)]
  cases read? block other <;> rfl

/-! ### Comments -/

theorem Text.dropPads_append (first second : Text) :
    dropPads (first ++ second) =
      if dropPads first = [] then dropPads second else dropPads first ++ second := by
  rw [dropPads, List.dropWhile_append]
  simp [dropPads]

namespace Declaration

/-- The text with a comment behind it. -/
def commented (comment : Text) (t : Text) : Text := t ++ "  # ".toList ++ comment

/-- The first equals sign of the text is its last character. -/
def EndsAtEquals (t : Text) : Prop := ∃ before, t = before ++ ['='] ∧ '=' ∉ before

/-- A text without comment marks and quotes. -/
def Plain (t : Text) : Prop := ∀ c ∈ t, c ≠ '#' ∧ isQuote c = false

instance (t : Text) : Decidable (Plain t) := List.decidableBAll _ t

variable {t : Text}

theorem Plain.of_cons {c : Char} (plain : Plain (c :: t)) : Plain t := (List.forall_mem_cons.mp plain).2

theorem Plain.dropWhile (plain : Plain t) (p : Char → Bool) : Plain (t.dropWhile p) := fun c member =>
  plain c ((List.dropWhile_sublist p).subset member)

/-- Nothing of a plain text is a comment. -/
theorem stripComment_append (plain : Plain t) (more : Text) :
    stripComment (t ++ more) = t ++ stripComment more := by
  unfold stripComment splitComment
  induction t with
  | nil => rfl
  | cons c rest ih =>
    obtain ⟨⟨notMark, notQuote⟩, later⟩ := List.forall_mem_cons.mp plain
    rw [List.cons_append, fst_splitCommentFrom_cons, plainStep, if_neg (by simp [notMark]),
      if_neg (by simp [notQuote]), ih later]
    rfl

theorem commented_eq (comment t : Text) :
    commented comment t = t ++ ' ' :: ' ' :: '#' :: ' ' :: comment := by
  rw [commented, List.append_assoc]
  rfl

/-- **A value is cleared of its comment.** -/
theorem assignedValue?_commented (plain : Plain t) {value : Text} (reads : assignedValue? t = some value)
    (comment : Text) : assignedValue? (commented comment t) = some value := by
  have alone : stripComment t = t := by
    have whole := stripComment_append plain []
    rw [List.append_nil] at whole
    exact whole.trans (List.append_nil t)
  have cleared : stripComment (commented comment t) = t ++ [' ', ' '] := by
    rw [commented_eq, stripComment_append plain]
    rfl
  unfold assignedValue? at reads ⊢
  split at reads
  · cases reads
  · rw [cleared, trim_append_blank t (by decide), if_neg (by simp [commented])]
    rwa [alone] at reads

/-- A text that is cut nowhere else is cut in the comment behind it. -/
theorem cutAt?_commented (missing : '=' ∉ t) (comment : Text) :
    cutAt? '=' (commented comment t) =
      (cutAt? '=' comment).map fun cut => (commented cut.1 t, cut.2) := by
  have missing' : '=' ∉ t ++ "  # ".toList := by simp [missing]
  exact cutAt?_append missing' comment

theorem mem_trim_commented (comment t : Text) : '#' ∈ trim (commented comment t) := by
  obtain ⟨lead, tail, leadBlank, tailBlank, split⟩ := exists_blanks_trim (commented comment t)
  have member : '#' ∈ commented comment t := by simp [commented]
  have outside : ∀ blanks : Text, allBlank blanks = true → '#' ∉ blanks := fun blanks blank inside =>
    absurd (List.all_eq_true.mp blank '#' inside) (by decide)
  rw [split, List.mem_append, List.mem_append] at member
  exact (member.resolve_left (outside lead leadBlank)).resolve_right (outside tail tailBlank)

/-- An annotation that is cut at an equals sign has a value. -/
theorem annotation?_of_cut {rest declared after : Text}
    (cut : cutAt? '=' rest = some (declared, after)) :
    annotation? (':' :: rest) =
      if declared.isEmpty then none
      else (assignedValue? after).map fun value => (some (trim declared), some value) := by
  rw [annotation?, cut]

theorem annotation?_of_no_cut {rest : Text} (cut : cutAt? '=' rest = none) :
    annotation? (':' :: rest) = if rest.isEmpty then none else some (some (trim rest), none) := by
  rw [annotation?, cut]

/-- **The four forms behind a name**: neither annotation nor value, a value, an annotation, both. -/
theorem annotation?_cases {declaredType value : Option Text}
    (reads : annotation? t = some (declaredType, value)) :
    (t = [] ∧ declaredType = none ∧ value = none) ∨
      (∃ rest assigned, t = '=' :: rest ∧ assignedValue? rest = some assigned ∧
        declaredType = none ∧ value = some assigned) ∨
      (∃ rest, t = ':' :: rest ∧ '=' ∉ rest ∧ declaredType = some (trim rest) ∧ value = none) ∨
      ∃ declared rest assigned, t = ':' :: (declared ++ '=' :: rest) ∧ '=' ∉ declared ∧
        declared ≠ [] ∧ assignedValue? rest = some assigned ∧
        declaredType = some (trim declared) ∧ value = some assigned := by
  unfold annotation? at reads
  split at reads
  · cases reads
    exact Or.inl ⟨rfl, rfl, rfl⟩
  · rename_i rest
    obtain ⟨assigned, isValue, shown⟩ := Option.map_eq_some_iff.mp reads
    cases shown
    exact Or.inr (Or.inl ⟨rest, assigned, rfl, isValue, rfl, rfl⟩)
  · rename_i rest
    split at reads
    · rename_i cut
      split at reads
      · cases reads
      · cases reads
        exact Or.inr (Or.inr (Or.inl ⟨rest, rfl, cutAt?_eq_none_iff.mp cut, rfl, rfl⟩))
    · rename_i declared after cut
      split at reads
      · cases reads
      · rename_i written
        obtain ⟨assigned, isValue, shown⟩ := Option.map_eq_some_iff.mp reads
        cases shown
        obtain ⟨rfl, missing⟩ := cutAt?_eq_some_iff.mp cut
        exact Or.inr (Or.inr (Or.inr ⟨declared, after, assigned, rfl, missing, by simpa using written,
          isValue, rfl, rfl⟩))
  · cases reads

/-- **An annotation with a value** is read as it is without the comment. -/
theorem annotation?_of_value (plain : Plain t) {declaredType : Option Text} {value : Text}
    (reads : annotation? t = some (declaredType, some value)) (comment : Text) :
    annotation? (commented comment t) = some (declaredType, some value) := by
  rcases annotation?_cases reads with ⟨-, -, bare⟩ | ⟨rest, assigned, rfl, isValue, rfl, same⟩ |
    ⟨rest, -, -, -, typed⟩ | ⟨declared, rest, assigned, rfl, missing, written, isValue, rfl, same⟩
  · cases bare
  · cases same
    show (assignedValue? (commented comment rest)).map _ = _
    rw [assignedValue?_commented plain.of_cons isValue]
    rfl
  · cases typed
  · cases same
    have later : Plain rest := fun c member => plain c (by simp [member])
    have cut : cutAt? '=' (commented comment (declared ++ '=' :: rest)) =
        some (declared, commented comment rest) :=
      cutAt?_eq_some_iff.mpr ⟨by simp [commented], missing⟩
    refine (annotation?_of_cut cut).trans ?_
    rw [if_neg (by simpa using written), assignedValue?_commented later isValue]
    rfl

/-- **An annotation without a value** takes in the comment, up to its first equals sign; what follows
that is the value, and has to be there. -/
theorem annotation?_of_type (plain : Plain t) {declaredType : Text}
    (reads : annotation? t = some (some declaredType, none)) (comment : Text) :
    (EndsAtEquals comment → annotation? (commented comment t) = none) ∧
      (¬ EndsAtEquals comment → ∃ longer value,
        annotation? (commented comment t) = some (some longer, value) ∧ '#' ∈ longer ∧
          declaredType ≠ longer) := by
  rcases annotation?_cases reads with ⟨-, bare, -⟩ | ⟨rest, assigned, rfl, -, valued, -⟩ |
    ⟨rest, rfl, missing, same, -⟩ | ⟨declared, rest, assigned, rfl, -, -, -, -, valued⟩
  · cases bare
  · cases valued
  · obtain rfl := Option.some.inj same
    have written : ∀ more, ¬ (commented more rest).isEmpty = true := by simp [commented]
    have changes : ∀ more, trim rest ≠ trim (commented more rest) := fun more alike =>
      (plain '#' (List.mem_cons_of_mem _ (mem_of_mem_trim
        (alike ▸ mem_trim_commented more rest)))).1 rfl
    have cut := cutAt?_commented missing comment
    cases isCut : cutAt? '=' comment with
    | none =>
      rw [isCut, Option.map_none] at cut
      have isLonger : annotation? (commented comment (':' :: rest)) =
          some (some (trim (commented comment rest)), none) :=
        (annotation?_of_no_cut cut).trans (if_neg (written comment))
      refine ⟨?_, fun _ => ⟨_, _, isLonger, mem_trim_commented comment rest, changes comment⟩⟩
      rintro ⟨before, rfl, -⟩
      exact absurd (by simp) (cutAt?_eq_none_iff.mp isCut)
    | some pair =>
      obtain ⟨before, after⟩ := pair
      rw [isCut, Option.map_some] at cut
      have isLonger : annotation? (commented comment (':' :: rest)) =
          (assignedValue? after).map fun value =>
            (some (trim (commented before rest)), some value) :=
        (annotation?_of_cut cut).trans (if_neg (written before))
      obtain ⟨whole, missing'⟩ := cutAt?_eq_some_iff.mp isCut
      rw [isLonger]
      refine ⟨?_, fun goesOn => ?_⟩
      · rintro ⟨before', whole', none⟩
        have isCut' := cutAt?_eq_some_iff.mpr ⟨whole', none⟩
        rw [isCut] at isCut'
        cases isCut'
        rfl
      · cases after with
        | nil => exact absurd ⟨before, whole, missing'⟩ goesOn
        | cons c more => exact ⟨_, _, rfl, mem_trim_commented before rest, changes before⟩
  · cases valued

theorem takeWhile_append_stop {p : Char → Bool} {c : Char} (stops : p c = false) (t rest : Text) :
    (t ++ c :: rest).takeWhile p = t.takeWhile p ∧
      (t ++ c :: rest).dropWhile p = t.dropWhile p ++ c :: rest := by
  induction t with
  | nil => simp [stops]
  | cons d more ih =>
    rw [List.cons_append, List.takeWhile_cons, List.dropWhile_cons, List.takeWhile_cons,
      List.dropWhile_cons]
    split
    · exact ⟨congrArg (d :: ·) ih.1, ih.2⟩
    · exact ⟨rfl, rfl⟩

/-- An identifier ends before a comment. -/
theorem identifier?_commented (comment t : Text) :
    identifier? (commented comment t) =
      (identifier? t).map fun found => (found.1, commented comment found.2) := by
  cases t with
  | nil => rfl
  | cons c rest =>
    obtain ⟨takes, drops⟩ := takeWhile_append_stop (p := isNameRest) (c := ' ') (by decide) rest
      (' ' :: '#' :: ' ' :: comment)
    rw [commented_eq, List.cons_append, identifier?, name?, identifier?, name?, takes, drops]
    split
    · rw [Option.map_some, commented_eq]
    · rfl

theorem plain_of_identifier? (plain : Plain t) {name rest : Text}
    (named : identifier? t = some (name, rest)) : Plain rest := by
  cases t with
  | nil => cases named
  | cons c more =>
    rw [identifier?, name?] at named
    split at named
    · cases named
      exact plain.of_cons.dropWhile isNameRest
    · cases named

theorem dropPads_commented (comment t : Text) :
    dropPads (commented comment t) =
      if dropPads t = [] then '#' :: ' ' :: comment else commented comment (dropPads t) := by
  rw [commented_eq, dropPads_append, commented_eq]
  rfl

/-- **What a comment does to an assignment.** One with a value is read as before. One with an
annotation alone takes the comment in, one with neither is no assignment any more. -/
theorem assignment?_commented (plain : Plain t) {assigned : Assignment}
    (reads : assignment? t = some assigned) (comment : Text) :
    (assigned.value.isSome = true → assignment? (commented comment t) = some assigned) ∧
      (assigned.value = none → assigned.declaredType = none ∨ EndsAtEquals comment →
        assignment? (commented comment t) = none) ∧
      (assigned.value = none → assigned.declaredType.isSome = true → ¬ EndsAtEquals comment →
        ∃ longer value, assignment? (commented comment t) = some ⟨assigned.name, some longer, value⟩ ∧
          '#' ∈ longer ∧ assigned.declaredType ≠ some longer) := by
  obtain ⟨⟨name, rest⟩, named, reads⟩ := Option.bind_eq_some_iff.mp reads
  obtain ⟨⟨declaredType, value⟩, annotated, shown⟩ := Option.bind_eq_some_iff.mp reads
  cases shown
  have isAssignment : assignment? (commented comment t) =
      (annotation? (dropPads (commented comment rest))).map fun found =>
        ⟨name, found.1, found.2⟩ := by
    unfold assignment?
    rw [identifier?_commented, named]
    simp only [Option.map_some, Option.bind_eq_bind, Option.bind_some]
    cases annotation? (dropPads (commented comment rest)) <;> rfl
  rw [isAssignment, dropPads_commented]
  have plainRest : Plain (dropPads rest) := (plain_of_identifier? plain named).dropWhile isPad
  by_cases bare : dropPads rest = []
  · rw [bare] at annotated
    cases annotated
    rw [if_pos bare]
    exact ⟨by simp, fun _ _ => rfl, by simp⟩
  rw [if_neg bare]
  cases value with
  | some value =>
    rw [annotation?_of_value plainRest annotated]
    exact ⟨fun _ => rfl, by simp, by simp⟩
  | none =>
    cases declaredType with
    | none =>
      rcases annotation?_cases annotated with ⟨empty, -⟩ | ⟨_, _, -, -, -, valued⟩ |
        ⟨_, -, -, typed, -⟩ | ⟨_, _, _, -, -, -, -, typed, -⟩
      · exact absurd empty bare
      · cases valued
      · cases typed
      · cases typed
    | some declaredType =>
      obtain ⟨ends, goesOn⟩ := annotation?_of_type plainRest annotated comment
      refine ⟨by simp, fun _ cases' => ?_, fun _ _ goes => ?_⟩
      · rw [ends (cases'.resolve_left (by simp))]
        rfl
      · obtain ⟨longer, value, reads, member, changes⟩ := goesOn goes
        rw [reads]
        exact ⟨longer, value, rfl, member, fun same => changes (Option.some.inj same)⟩

end Declaration

/-! ### Class variables -/

/-- The source with a comment behind line `i`. -/
def Source.commentAt (source : Source) (i : Nat) (comment : Text) : Source :=
  { source with lines := source.lines.modify i (commented comment) }

theorem classVariableOf?_commented {block : DocBlock} {line : Line} {declared : ClassVariable}
    (plain : Plain line) (reads : classVariableOf? block line = some declared) (comment : Text) :
    (declared.value.isSome = true → classVariableOf? block (commented comment line) = some declared) ∧
      (declared.value = none → declared.declaredType = none ∨ EndsAtEquals comment →
        classVariableOf? block (commented comment line) = none) ∧
      (declared.value = none → declared.declaredType.isSome = true → ¬ EndsAtEquals comment →
        ∃ longer value, classVariableOf? block (commented comment line) =
            some { declared with declaredType := some longer, value := value } ∧
          '#' ∈ longer ∧ declared.declaredType ≠ some longer) := by
  obtain ⟨assigned, isAssigned, rfl⟩ := Option.map_eq_some_iff.mp reads
  have written : dropPads line ≠ [] := by
    intro nothing
    rw [nothing] at isAssigned
    cases isAssigned
  have plainText : Plain (dropPads line) := plain.dropWhile isPad
  obtain ⟨valued, failed, typed⟩ := assignment?_commented plainText isAssigned comment
  unfold classVariableOf?
  rw [dropPads_commented, if_neg written]
  refine ⟨fun isValue => ?_, fun noValue other => ?_, fun noValue isType goesOn => ?_⟩
  · rw [valued isValue]
    rfl
  · rw [failed noValue other]
    rfl
  · obtain ⟨longer, value, isAssignment, rest⟩ := typed noValue isType goesOn
    rw [isAssignment]
    exact ⟨longer, value, rfl, rest⟩

/-- The line below a block is the only one that changes what is found there. -/
theorem Source.findClassVariable_commentAt {source : Source} {i : Nat} {line : Line}
    (isLine : source.lines[i]? = some line) {start stop : Nat} {declared : ClassVariable}
    (found : source.findClassVariable start stop = .ok (some (declared, i + 1))) (comment : Text) :
    ∃ block, classVariableOf? block line = some declared ∧
      (source.commentAt i comment).findClassVariable start stop =
        match classVariableOf? block (commented comment line) with
        | some declared => .ok (some (declared, i + 1))
        | none => .error (.malformedMember block.openLine .classVariable) := by
  obtain ⟨inside, rfl⟩ := List.getElem?_eq_some_iff.mp isLine
  unfold Source.findClassVariable ReferencePages.findClassVariable Source.linesFrom at *
  have late : start < i + 1 := by
    have stays := staysIn_findMember .classVariable classVariableTag classVariableOf? stop start
      (start + (source.lines.drop start).length) start (source.lines.drop start) le_rfl rfl
    rw [found] at stays
    exact (stays _ rfl).1
  have early : start ≤ (source.lines.take i).length := by
    rw [List.length_take]
    omega
  have position : start + ((source.lines.take i).drop start).length = i := by
    rw [List.length_drop, List.length_take]
    omega
  have isLines : source.lines.drop start =
      (source.lines.take i).drop start ++ source.lines[i] :: source.lines.drop (i + 1) := by
    rw [← List.drop_append_of_le_length early, List.getElem_cons_drop, List.take_append_drop]
  have isLines' : (source.commentAt i comment).lines.drop start =
      (source.lines.take i).drop start ++
        commented comment source.lines[i] :: source.lines.drop (i + 1) := by
    rw [← List.drop_append_of_le_length early, Source.commentAt,
      List.modify_eq_take_cons_drop inside]
  have written : allBlank (commented comment source.lines[i]) = false := by
    simp [allBlank, commented, isBlank]
  rw [isLines] at found
  obtain ⟨block, reads, others⟩ := findMember_append (by rw [position]; exact found)
  refine ⟨block, reads, ?_⟩
  rw [isLines', others _ _ written, position]
  cases classVariableOf? block (commented comment source.lines[i]) <;> rfl

/-- **A comment behind a class variable changes nothing exactly when the variable has a value.** The
line holds no comment mark and no quote before. Without a value and an annotation the search fails; with
an annotation alone it does when the first equals sign of the comment is its last character, and
otherwise the comment becomes part of the annotation. -/
theorem Source.findClassVariable_comment {source : Source} {i : Nat} {line : Line}
    (isLine : source.lines[i]? = some line) (plain : Plain line) {start stop : Nat}
    {declared : ClassVariable}
    (found : source.findClassVariable start stop = .ok (some (declared, i + 1))) (comment : Text) :
    ((source.commentAt i comment).findClassVariable start stop = .ok (some (declared, i + 1)) ↔
        declared.value.isSome = true) ∧
      (declared.value = none → declared.declaredType = none ∨ EndsAtEquals comment →
        ∃ opened, (source.commentAt i comment).findClassVariable start stop =
          .error (.malformedMember opened .classVariable)) ∧
      (declared.value = none → declared.declaredType.isSome = true → ¬ EndsAtEquals comment →
        ∃ longer value, (source.commentAt i comment).findClassVariable start stop =
            .ok (some ({ declared with declaredType := some longer, value := value }, i + 1)) ∧
          '#' ∈ longer) := by
  obtain ⟨block, reads, isFound⟩ := source.findClassVariable_commentAt isLine found comment
  obtain ⟨valued, failed, typed⟩ := classVariableOf?_commented plain reads comment
  rw [isFound]
  refine ⟨⟨fun same => ?_, fun isValue => ?_⟩, fun noValue other => ?_, fun noValue isType goesOn => ?_⟩
  · by_contra noValue
    have isNone : declared.value = none := by simpa using noValue
    by_cases other : declared.declaredType = none ∨ EndsAtEquals comment
    · rw [failed isNone other] at same
      cases same
    · obtain ⟨typeMissing, goesOn⟩ := not_or.mp other
      obtain ⟨longer, value, isLonger, -, changes⟩ :=
        typed isNone (Option.isSome_iff_ne_none.mpr typeMissing) goesOn
      rw [isLonger] at same
      injection same with same
      injection same with same
      injection same with same
      exact changes (congrArg ClassVariable.declaredType same).symm
  · rw [valued isValue]
  · rw [failed noValue other]
    exact ⟨block.openLine, rfl⟩
  · obtain ⟨longer, value, isLonger, member, -⟩ := typed noValue isType goesOn
    rw [isLonger]
    exact ⟨longer, value, rfl, member⟩

/-- A class variable declared as `declaration` on line 2. -/
def limitSource (declaration : Line) : Source where
  name := "a.py".toList
  lines := ["    \"\"\":class_var Limit.\"\"\"".toList, [], declaration, "    other = 1".toList]

def limitVariable (declaredType value : Option Text) : ClassVariable where
  name := "limit".toList
  declaredType := declaredType
  value := value
  description := "Limit.".toList

theorem Source.findClassVariable_comment_sample :
    (limitSource "    limit : int = f(1)".toList).findClassVariable 0 4 =
        .ok (some (limitVariable (some "int".toList) (some "f(1)".toList), 3)) ∧
      ((limitSource "    limit : int = f(1)".toList).commentAt 2
          "a: b = \"c\" # d".toList).findClassVariable 0 4 =
        .ok (some (limitVariable (some "int".toList) (some "f(1)".toList), 3)) ∧
      (limitSource "    limit:int".toList).findClassVariable 0 4 =
        .ok (some (limitVariable (some "int".toList) none, 3)) ∧
      ∃ longer value,
        ((limitSource "    limit:int".toList).commentAt 2 "hard cap".toList).findClassVariable 0 4 =
          .ok (some (limitVariable (some longer) value, 3)) ∧
        '#' ∈ longer := by
  have valued : (limitSource "    limit : int = f(1)".toList).findClassVariable 0 4 =
      .ok (some (limitVariable (some "int".toList) (some "f(1)".toList), 3)) := by decide +kernel
  have typed : (limitSource "    limit:int".toList).findClassVariable 0 4 =
      .ok (some (limitVariable (some "int".toList) none, 3)) := by decide +kernel
  have goesOn : ¬ EndsAtEquals "hard cap".toList := by
    rintro ⟨before, whole, -⟩
    have member : '=' ∈ "hard cap".toList := whole ▸ List.mem_append_right _ List.mem_cons_self
    exact absurd member (by decide)
  have plainValued : Plain "    limit : int = f(1)".toList := by decide
  have plainTyped : Plain "    limit:int".toList := by decide
  refine ⟨valued, ?_, typed, ?_⟩
  · exact (Source.findClassVariable_comment rfl plainValued valued _).1.mpr rfl
  · exact (Source.findClassVariable_comment rfl plainTyped typed _).2.2 rfl rfl goesOn

/-- A comment behind an annotation becomes part of it, and is cut in two at an equals sign; one behind a
bare name is refused. -/
theorem comment_joins_annotation :
    (limitSource "    limit: int".toList).findClassVariable 0 4 =
        .ok (some (limitVariable (some "int".toList) none, 3)) ∧
      ((limitSource "    limit: int".toList).commentAt 2 "hard cap".toList).findClassVariable 0 4 =
        .ok (some (limitVariable (some "int  # hard cap".toList) none, 3)) ∧
      ((limitSource "    limit: int".toList).commentAt 2 "cap = 10".toList).findClassVariable 0 4 =
        .ok (some (limitVariable (some "int  # cap".toList) (some "10".toList), 3)) ∧
      (limitSource "    limit".toList).findClassVariable 0 4 =
        .ok (some (limitVariable none none, 3)) ∧
      ((limitSource "    limit".toList).commentAt 2 "hard cap".toList).findClassVariable 0 4 =
        .error (.malformedMember 0 .classVariable) := by
  decide +kernel

end ReferencePages
