/-
**The members of an enumeration are read as they are written.**

A member is written as a name, an equals sign and a value, with its description as a comment behind. The
value may hold comment marks in string literals, and the description any marks at all. Blank lines and
lines of another indentation may stand between the members, and a function or a decorator ends them.

* `EnumValue.Writable`: what can be written as a member;
* `enumMember?_line`: the line of a member is read as the member, and as nothing else
  (`read?_line`, `decorator?_line`);
* `EndsMembers.isEnd`: a declaration or a decorator ends the members;
* `enumMembers_append`: lines that hold members are read as these, and then the lines below them;
* `enumValues_written`: **the members that are written in a range are read from it**, also when a function
  or a decorator and any other lines follow.
-/

import ReferencePages.Proofs.Declaration.Comments
import ReferencePages.Proofs.Text.Pads
import ReferencePages.Source.Member

namespace ReferencePages

open Text Declaration

/-! ### Members on their lines -/

namespace EnumValue

/-- What can be written as a member: an identifier, a value with paired quotes, and a description, both
without outer blanks. -/
structure Writable (m : EnumValue) : Prop where
  identifier : IsIdentifier m.name
  value_trimmed : trim m.value = m.value
  value_paired : Paired m.value
  description_trimmed : trim m.description = m.description

/-- The description as a comment; without a description there is no comment. -/
def comment (m : EnumValue) : Text :=
  if m.description = [] then [] else "  # ".toList ++ m.description

/-- What stands behind the name of a member. -/
def assigned (m : EnumValue) : Text := '=' :: ' ' :: (m.value ++ m.comment)

/-- The line of a member behind `indent` spaces. -/
def line (indent : Nat) (m : EnumValue) : Line :=
  List.replicate indent ' ' ++ (m.name ++ ([' '] ++ m.assigned))

end EnumValue

theorem isPad_of_mem_replicate {indent : Nat} : ∀ c ∈ List.replicate indent ' ', isPad c = true := by
  intro c member
  rw [List.eq_of_mem_replicate member]
  rfl

/-- Spaces in front of a character that is not blank are the whole indentation. -/
theorem indentation_replicate (indent : Nat) {c : Char} (written : isBlank c = false) (rest : Text) :
    indentation (List.replicate indent ' ' ++ c :: rest) = indent := by
  have blanks : ∀ d ∈ List.replicate indent ' ', isBlank d = true :=
    fun d member => isBlank_of_isPad (isPad_of_mem_replicate d member)
  unfold indentation
  rw [List.takeWhile_append_of_pos blanks, List.takeWhile_cons_of_neg (by simp [written]),
    List.append_nil]
  induction indent with
  | zero => rfl
  | succ n ih =>
    rw [List.replicate_succ, List.foldr_cons,
      ih fun d member => blanks d (List.mem_cons_of_mem _ member)]
    exact Nat.add_comm 1 n

namespace EnumValue

variable {m : EnumValue} {indent : Nat}

theorem dropPads_line (writable : m.Writable) :
    dropPads (m.line indent) = m.name ++ ([' '] ++ m.assigned) := by
  rw [line, dropPads_append_of_isPad isPad_of_mem_replicate, writable.identifier.isName.dropPads_append]

theorem indentation_line (writable : m.Writable) : indentation (m.line indent) = indent := by
  obtain ⟨first, rest, isName, -, -⟩ := writable.identifier
  have letter := writable.identifier.isName.letters first (isName ▸ List.mem_cons_self)
  rw [line, isName]
  exact indentation_replicate indent (isBlank_of_isNameRest letter) _

theorem not_allBlank_line (writable : m.Writable) : allBlank (m.line indent) = false := by
  obtain ⟨first, rest, isName, -, -⟩ := writable.identifier
  have letter := writable.identifier.isName.letters first (isName ▸ List.mem_cons_self)
  refine List.all_eq_false.mpr ⟨first, ?_, by simp [isBlank_of_isNameRest letter]⟩
  rw [line, isName]
  exact List.mem_append_right _ List.mem_cons_self

/-- The comment behind a value is the description; the spaces before it count for neither of them. -/
theorem splitComment_comment (writable : m.Writable) {t : Text}
    (isComment : t = m.comment ∨ t = dropPads m.comment) :
    allBlank (splitComment t).1 = true ∧ trim ((splitComment t).2.getD []) = m.description := by
  have described : trim (" ".toList ++ m.description) = m.description :=
    (trim_append_blanks (by decide) _).trans writable.description_trimmed
  unfold comment at isComment
  split at isComment
  · rename_i empty
    obtain rfl : t = [] := isComment.elim id id
    exact ⟨rfl, empty.symm⟩
  · rcases isComment with rfl | rfl
    · exact ⟨rfl, described⟩
    · exact ⟨rfl, described⟩

/-- What stands behind the equals sign is split into the value and the description. -/
theorem splitComment_assigned (writable : m.Writable) :
    trim (splitComment (dropPads (m.value ++ m.comment))).1 = m.value ∧
      trim ((splitComment (dropPads (m.value ++ m.comment))).2.getD []) = m.description := by
  have trimmed := writable.value_trimmed
  cases isValue : m.value with
  | nil =>
    obtain ⟨blank, description⟩ := splitComment_comment writable (Or.inr rfl)
    exact ⟨trim_append_blank [] blank, description⟩
  | cons c rest =>
    rw [isValue] at trimmed
    have written := not_blank_of_trimStart (trim_eq_self_iff.mp trimmed).1
    obtain ⟨blank, description⟩ := splitComment_comment writable (Or.inl rfl)
    rw [List.cons_append, dropPads_cons_of_not_isPad (isPad_eq_false_of_isBlank written), ← List.cons_append,
      ← isValue, writable.value_paired.splitComment_append]
    exact ⟨(trim_append_blank _ blank).trans writable.value_trimmed, description⟩

/-- **The line of a member is read as the member.** -/
theorem enumMember?_line (writable : m.Writable) : enumMember? (m.line indent) = some m := by
  obtain ⟨value, description⟩ := splitComment_assigned writable
  have isRead : identifier? (m.name ++ ([' '] ++ m.assigned)) = some (m.name, [' '] ++ m.assigned) :=
    writable.identifier.identifier?_append fun c member => by cases member; rfl
  have afterName : dropPads ([' '] ++ m.assigned) = '=' :: ' ' :: (m.value ++ m.comment) := rfl
  have afterMark : dropPads (' ' :: (m.value ++ m.comment)) = dropPads (m.value ++ m.comment) := rfl
  unfold enumMember?
  rw [dropPads_line writable, isRead, Option.bind_eq_bind, Option.bind_some]
  simp only [afterName, afterMark, value, description]

/-- The line of a member declares no function, whatever the name of the member. -/
theorem read?_line (writable : m.Writable) : FunctionLine.read? (m.line indent) = none := by
  have isName := writable.identifier.isName
  have asyncName : IsIdentifier "async".toList := by decide
  have defName : IsIdentifier "def".toList := by decide
  have noName : identifier? (dropPads m.assigned) = none := rfl
  have notDef : afterWord? "def" (dropPads m.assigned) = none := rfl
  unfold FunctionLine.read?
  simp only [dropPads_line writable]
  by_cases isAsync : m.name = "async".toList
  · rw [isAsync, afterWord?_append isGap_space, Option.getD_some, notDef]
    rfl
  · rw [afterWord?_eq_none asyncName.isName isName isAsync isGap_space, Option.getD_none]
    by_cases isDef : m.name = "def".toList
    · rw [isDef, afterWord?_append isGap_space, Option.bind_eq_bind, Option.bind_some, noName]
      rfl
    · rw [afterWord?_eq_none defName.isName isName isDef isGap_space]
      rfl

theorem decorator?_line (writable : m.Writable) : decorator? (m.line indent) = none := by
  obtain ⟨first, rest, isName, -, -⟩ := writable.identifier
  have letter := writable.identifier.isName.letters first (isName ▸ List.mem_cons_self)
  unfold decorator?
  rw [dropPads_line writable, isName]
  have noMark : '@' ≠ first := by
    rintro rfl
    exact absurd letter (by decide)
  simp [after?, List.isPrefixOf?, noMark]

end EnumValue

/-! ### Lines that end the members -/

/-- The line declares a function, `def name(` or `async def name(`, or opens with a decorator,
`@name`. -/
inductive EndsMembers : Line → Prop
  | function {lead gap name space rest : Text} (isLead : ∀ c ∈ lead, isPad c = true) (isGap : IsGap gap)
      (isIdentifier : IsIdentifier name) (isSpace : ∀ c ∈ space, isPad c = true) :
      EndsMembers (lead ++ ("def".toList ++ (gap ++ (name ++ (space ++ '(' :: rest)))))
  | asyncFunction {lead between gap name space rest : Text} (isLead : ∀ c ∈ lead, isPad c = true)
      (isBetween : IsGap between) (isGap : IsGap gap) (isIdentifier : IsIdentifier name)
      (isSpace : ∀ c ∈ space, isPad c = true) :
      EndsMembers (lead ++ ("async".toList ++
        (between ++ ("def".toList ++ (gap ++ (name ++ (space ++ '(' :: rest)))))))
  | decorator {lead rest : Text} {first : Char} (isLead : ∀ c ∈ lead, isPad c = true)
      (isName : isNameStart first = true) : EndsMembers (lead ++ '@' :: first :: rest)

/-- The word `def`, a name and a parenthesis make a function, also behind the word `async`. -/
theorem isSome_read?_of_def {line gap name space : Text} (isGap : IsGap gap)
    (isIdentifier : IsIdentifier name) (isSpace : ∀ c ∈ space, isPad c = true) (rest : Text)
    (isDeclared : (afterWord? "async" (dropPads line)).getD (dropPads line) =
      "def".toList ++ (gap ++ (name ++ (space ++ '(' :: rest)))) :
    (FunctionLine.read? line).isSome = true := by
  have isDef : afterWord? "def" ("def".toList ++ (gap ++ (name ++ (space ++ '(' :: rest)))) =
      some (name ++ (space ++ '(' :: rest)) := by
    rw [afterWord?_append isGap, isIdentifier.isName.dropPads_append]
  have isRead : identifier? (name ++ (space ++ '(' :: rest)) = some (name, space ++ '(' :: rest) :=
    isIdentifier.identifier?_append (stops_append isSpace fun c member => by cases member; rfl)
  have opens : dropPads (space ++ '(' :: rest) = '(' :: rest := by
    rw [dropPads_append_of_isPad isSpace]
    rfl
  unfold FunctionLine.read?
  simp only [isDeclared, isDef, isRead, opens, Option.bind_eq_bind, Option.bind_some,
    Option.isSome_some]

/-- **A line that ends the members is read as a function or as a decorator.** -/
theorem EndsMembers.isEnd {line : Line} (ends : EndsMembers line) :
    ((FunctionLine.read? line).isSome || (decorator? line).isSome) = true := by
  rw [Bool.or_eq_true]
  cases ends with
  | @function lead gap name space rest isLead isGap isIdentifier isSpace =>
    left
    refine isSome_read?_of_def isGap isIdentifier isSpace rest ?_
    have notAsync (t : Text) : afterWord? "async" ("def".toList ++ t) = none := rfl
    have atDef (t : Text) : dropPads (lead ++ ("def".toList ++ t)) = "def".toList ++ t :=
      dropPads_append_of_isPad isLead _
    rw [atDef, notAsync, Option.getD_none]
  | @asyncFunction lead between gap name space rest isLead isBetween isGap isIdentifier isSpace =>
    left
    refine isSome_read?_of_def isGap isIdentifier isSpace rest ?_
    have atAsync (t : Text) : dropPads (lead ++ ("async".toList ++ t)) = "async".toList ++ t :=
      dropPads_append_of_isPad isLead _
    have atDef (t : Text) : dropPads ("def".toList ++ t) = "def".toList ++ t := rfl
    rw [atAsync, afterWord?_append isBetween, Option.getD_some, atDef]
  | @decorator lead rest first isLead isName =>
    right
    have atMark : dropPads (lead ++ '@' :: first :: rest) = '@' :: first :: rest :=
      dropPads_append_of_isPad isLead _
    unfold decorator?
    rw [atMark]
    simp [after?, List.isPrefixOf?, name?, isName]

theorem EndsMembers.not_allBlank {line : Line} (ends : EndsMembers line) : allBlank line = false := by
  have written : ∃ c ∈ line, isBlank c = false := by
    cases ends with
    | function => exact ⟨'(', by simp, by decide⟩
    | asyncFunction => exact ⟨'(', by simp, by decide⟩
    | decorator => exact ⟨'@', by simp, by decide⟩
  obtain ⟨c, member, notBlank⟩ := written
  exact List.all_eq_false.mpr ⟨c, member, by simp [notBlank]⟩

/-! ### Ranges of members -/

/-- The lines hold the members, in order, behind `indent` spaces; blank lines and lines of another
indentation may stand above, between and below. -/
inductive HoldsMembers (indent : Nat) : List EnumValue → List Line → Prop
  | nil : HoldsMembers indent [] []
  | member {m : EnumValue} {members : List EnumValue} {lines : List Line} (writable : m.Writable)
      (later : HoldsMembers indent members lines) :
      HoldsMembers indent (m :: members) (m.line indent :: lines)
  | passed {line : Line} {members : List EnumValue} {lines : List Line}
      (aside : allBlank line = true ∨ indentation line ≠ indent)
      (later : HoldsMembers indent members lines) : HoldsMembers indent members (line :: lines)

/-- **Lines that hold members are read as these members**, whatever stands below. -/
theorem enumMembers_append {indent : Nat} {members : List EnumValue} {block : List Line}
    (holds : HoldsMembers indent members block) (below : List Line) :
    enumMembers indent (block ++ below) = members ++ enumMembers indent below := by
  induction holds with
  | nil => rfl
  | @member m members lines writable _ ih =>
    have passes : ¬ (allBlank (m.line indent) || indentation (m.line indent) != indent) = true := by
      simp [EnumValue.not_allBlank_line writable, EnumValue.indentation_line writable]
    rw [List.cons_append, enumMembers, if_neg passes, EnumValue.read?_line writable,
      EnumValue.decorator?_line writable, if_neg (by decide), EnumValue.enumMember?_line writable, ih]
    rfl
  | @passed line members lines aside _ ih =>
    have isAside : (allBlank line || indentation line != indent) = true := by
      rcases aside with blank | other
      · simp [blank]
      · simp [other]
    rw [List.cons_append, enumMembers, if_pos isAside, ih]

/-- Nothing is read below a function or a decorator. -/
theorem enumMembers_of_ends {indent : Nat} {line : Line} (here : indentation line = indent)
    (ends : EndsMembers line) (below : List Line) : enumMembers indent (line :: below) = [] := by
  have stays : ¬ (allBlank line || indentation line != indent) = true := by
    simp [ends.not_allBlank, here]
  rw [enumMembers, if_neg stays, if_pos ends.isEnd]

theorem Source.range_append {source : Source} {above rest : List Line}
    (isSource : source.lines = above ++ rest) {stop : Nat} (below : above.length ≤ stop) :
    source.range above.length stop = .ok (rest.take (stop - above.length)) := by
  unfold Source.range
  rw [isSource, List.length_append]
  simp only
  rw [if_pos (by omega), min_eq_left (by omega), List.drop_take, List.drop_left]
  refine congrArg Except.ok (List.take_eq_take_iff.mpr ?_)
  omega

/-- **The members that are written in a range are read from it.** The range may end with the last of them,
or anywhere below a function or a decorator that follows at their indentation. -/
theorem enumValues_written {source : Source} {indent : Nat} {members : List EnumValue}
    {above block below : List Line} (isSource : source.lines = above ++ (block ++ below))
    (holds : HoldsMembers indent members block) :
    source.enumValues above.length (above.length + block.length) indent = .ok members ∧
      ∀ ending, below.head? = some ending → indentation ending = indent → EndsMembers ending →
        ∀ stop ≥ above.length + block.length,
          source.enumValues above.length stop indent = .ok members := by
  have inRange {stop : Nat} (after : above.length + block.length ≤ stop) :
      source.enumValues above.length stop indent =
        .ok (members ++ enumMembers indent (below.take (stop - (above.length + block.length)))) := by
    have inBlock : block.length ≤ stop - above.length := by omega
    unfold Source.enumValues
    rw [Source.range_append isSource (by omega), List.take_append, List.take_of_length_le inBlock,
      Nat.sub_sub]
    exact congrArg Except.ok (enumMembers_append holds _)
  constructor
  · rw [inRange le_rfl, Nat.sub_self, List.take_zero]
    exact congrArg Except.ok (List.append_nil members)
  · intro ending isNext here ends stop after
    rw [inRange after]
    refine congrArg Except.ok ?_
    obtain ⟨later, rfl⟩ := List.head?_eq_some_iff.mp isNext
    cases stop - (above.length + block.length) with
    | zero => exact List.append_nil members
    | succ n => rw [List.take_succ_cons, enumMembers_of_ends here ends, List.append_nil]

/-- An enumeration with a comment mark in a value, quotes in a description and lines aside. -/
def paletteSource : Source :=
  ⟨"palette.py".toList,
    ["class Palette(Enum):", "    red = 1  # Warm.", "", "        # ochre = 2",
      "    def = \"#'=\" + '#'  # It's \"not\" # a function.", "    plain = (0)",
      "  @of_another_block", "    def show(self):", "    shade = 4"].map String.toList⟩

/-- The members of the enumeration. -/
def paletteMembers : List EnumValue :=
  [⟨"red".toList, "1".toList, "Warm.".toList⟩,
    ⟨"def".toList, "\"#'=\" + '#'".toList, "It's \"not\" # a function.".toList⟩,
    ⟨"plain".toList, "(0)".toList, []⟩]

theorem enumValues_written_sample :
    paletteSource.enumValues 1 7 4 = .ok paletteMembers ∧
      paletteSource.enumValues 1 9 4 = .ok paletteMembers := by
  have plain {c : Char} {rest : Text} (unmarked : isQuote c = false ∧ c ≠ '#') (later : Paired rest) :
      Paired (c :: rest) := .plain unmarked.1 unmarked.2 later
  have double {inner rest : Text} (inside : '"' ∉ inner) (later : Paired rest) :
      Paired ('"' :: (inner ++ '"' :: rest)) := .literal rfl inside later
  have single {inner rest : Text} (inside : '\'' ∉ inner) (later : Paired rest) :
      Paired ('\'' :: (inner ++ '\'' :: rest)) := .literal rfl inside later
  have quoted : Paired ('"' :: ("#'=".toList ++ '"' :: " + '#'".toList)) :=
    double (by decide) (plain (by decide) (plain (by decide) (plain (by decide)
      (single (show '\'' ∉ ['#'] by decide) .nil))))
  have holds : HoldsMembers 4 paletteMembers ((paletteSource.lines.take 7).drop 1) := by
    refine .member ⟨by decide, by decide, plain (by decide) .nil, by decide⟩ ?_
    refine .passed (Or.inl (by decide)) (.passed (Or.inr (by decide)) ?_)
    refine .member ⟨by decide, by decide, quoted, by decide⟩ ?_
    refine .member ⟨by decide, by decide, ?_, by decide⟩ (.passed (Or.inr (by decide)) .nil)
    exact plain (by decide) (plain (by decide) (plain (by decide) .nil))
  have ends : EndsMembers
      ("    ".toList ++ ("def".toList ++ ([' '] ++ ("show".toList ++ ([] ++ "(self):".toList))))) :=
    .function (List.all_eq_true.mp (show "    ".toList.all isPad = true by decide)) isGap_space
      (by decide) (List.forall_mem_nil _)
  have isSource : paletteSource.lines = paletteSource.lines.take 1 ++
      ((paletteSource.lines.take 7).drop 1 ++ paletteSource.lines.drop 7) := rfl
  have written := enumValues_written isSource holds
  exact ⟨written.1, written.2 _ rfl (by decide) ends 9 (by decide)⟩

end ReferencePages
