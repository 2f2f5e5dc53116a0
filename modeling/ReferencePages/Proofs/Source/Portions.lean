/-
**No documentation is lost among the tags.**

The lines of a function's block are divided into portions: an entry of a parameter or of the return
value with the lines that go on with it, or a line of the body.

* `Divides`, `divides_unique`, `exists_divides`: **lines are divided into portions in one way**;
* `foldl_add_param`, `foldl_add_returns`, `foldl_add_divides`: what one entry adds to the tags under way,
  and what all portions add;
* `written_sentence`: no character that is not blank is lost where texts are trimmed and joined;
* `functionRecord_documentation`: **the documentation of a function is that of its portions, and every
  character of it that is not blank has one place in the record**.
-/

import ReferencePages.Assembly
import ReferencePages.Proofs.Text.Cuts

namespace ReferencePages

open Text

/-! ### Characters that are not blank -/

namespace Text

/-- The characters of a text that are not blank. -/
def written (t : Text) : Text := t.filter (! isBlank ·)

@[simp] theorem written_nil : written [] = [] := rfl

@[simp] theorem written_append (first second : Text) :
    written (first ++ second) = written first ++ written second := List.filter_append ..

theorem written_eq_nil {t : Text} (blank : allBlank t = true) : written t = [] :=
  List.filter_eq_nil_iff.mpr fun c member => by simp [List.all_eq_true.mp blank c member]

theorem written_trimStart (t : Text) : written (trimStart t) = written t := by
  have blank : allBlank (t.takeWhile isBlank) = true := List.all_takeWhile
  conv_rhs => rw [← List.takeWhile_append_dropWhile (p := isBlank) (l := t)]
  rw [written_append, written_eq_nil blank]
  rfl

theorem written_trimEnd (t : Text) : written (trimEnd t) = written t := by
  unfold written trimEnd dropEndWhile
  rw [List.filter_reverse]
  have kept := written_trimStart t.reverse
  unfold written trimStart at kept
  rw [kept, List.filter_reverse, List.reverse_reverse]

/-- Trimming loses no character that is not blank. -/
@[simp] theorem written_trim (t : Text) : written (trim t) = written t :=
  (written_trimEnd _).trans (written_trimStart t)

/-- Neither does joining with blanks. -/
theorem written_join {mark : Text} (blank : allBlank mark = true) (parts : List Text) :
    written (join mark parts) = parts.flatMap written := by
  induction parts with
  | nil => rfl
  | cons first rest ih =>
    by_cases alone : rest = []
    · subst alone
      rw [join, List.intercalate_singleton, List.flatMap_singleton]
    · rw [join, List.intercalate_cons_of_ne_nil alone, written_append, written_append,
        written_eq_nil blank, List.append_nil, List.flatMap_cons, ← ih]
      rfl

end Text

/-! ### Portions -/

/-- A part of a function's documentation. -/
inductive Portion where
  /-- The entry of a parameter: what stands before and behind the colon of its line, and the lines that
  go on with it. -/
  | param (line : Line) (name description : Text) (further : List Line)
  /-- The entry of the return value. -/
  | returns (line : Line) (description : Text) (further : List Line)
  /-- A line of the body. -/
  | body (line : Line)

/-- The line, trimmed, is `:param ` with a name, and a description behind the first colon if there is
one. -/
inductive IsParamLine (line : Line) (name : Text) : Text → Prop
  | described {description : Text} (isLine : trim line = ":param ".toList ++ (name ++ ':' :: description))
      (isFirst : ':' ∉ name) : IsParamLine line name description
  | bare (isLine : trim line = ":param ".toList ++ name) (isFirst : ':' ∉ name) : IsParamLine line name []

/-- The line, trimmed, is `:return:` or `:returns:` with a description. -/
def IsReturnLine (line : Line) (description : Text) : Prop :=
  trim line = ":return:".toList ++ description ∨ trim line = ":returns:".toList ++ description

/-- The line starts an entry. -/
def StartsEntry (line : Line) : Prop :=
  (∃ name description, IsParamLine line name description) ∨ ∃ description, IsReturnLine line description

/-- The line can go on with the entry above it: it is indented, not blank, and starts no entry. -/
structure GoesOn (line : Line) : Prop where
  indented : ∃ c ∈ line.head?, isBlank c = true
  written : allBlank line = false
  plain : ¬ StartsEntry line

/-- **The lines are divided into portions.** An entry takes all lines right below it that can go on with
it; every other line that starts no entry is one of the body. -/
inductive Divides : List Portion → List Line → Prop
  | nil : Divides [] []
  | param {line : Line} {name description : Text} {further rest : List Line} {portions : List Portion}
      (isParam : IsParamLine line name description) (goesOn : ∀ more ∈ further, GoesOn more)
      (ends : ∀ below ∈ rest.head?, ¬ GoesOn below) (later : Divides portions rest) :
      Divides (.param line name description further :: portions) (line :: (further ++ rest))
  | returns {line : Line} {description : Text} {further rest : List Line} {portions : List Portion}
      (isReturn : IsReturnLine line description) (goesOn : ∀ more ∈ further, GoesOn more)
      (ends : ∀ below ∈ rest.head?, ¬ GoesOn below) (later : Divides portions rest) :
      Divides (.returns line description further :: portions) (line :: (further ++ rest))
  | body {line : Line} {rest : List Line} {portions : List Portion} (plain : ¬ StartsEntry line)
      (later : Divides portions rest) : Divides (.body line :: portions) (line :: rest)

theorem GoesOn.trim_ne_nil {line : Line} (goesOn : GoesOn line) : trim line ≠ [] := by
  intro empty
  have blank := goesOn.written
  rw [allBlank_of_trim empty] at blank
  cases blank

/-! ### Lines that start entries -/

theorem isParamLine_iff {line : Line} {name description : Text} :
    IsParamLine line name description ↔
      ∃ rest, after? ":param ".toList (trim line) = some rest ∧
        (name, description) = (cutAt? ':' rest).getD (rest, []) := by
  constructor
  · rintro (⟨isLine, isFirst⟩ | ⟨isLine, isFirst⟩)
    · refine ⟨_, after?_eq_some_iff.mpr isLine, ?_⟩
      rw [cutAt?_eq_some_iff.mpr ⟨rfl, isFirst⟩, Option.getD_some]
    · refine ⟨_, after?_eq_some_iff.mpr isLine, ?_⟩
      rw [cutAt?_eq_none_iff.mpr isFirst, Option.getD_none]
  · rintro ⟨rest, isRest, same⟩
    have isLine := after?_eq_some_iff.mp isRest
    cases cut : cutAt? ':' rest with
    | none =>
      rw [cut] at same
      cases same
      exact .bare isLine (cutAt?_eq_none_iff.mp cut)
    | some pair =>
      rw [cut] at same
      cases same
      obtain ⟨rfl, isFirst⟩ := cutAt?_eq_some_iff.mp cut
      exact .described isLine isFirst

theorem isReturnLine_iff {line : Line} {description : Text} :
    IsReturnLine line description ↔
      (after? ":returns:".toList (trim line)).or (after? ":return:".toList (trim line)) =
        some description := by
  rw [Option.or_eq_some_iff, IsReturnLine]
  constructor
  · rintro (isLine | isLine)
    · refine Or.inr ⟨?_, after?_eq_some_iff.mpr isLine⟩
      rw [isLine]
      rfl
    · exact Or.inl (after?_eq_some_iff.mpr isLine)
  · rintro (isRest | ⟨-, isRest⟩)
    · exact Or.inr (after?_eq_some_iff.mp isRest)
    · exact Or.inl (after?_eq_some_iff.mp isRest)

theorem IsParamLine.tagEntry?_eq {line : Line} {name description : Text}
    (isParam : IsParamLine line name description) :
    tagEntry? (trim line) = some (.param (trim name) (trim description)) := by
  obtain ⟨rest, isRest, same⟩ := isParamLine_iff.mp isParam
  unfold tagEntry?
  rw [isRest]
  simp only
  rw [← same]

theorem IsReturnLine.not_param {line : Line} {description : Text}
    (isReturn : IsReturnLine line description) : after? ":param ".toList (trim line) = none := by
  rcases isReturn with isLine | isLine <;> rw [isLine] <;> rfl

theorem IsReturnLine.tagEntry?_eq {line : Line} {description : Text}
    (isReturn : IsReturnLine line description) :
    tagEntry? (trim line) = some (.returns (trim description)) := by
  unfold tagEntry?
  rw [isReturn.not_param, isReturnLine_iff.mp isReturn]
  rfl

theorem tagEntry?_eq_none {line : Line} (plain : ¬ StartsEntry line) : tagEntry? (trim line) = none := by
  unfold tagEntry?
  split
  · rename_i rest isRest
    exact absurd (Or.inl ⟨_, _, isParamLine_iff.mpr ⟨rest, isRest, rfl⟩⟩) plain
  · rw [Option.map_eq_none_iff, Option.eq_none_iff_forall_not_mem]
    exact fun description isDescription => plain (Or.inr ⟨description, isReturnLine_iff.mpr isDescription⟩)

theorem startsEntry_iff {line : Line} : StartsEntry line ↔ tagEntry? (trim line) ≠ none := by
  constructor
  · rintro (⟨name, description, isParam⟩ | ⟨description, isReturn⟩)
    · rw [isParam.tagEntry?_eq]
      exact Option.some_ne_none _
    · rw [isReturn.tagEntry?_eq]
      exact Option.some_ne_none _
  · intro isEntry
    by_contra plain
    exact isEntry (tagEntry?_eq_none plain)

instance (line : Line) : Decidable (StartsEntry line) := decidable_of_iff _ startsEntry_iff.symm

theorem goesOn_iff {line : Line} : GoesOn line ↔ isIndented line = true ∧ ¬ StartsEntry line := by
  unfold isIndented
  rw [Bool.and_eq_true, Bool.not_eq_true']
  constructor
  · rintro ⟨⟨c, isHead, blank⟩, written, plain⟩
    rw [Option.mem_def.mp isHead]
    exact ⟨⟨blank, written⟩, plain⟩
  · rintro ⟨⟨indented, written⟩, plain⟩
    refine ⟨?_, written, plain⟩
    cases head : line.head? with
    | none =>
      rw [head] at indented
      cases indented
    | some c =>
      rw [head] at indented
      exact ⟨c, rfl, indented⟩

instance (line : Line) : Decidable (GoesOn line) := decidable_of_iff _ goesOn_iff.symm

/-! ### Division into portions -/

theorem IsParamLine.unique {line : Line} {name name' description description' : Text}
    (isParam : IsParamLine line name description) (other : IsParamLine line name' description') :
    name = name' ∧ description = description' := by
  obtain ⟨rest, isRest, same⟩ := isParamLine_iff.mp isParam
  obtain ⟨rest', isRest', same'⟩ := isParamLine_iff.mp other
  obtain rfl := Option.some.inj (isRest.symm.trans isRest')
  exact Prod.mk.inj (same.trans same'.symm)

theorem IsReturnLine.unique {line : Line} {description description' : Text}
    (isReturn : IsReturnLine line description) (other : IsReturnLine line description') :
    description = description' :=
  Option.some.inj ((isReturnLine_iff.mp isReturn).symm.trans (isReturnLine_iff.mp other))

theorem IsReturnLine.not_isParamLine {line : Line} {name description description' : Text}
    (isReturn : IsReturnLine line description) : ¬ IsParamLine line name description' := by
  intro isParam
  cases isParam.tagEntry?_eq.symm.trans isReturn.tagEntry?_eq

/-- The lines that go on with an entry end in one place. -/
theorem goesOn_unique {further further' rest rest' : List Line}
    (same : further ++ rest = further' ++ rest') (goesOn : ∀ more ∈ further, GoesOn more)
    (goesOn' : ∀ more ∈ further', GoesOn more) (ends : ∀ below ∈ rest.head?, ¬ GoesOn below)
    (ends' : ∀ below ∈ rest'.head?, ¬ GoesOn below) : further = further' ∧ rest = rest' := by
  induction further generalizing further' with
  | nil =>
    cases further' with
    | nil => exact ⟨rfl, same⟩
    | cons first more =>
      rw [List.nil_append] at same
      rw [same] at ends
      exact absurd (goesOn' first List.mem_cons_self) (ends first rfl)
  | cons first more ih =>
    cases further' with
    | nil =>
      rw [List.nil_append] at same
      rw [← same] at ends'
      exact absurd (goesOn first List.mem_cons_self) (ends' first rfl)
    | cons first' more' =>
      obtain ⟨rfl, rests⟩ := List.cons.inj same
      obtain ⟨rfl, rfl⟩ := ih rests (fun line member => goesOn line (List.mem_cons_of_mem _ member))
        fun line member => goesOn' line (List.mem_cons_of_mem _ member)
      exact ⟨rfl, rfl⟩

/-- **Lines are divided into portions in one way.** -/
theorem divides_unique {ls : List Line} {portions other : List Portion} (divides : Divides portions ls)
    (divides' : Divides other ls) : other = portions := by
  induction divides generalizing other with
  | nil =>
    cases divides'
    rfl
  | param isParam goesOn ends later ih =>
    generalize whole : _ :: (_ ++ _) = ls at divides'
    cases divides' with
    | nil => cases whole
    | param isParam' goesOn' ends' later' =>
      obtain ⟨rfl, rests⟩ := List.cons.inj whole
      obtain ⟨rfl, rfl⟩ := isParam.unique isParam'
      obtain ⟨rfl, rfl⟩ := goesOn_unique rests goesOn goesOn' ends ends'
      rw [ih later']
    | returns isReturn =>
      obtain ⟨rfl, -⟩ := List.cons.inj whole
      exact absurd isParam isReturn.not_isParamLine
    | body plain =>
      obtain ⟨rfl, -⟩ := List.cons.inj whole
      exact absurd (Or.inl ⟨_, _, isParam⟩) plain
  | returns isReturn goesOn ends later ih =>
    generalize whole : _ :: (_ ++ _) = ls at divides'
    cases divides' with
    | nil => cases whole
    | param isParam =>
      obtain ⟨rfl, -⟩ := List.cons.inj whole
      exact absurd isParam isReturn.not_isParamLine
    | returns isReturn' goesOn' ends' later' =>
      obtain ⟨rfl, rests⟩ := List.cons.inj whole
      obtain rfl := isReturn.unique isReturn'
      obtain ⟨rfl, rfl⟩ := goesOn_unique rests goesOn goesOn' ends ends'
      rw [ih later']
    | body plain =>
      obtain ⟨rfl, -⟩ := List.cons.inj whole
      exact absurd (Or.inr ⟨_, isReturn⟩) plain
  | body plain later ih =>
    cases divides' with
    | param isParam => exact absurd (Or.inl ⟨_, _, isParam⟩) plain
    | returns isReturn => exact absurd (Or.inr ⟨_, isReturn⟩) plain
    | body _ later' => rw [ih later']

/-- The entry of a parameter starts on one of the lines. -/
theorem Divides.isParamLine {portions : List Portion} {ls : List Line} (divides : Divides portions ls)
    {line : Line} {name description : Text} {further : List Line}
    (member : .param line name description further ∈ portions) :
    line ∈ ls ∧ IsParamLine line name description := by
  induction divides with
  | nil => exact absurd member List.not_mem_nil
  | param isParam _ _ _ ih =>
    rcases List.mem_cons.mp member with same | later
    · cases same
      exact ⟨List.mem_cons_self, isParam⟩
    · exact (ih later).imp_left fun inRest => List.mem_cons_of_mem _ (List.mem_append_right _ inRest)
  | returns _ _ _ _ ih =>
    have later := (List.mem_cons.mp member).resolve_left (by simp)
    exact (ih later).imp_left fun inRest => List.mem_cons_of_mem _ (List.mem_append_right _ inRest)
  | body _ _ ih =>
    have later := (List.mem_cons.mp member).resolve_left (by simp)
    exact (ih later).imp_left (List.mem_cons_of_mem _)

/-- The lines that go on with an entry, and the others below it. -/
theorem exists_goesOn (ls : List Line) : ∃ further rest, ls = further ++ rest ∧
    (∀ more ∈ further, GoesOn more) ∧ ∀ below ∈ rest.head?, ¬ GoesOn below := by
  induction ls with
  | nil => exact ⟨[], [], rfl, by simp, by simp⟩
  | cons line below ih =>
    by_cases goesOn : GoesOn line
    · obtain ⟨further, rest, rfl, allGoOn, ends⟩ := ih
      exact ⟨line :: further, rest, rfl, List.forall_mem_cons.mpr ⟨goesOn, allGoOn⟩, ends⟩
    · refine ⟨[], line :: below, rfl, by simp, fun other isHead => ?_⟩
      cases isHead
      exact goesOn

/-- **All lines are divided into portions.** -/
theorem exists_divides (ls : List Line) : ∃ portions, Divides portions ls := by
  induction size : ls.length using Nat.strong_induction_on generalizing ls with
  | _ size ih =>
  cases ls with
  | nil => exact ⟨[], .nil⟩
  | cons line below =>
    by_cases starts : StartsEntry line
    · obtain ⟨further, rest, rfl, goesOn, ends⟩ := exists_goesOn below
      obtain ⟨portions, later⟩ := ih rest.length (by simp at size; omega) rest rfl
      rcases starts with ⟨name, description, isParam⟩ | ⟨description, isReturn⟩
      · exact ⟨_, .param isParam goesOn ends later⟩
      · exact ⟨_, .returns isReturn goesOn ends later⟩
    · obtain ⟨portions, later⟩ := ih below.length (by simp at size; omega) below rfl
      exact ⟨_, .body starts later⟩

/-! ### What portions say -/

/-- The words of a description and of the lines that go on with it, one space between each two of
them. -/
def sentence (description : Text) (further : List Line) : Text :=
  join [' '] ((trim description :: further.map trim).filter (! ·.isEmpty))

theorem sentence_nil (description : Text) : sentence description [] = trim description := by
  unfold sentence
  by_cases empty : trim description = []
  · rw [List.map_nil, empty]
    rfl
  · have kept : [trim description].filter (! ·.isEmpty) = [trim description] :=
      List.filter_cons_of_pos (by simpa using empty)
    rw [List.map_nil, kept, join, List.intercalate_singleton]

theorem join_concat {mark : Text} {parts : List Text} (nonempty : parts ≠ []) (last : Text) :
    join mark (parts ++ [last]) = join mark parts ++ mark ++ last := by
  induction parts with
  | nil => exact absurd rfl nonempty
  | cons first rest ih =>
    by_cases alone : rest = []
    · subst alone
      simp [join, List.intercalate_cons_of_ne_nil]
    · rw [List.cons_append, join, join, List.intercalate_cons_of_ne_nil (by simp),
        List.intercalate_cons_of_ne_nil alone, List.append_assoc, List.append_assoc, List.append_assoc,
        List.append_assoc, ← List.append_assoc _ mark last]
      congr 2
      exact ih alone

theorem join_ne_nil {mark : Text} {parts : List Text} (nonempty : parts ≠ [])
    (written : ∀ part ∈ parts, part ≠ []) : join mark parts ≠ [] := by
  cases parts with
  | nil => exact absurd rfl nonempty
  | cons first rest =>
    have isFirst := written first List.mem_cons_self
    by_cases alone : rest = []
    · subst alone
      rwa [join, List.intercalate_singleton]
    · rw [join, List.intercalate_cons_of_ne_nil alone, List.append_assoc]
      exact List.append_ne_nil_of_left_ne_nil isFirst _

/-- One more line goes on with what is there. -/
theorem appendWords_sentence (description : Text) (further : List Line) {line : Line}
    (isWritten : trim line ≠ []) :
    Tags.appendWords (sentence description further) (trim line) =
      sentence description (further ++ [line]) := by
  have longer : (trim description :: (further ++ [line]).map trim).filter (! ·.isEmpty) =
      (trim description :: further.map trim).filter (! ·.isEmpty) ++ [trim line] := by
    rw [List.map_append, ← List.cons_append, List.filter_append]
    congr 1
    exact List.filter_cons_of_pos (by simpa using isWritten)
  unfold sentence Tags.appendWords
  rw [longer]
  by_cases empty : (trim description :: further.map trim).filter (! ·.isEmpty) = []
  · rw [empty]
    exact List.intercalate_singleton.symm
  · have nonempty : join [' '] ((trim description :: further.map trim).filter (! ·.isEmpty)) ≠ [] :=
      join_ne_nil empty fun part member => by simpa using (List.mem_filter.mp member).2
    rw [if_neg (by simpa using nonempty), join_concat empty]

theorem written_sentence (description : Text) (further : List Line) :
    written (sentence description further) = written description ++ further.flatMap written := by
  have filtered : ∀ parts : List Text,
      (parts.filter (! ·.isEmpty)).flatMap written = parts.flatMap written := by
    intro parts
    induction parts with
    | nil => rfl
    | cons first rest ih =>
      by_cases empty : first = []
      · subst empty
        exact ih
      · rw [List.filter_cons_of_pos (by simpa using empty), List.flatMap_cons, ih, List.flatMap_cons]
  rw [sentence, written_join (by decide), filtered, List.flatMap_cons, List.flatMap_map, written_trim]
  simp only [written_trim]

namespace Portion

/-- The parameter that an entry documents, with its description. -/
def param? : Portion → Option (Text × Text)
  | .param _ name description further => some (trim name, sentence description further)
  | _ => none

/-- The return value that an entry documents. -/
def returns? : Portion → Option Text
  | .returns _ description further => some (sentence description further)
  | _ => none

/-- The line of the body. -/
def body? : Portion → Option Line
  | .body line => some line
  | _ => none

end Portion

/-! ### What is read from the portions -/

namespace Tags

open DocLine

variable {line : Line} {progress : Progress}

theorem add_param {name description : Text} (isParam : IsParamLine line name description) :
    progress.add line =
      { progress with target := .param, params := (trim name, trim description) :: progress.params } := by
  unfold Progress.add DocLine.read
  rw [isParam.tagEntry?_eq]
  rfl

theorem add_returns {description : Text} (isReturn : IsReturnLine line description) :
    progress.add line = { progress with target := .returns, returns := some (trim description) } := by
  unfold Progress.add DocLine.read
  rw [isReturn.tagEntry?_eq]
  rfl

theorem add_goesOn (begun : progress.target ≠ .body) (goesOn : GoesOn line) :
    progress.add line = progress.continueWith (trim line) := by
  have isContinued : DocLine.read progress.target line = .continues (trim line) := by
    unfold DocLine.read
    rw [tagEntry?_eq_none goesOn.plain]
    simp only
    rw [if_pos (by simp [begun, (goesOn_iff.mp goesOn).1])]
  unfold Progress.add
  rw [isContinued]
  unfold Progress.continueWith
  split <;> rfl

theorem add_body (plain : ¬ StartsEntry line) (ends : progress.target ≠ .body → ¬ GoesOn line) :
    progress.add line = { progress with target := .body, body := line :: progress.body } := by
  have isBody : DocLine.read progress.target line = .body line := by
    unfold DocLine.read
    rw [tagEntry?_eq_none plain]
    simp only
    rw [if_neg]
    rw [Bool.and_eq_true, decide_eq_true_eq]
    exact fun both => ends both.1 (goesOn_iff.mpr ⟨both.2, plain⟩)
  unfold Progress.add
  rw [isBody]
  rfl

/-- The lines that go on with the entry of a parameter. -/
theorem foldl_add_param {name description : Text} {params : List (Text × Text)} {returns : Option Text}
    {body : List Line} (further : List Line) {more : List Line} (goesOn : ∀ line ∈ more, GoesOn line) :
    more.foldl Progress.add ⟨.param, (name, sentence description further) :: params, returns, body⟩ =
      ⟨.param, (name, sentence description (further ++ more)) :: params, returns, body⟩ := by
  induction more generalizing further with
  | nil => simp
  | cons line rest ih =>
    obtain ⟨here, later⟩ := List.forall_mem_cons.mp goesOn
    rw [List.foldl_cons, add_goesOn (by simp) here]
    simp only [Progress.continueWith]
    rw [appendWords_sentence _ _ here.trim_ne_nil, ih _ later, List.append_assoc, List.singleton_append]

/-- The lines that go on with the entry of the return value. -/
theorem foldl_add_returns {description : Text} {params : List (Text × Text)} {body : List Line}
    (further : List Line) {more : List Line} (goesOn : ∀ line ∈ more, GoesOn line) :
    more.foldl Progress.add ⟨.returns, params, some (sentence description further), body⟩ =
      ⟨.returns, params, some (sentence description (further ++ more)), body⟩ := by
  induction more generalizing further with
  | nil => simp
  | cons line rest ih =>
    obtain ⟨here, later⟩ := List.forall_mem_cons.mp goesOn
    rw [List.foldl_cons, add_goesOn (by simp) here]
    simp only [Progress.continueWith, Option.map_some]
    rw [appendWords_sentence _ _ here.trim_ne_nil, ih _ later, List.append_assoc, List.singleton_append]

/-- **What all portions add** to the entries under way. -/
theorem foldl_add_divides {portions : List Portion} {ls : List Line} (divides : Divides portions ls)
    (progress : Progress) (ends : progress.target ≠ .body → ∀ below ∈ ls.head?, ¬ GoesOn below) :
    ∃ target, ls.foldl Progress.add progress =
      { target := target
        params := (portions.filterMap Portion.param?).reverse ++ progress.params
        returns := (portions.filterMap Portion.returns?).getLast?.or progress.returns
        body := (portions.filterMap Portion.body?).reverse ++ progress.body } := by
  induction divides generalizing progress with
  | nil => exact ⟨progress.target, rfl⟩
  | @param line name description further rest portions isParam goesOn closed _ ih =>
    obtain ⟨target, same⟩ := ih
      ⟨.param, (trim name, sentence description further) :: progress.params, progress.returns,
        progress.body⟩ fun _ => closed
    refine ⟨target, ?_⟩
    rw [List.foldl_cons, add_param isParam, List.foldl_append, ← sentence_nil description,
      foldl_add_param [] goesOn, List.nil_append, same]
    simp [Portion.param?, Portion.returns?, Portion.body?, List.filterMap_cons]
  | @returns line description further rest portions isReturn goesOn closed _ ih =>
    obtain ⟨target, same⟩ := ih
      ⟨.returns, progress.params, some (sentence description further), progress.body⟩ fun _ => closed
    refine ⟨target, ?_⟩
    rw [List.foldl_cons, add_returns isReturn, List.foldl_append, ← sentence_nil description,
      foldl_add_returns [] goesOn, List.nil_append, same]
    simp [Portion.param?, Portion.returns?, Portion.body?, List.filterMap_cons, List.getLast?_cons]
  | @body line rest portions plain _ ih =>
    obtain ⟨target, same⟩ := ih ⟨.body, progress.params, progress.returns, line :: progress.body⟩
      fun begun => absurd rfl begun
    refine ⟨target, ?_⟩
    rw [List.foldl_cons, add_body plain fun begun => ends begun line rfl, same]
    simp [Portion.param?, Portion.returns?, Portion.body?, List.filterMap_cons]

/-- **The tags of lines are those of their portions.** -/
theorem ofLines_eq {portions : List Portion} {ls : List Line} (divides : Divides portions ls) :
    ofLines ls = ⟨portions.filterMap Portion.param?, (portions.filterMap Portion.returns?).getLast?,
      trim (joinLines (portions.filterMap Portion.body?))⟩ := by
  obtain ⟨target, same⟩ := foldl_add_divides divides ⟨.body, [], none, []⟩ fun begun => absurd rfl begun
  unfold ofLines
  rw [same]
  simp

/-- The name of a parameter stands on one of the lines. -/
theorem exists_subset_of_mem_params {ls : List Line} {entry : Text × Text}
    (member : entry ∈ (ofLines ls).params) : ∃ line ∈ ls, entry.1 ⊆ line := by
  obtain ⟨portions, divides⟩ := exists_divides ls
  rw [ofLines_eq divides] at member
  obtain ⟨portion, inside, shown⟩ := List.mem_filterMap.mp member
  cases portion with
  | param line name description further =>
    cases shown
    obtain ⟨inLines, isParam⟩ := divides.isParamLine inside
    refine ⟨line, inLines, fun c inName => (trim_isInfix line).subset ?_⟩
    have named := (trim_isInfix name).subset inName
    cases isParam with
    | described isLine _ => rw [isLine]; simp [named]
    | bare isLine _ => rw [isLine]; simp [named]
  | returns => cases shown
  | body => cases shown

end Tags

/-! ### The documentation of a function -/

namespace Portion

/-- The characters that are not blank in the name and the description of a parameter's entry. -/
def paramCharacters? : Portion → Option (Text × Text)
  | .param _ name description further => some (written name, written description ++ further.flatMap written)
  | _ => none

/-- The characters that are not blank in the entry of the return value. -/
def returnCharacters : Portion → Text
  | .returns _ description further => written description ++ further.flatMap written
  | _ => []

/-- The characters that are not blank in a line of the body. -/
def bodyCharacters : Portion → Text
  | .body line => written line
  | _ => []

end Portion

/-- Every character of the portions that is not blank, but for their marks, has one place in the record:
each entry's in the parameter or the return value that it documents, each body line's in the body. -/
structure Distributed (portions : List Portion) (f : FunctionRecord) : Prop where
  parameters : f.parameters.map (fun p => (written p.name, written p.description)) =
    portions.filterMap Portion.paramCharacters?
  returns : (f.returns.map written).getD [] = portions.flatMap Portion.returnCharacters
  body : written f.body = portions.flatMap Portion.bodyCharacters

theorem map_written_param? (portions : List Portion) :
    (portions.filterMap Portion.param?).map (fun entry => (written entry.1, written entry.2)) =
      portions.filterMap Portion.paramCharacters? := by
  rw [List.map_filterMap]
  congr 1
  funext portion
  cases portion <;> simp [Portion.param?, Portion.paramCharacters?, written_sentence]

theorem flatMap_written_returns? (portions : List Portion) :
    (portions.filterMap Portion.returns?).flatMap written =
      portions.flatMap Portion.returnCharacters := by
  induction portions with
  | nil => rfl
  | cons portion rest ih =>
    cases portion <;>
      simp [Portion.returns?, Portion.returnCharacters, List.filterMap_cons, written_sentence, ← ih]

theorem flatMap_written_body? (portions : List Portion) :
    (portions.filterMap Portion.body?).flatMap written = portions.flatMap Portion.bodyCharacters := by
  induction portions with
  | nil => rfl
  | cons portion rest ih =>
    cases portion <;> simp [Portion.body?, Portion.bodyCharacters, List.filterMap_cons, ← ih]

/-- **No documentation is lost among the tags.** The lines of a function's block are divided into
portions in one way. The parameters are those of the entries in order, the return value is that of the
last entry, the body is made of the lines that belong to no entry. With one return entry at most, every
character that is not blank, but for the marks, has one place in the record. -/
theorem functionRecord_documentation (className : Text) {header : FunctionHeader} {block : DocBlock}
    (documented : header.doc = some block) :
    ∃ portions, Divides portions block.lines ∧
      (∀ other, Divides other block.lines → other = portions) ∧
      (functionRecord className header).parameters.map (fun p => (p.name, p.description)) =
        portions.filterMap Portion.param? ∧
      (functionRecord className header).returns = (portions.filterMap Portion.returns?).getLast? ∧
      (functionRecord className header).body = trim (joinLines (portions.filterMap Portion.body?)) ∧
      ((portions.filterMap Portion.returns?).length ≤ 1 →
        Distributed portions (functionRecord className header)) := by
  obtain ⟨portions, divides⟩ := exists_divides block.lines
  have tags := Tags.ofLines_eq divides
  rw [show block.lines = (header.doc.map (·.lines)).getD [] by rw [documented]; rfl] at tags
  have parameters : (functionRecord className header).parameters.map
      (fun p => (p.name, p.description)) = portions.filterMap Portion.param? := by
    unfold functionRecord
    rw [tags]
    simp only [List.map_map]
    exact List.map_id _
  have returns : (functionRecord className header).returns =
      (portions.filterMap Portion.returns?).getLast? := by
    unfold functionRecord
    rw [tags]
  have body : (functionRecord className header).body =
      trim (joinLines (portions.filterMap Portion.body?)) := by
    unfold functionRecord
    rw [tags]
  refine ⟨portions, divides, fun other divides' => divides_unique divides divides', parameters, returns,
    body, fun single => ⟨?_, ?_, ?_⟩⟩
  · rw [← map_written_param?, ← parameters, List.map_map]
    rfl
  · rw [returns, ← flatMap_written_returns?]
    match entries : portions.filterMap Portion.returns? with
    | [] => rfl
    | [only] => simp
    | _ :: _ :: _ =>
      rw [entries] at single
      exact absurd single (by simp)
  · rw [body, written_trim, joinLines, written_join (by decide), flatMap_written_body?]

/-- A function with entries that go on, one without a colon, and an indented line below a blank one. -/
def movedSample : FunctionHeader where
  name := "move".toList
  line := 0
  indent := 4
  isHidden := false
  markedStatic := false
  params := "self, dx: int, dy=0".toList
  doc := some ⟨none, ["Move the box.", ":param dx : how far: ", "    to the  right", " :param dy", "",
    "    by one.", ":returns:", "  the box"].map (·.toList), 1, 9⟩

/-- The portions of its block. -/
def movedPortions : List Portion :=
  [.body "Move the box.".toList,
    .param ":param dx : how far: ".toList "dx ".toList " how far:".toList ["    to the  right".toList],
    .param " :param dy".toList "dy".toList [] [], .body [], .body "    by one.".toList,
    .returns ":returns:".toList [] ["  the box".toList]]

theorem functionRecord_documentation_sample :
    (∃ block, movedSample.doc = some block ∧ Divides movedPortions block.lines) ∧
      (movedPortions.filterMap Portion.returns?).length ≤ 1 ∧
      (functionRecord "Box".toList movedSample).parameters.map (fun p => (p.name, p.description)) =
        [("dx".toList, "how far: to the  right".toList), ("dy".toList, [])] ∧
      (functionRecord "Box".toList movedSample).returns = some "the box".toList ∧
      (functionRecord "Box".toList movedSample).body = "Move the box.\n\n    by one.".toList ∧
      Distributed movedPortions (functionRecord "Box".toList movedSample) := by
  have documented : movedSample.doc = some _ := rfl
  have divides : Divides movedPortions _ :=
    .body (by decide +kernel) <|
    .param (.described rfl (by decide)) (by decide +kernel) (by decide +kernel) <|
    .param (.bare rfl (by decide)) (by decide +kernel) (by decide +kernel) <|
    .body (by decide +kernel) <| .body (by decide +kernel) <|
    .returns (Or.inr rfl) (by decide +kernel) (by decide +kernel) .nil
  obtain ⟨portions, -, unique, parameters, returns, body, distributed⟩ :=
    functionRecord_documentation "Box".toList documented
  obtain rfl := unique _ divides
  have single : (movedPortions.filterMap Portion.returns?).length ≤ 1 := by decide
  exact ⟨⟨_, documented, divides⟩, single, parameters.trans (by decide +kernel),
    returns.trans (by decide +kernel), body.trans (by decide +kernel), distributed single⟩

end ReferencePages
