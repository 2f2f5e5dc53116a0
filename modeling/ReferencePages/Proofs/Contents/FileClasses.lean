/-
**The class of a file is named in the file.**

The class that a file's name promises is looked up by its own reading of lines (`declaredName?`), which
is not the one that finds class headers (`ClassLine.read?`). It cuts the name off before a parenthesis or
a colon and does not ask for either, and it takes a heading of the first level for a class, since files
can be documents too.

* `declaredName?_of_read?`: **both read the same name in a line that opens with `class ` and is a header**;
* `read?_of_complete`, `lacksHeader_of_read?`: what makes a header of a line that opens like one, and
  what a line lacks that is none;
* `mem_lines_joinLines`: joined lines are read as the lines they are joined from, up to a carriage return;
* `lookUpClass_named`: **a class that is looked up, listed or inherited without a warning is named by a
  line of its file** (`promised_without_header`).
-/

import ReferencePages.Inheritance
import ReferencePages.Proofs.Declaration.Calls
import ReferencePages.Proofs.Source.Selection

namespace ReferencePages

open Text Declaration

/-! ### Two readings of a line -/

/-- The name of a class ends before this character at the latest. -/
def endsClassName (c : Char) : Bool := c == '(' || c == ':'

theorem exists_of_baseList? {t : Text} {bases : Option Text} (read : baseList? t = some bases) :
    ∃ c rest, t = c :: rest ∧ endsClassName c = true := by
  unfold baseList? at read
  split at read
  · exact ⟨_, _, rfl, rfl⟩
  · exact ⟨_, _, rfl, rfl⟩
  · cases read

theorem afterWord?_class (rest : Text) :
    afterWord? "class" ("class ".toList ++ rest) = some (dropPads rest) := rfl

theorem of_endsClassName {c : Char} (ends : endsClassName c = true) :
    isNameRest c = false ∧ isPad c = false := by
  rw [endsClassName, Bool.or_eq_true, beq_iff_eq, beq_iff_eq] at ends
  rcases ends with rfl | rfl <;> decide

theorem endsClassName_eq_false {c : Char} (inside : isNameRest c = true ∨ isPad c = true) :
    endsClassName c = false := by
  by_contra ends
  obtain ⟨noLetter, noPad⟩ := of_endsClassName (eq_true_of_ne_false ends)
  rw [noLetter, noPad] at inside
  exact absurd inside (by decide)

/-- **Where a header opens with `class `, both readings give its name.** -/
theorem declaredName?_of_read? {line rest : Text} {declared : ClassLine}
    (opens : line = "class ".toList ++ rest) (same : ClassLine.read? line = some declared) :
    declaredName? line = some declared.name := by
  subst opens
  unfold ClassLine.read? at same
  rw [afterWord?_class, Option.bind_eq_bind, Option.bind_some] at same
  obtain ⟨⟨name, more⟩, isIdentifier, same⟩ := Option.bind_eq_some_iff.mp same
  obtain ⟨bases, isBases, same⟩ := Option.bind_eq_some_iff.mp same
  cases same
  obtain ⟨c, tail, split, ends⟩ := exists_of_baseList? isBases
  have isName := isName_of_identifier? isIdentifier
  have leading : ∀ d ∈ rest.takeWhile isPad, isPad d = true := fun d member => List.mem_takeWhile_imp member
  have trailing : ∀ d ∈ more.takeWhile isPad, isPad d = true := fun d member => List.mem_takeWhile_imp member
  have whole : rest = (rest.takeWhile isPad ++ (name ++ more.takeWhile isPad)) ++ c :: tail := by
    rw [List.append_assoc, List.append_assoc, ← split, dropPads, List.takeWhile_append_dropWhile,
      ← append_of_identifier? isIdentifier, dropPads, List.takeWhile_append_dropWhile]
  have cut : before endsClassName rest = rest.takeWhile isPad ++ (name ++ more.takeWhile isPad) := by
    have inside : ∀ d ∈ rest.takeWhile isPad ++ (name ++ more.takeWhile isPad), (! endsClassName d) = true := by
      intro d member
      rw [endsClassName_eq_false, Bool.not_false]
      rcases List.mem_append.mp member with pad | member
      · exact Or.inr (leading d pad)
      · exact (List.mem_append.mp member).imp (isName.letters d) (trailing d)
    rw [before]
    conv_lhs => rw [whole]
    rw [List.takeWhile_append_of_pos inside, List.takeWhile_cons_of_neg (by simp [ends]), List.append_nil]
  have trimmed : trim (before endsClassName rest) = name := by
    rw [cut, trim_append_blanks (allBlank_of_isPad leading), trim_append_blank _ (allBlank_of_isPad trailing),
      trim_of_isName isName]
  have candidate : declaredName? ("class ".toList ++ rest) =
      (some (trim (before endsClassName rest))).filter (! ·.isEmpty) := rfl
  rw [candidate, trimmed, Option.filter_some, if_pos (by simpa using isName.nonempty)]

/-- No colon ends a header in `rest`, neither at once nor behind a closing parenthesis. -/
def Unended (rest : Text) : Prop :=
  rest.head? ≠ some ':' ∧
    ∀ bases after, rest = '(' :: (bases ++ ')' :: after) → (dropPads after).head? ≠ some ':'

theorem untilBasesClose?_eq_none {inner : Text} (same : untilBasesClose? inner = none) :
    ∀ bases after, inner = bases ++ ')' :: after → (dropPads after).head? ≠ some ':' := by
  induction inner with
  | nil => exact fun bases after split => absurd split.symm (by simp)
  | cons c rest ih =>
    intro bases after split
    rw [untilBasesClose?] at same
    cases later : untilBasesClose? rest with
    | some found => simp [later] at same
    | none =>
      rw [later] at same
      cases bases with
      | nil =>
        obtain ⟨rfl, rfl⟩ := List.cons.inj split
        intro colon
        simp [colon] at same
      | cons d bases => exact ih later bases after (List.cons.inj split).2

theorem unended_of_baseList? {rest : Text} (same : baseList? rest = none) : Unended rest := by
  unfold baseList? at same
  split at same
  · rename_i inner
    refine ⟨by simp, fun bases after split => ?_⟩
    exact untilBasesClose?_eq_none (Option.map_eq_none_iff.mp same) bases after (List.cons.inj split).2
  · cases same
  · rename_i notOpened notColon
    refine ⟨fun colon => ?_, fun bases after split => absurd split (notOpened _)⟩
    obtain ⟨more, rfl⟩ := List.head?_eq_some_iff.mp colon
    exact notColon more rfl

/-- What a line lacks that opens with `class `, the name between the blanks `lead` and `tail`, and `rest`:
the name is no identifier, one of the blanks is neither a space nor a tab, or no colon ends the header. -/
def LacksHeader (lead name tail rest : Text) : Prop :=
  identifier? name ≠ some (name, []) ∨ (∃ c ∈ lead ++ tail, isPad c = false) ∨ Unended rest

/-- An identifier between spaces and tabs, and a colon at once or behind the bases, make a header. -/
theorem read?_of_complete {lead name tail rest : Text} {bases : Option Text}
    (isIdentifier : identifier? name = some (name, [])) (pads : ∀ c ∈ lead ++ tail, isPad c = true)
    (isBases : baseList? rest = some bases) :
    ClassLine.read? ("class ".toList ++ (lead ++ (name ++ (tail ++ rest)))) =
      some ⟨name, (bases.map trim).filter (! ·.isEmpty)⟩ := by
  obtain ⟨c, more, rfl, ends⟩ := exists_of_baseList? isBases
  obtain ⟨noLetter, noPad⟩ := of_endsClassName ends
  have isIdentifier := isIdentifier_of_identifier? isIdentifier
  have inTail : ∀ d ∈ tail, isPad d = true := fun d member => pads d (List.mem_append_right _ member)
  have stops : ∀ d ∈ (tail ++ c :: more).head?, isNameRest d = false :=
    stops_append inTail fun d member => Option.some.inj member ▸ noLetter
  have afterLead : dropPads (lead ++ (name ++ (tail ++ c :: more))) = name ++ (tail ++ c :: more) := by
    rw [dropPads_append_of_isPad fun d member => pads d (List.mem_append_left _ member),
      isIdentifier.isName.dropPads_append]
  have afterTail : dropPads (tail ++ c :: more) = c :: more := by
    rw [dropPads_append_of_isPad inTail, dropPads_cons_of_not_isPad noPad]
  unfold ClassLine.read?
  rw [afterWord?_class, afterLead]
  simp [isIdentifier.identifier?_append stops, afterTail, isBases]

/-- **A line that opens like a header and is none lacks an identifier, plain blanks or the colon.** -/
theorem lacksHeader_of_read? {lead name tail rest : Text}
    (noHeader : ClassLine.read? ("class ".toList ++ (lead ++ (name ++ (tail ++ rest)))) = none) :
    LacksHeader lead name tail rest := by
  by_contra complete
  rw [LacksHeader, not_or, not_or, not_not] at complete
  obtain ⟨isIdentifier, otherBlank, ended⟩ := complete
  have pads : ∀ c ∈ lead ++ tail, isPad c = true := fun c member => by
    by_contra other
    exact otherBlank ⟨c, member, by simpa using other⟩
  obtain ⟨bases, isBases⟩ := Option.ne_none_iff_exists'.mp fun unread => ended (unended_of_baseList? unread)
  rw [read?_of_complete isIdentifier pads isBases] at noHeader
  cases noHeader

/-! ### The lines that name a class -/

/-- **How a line names a class.** -/
inductive NamesClass (name : Text) (line : Line) : Prop
  /-- It is a header of the class. -/
  | header {declared : ClassLine} (isHeader : ClassLine.read? line = some declared)
      (same : declared.name = name)
  /-- It opens like a header of the class and is none. -/
  | opening {lead tail rest : Text} (isLine : line = "class ".toList ++ (lead ++ (name ++ (tail ++ rest))))
      (blank : allBlank (lead ++ tail) = true) (ends : ∀ c ∈ rest.head?, endsClassName c = true)
      (noHeader : ClassLine.read? line = none) (lacks : LacksHeader lead name tail rest)
  /-- It is a heading of the first level. -/
  | heading {text : Text} (isLine : line = "# ".toList ++ text) (same : trim text = name)

/-- The file has a line that names the class. -/
def Source.Names (file : Source) (name : Text) : Prop := ∃ line ∈ file.lines, NamesClass name line

theorem trim_of_filter {t name : Text} (same : ((some t).map trim).filter (! ·.isEmpty) = some name) :
    trim t = name := (Option.filter_eq_some_iff.mp same).1 |> Option.some.inj

/-- **A line that is read as a name names it in one of three ways.** -/
theorem namesClass_of_declaredName? {line : Line} {name : Text} (named : declaredName? line = some name) :
    NamesClass name line := by
  cases opens : after? "class ".toList line with
  | none =>
    rw [declaredName?, opens] at named
    cases titled : after? "# ".toList line with
    | none =>
      rw [titled] at named
      cases named
    | some text =>
      rw [titled] at named
      exact .heading (after?_eq_some_iff.mp titled) (trim_of_filter named)
  | some rest =>
    cases read : ClassLine.read? line with
    | some declared =>
      have same := declaredName?_of_read? (after?_eq_some_iff.mp opens) read
      exact .header read (Option.some.inj (same.symm.trans named))
    | none =>
      rw [declaredName?, opens] at named
      have trimmed : trim (before endsClassName rest) = name := trim_of_filter named
      obtain ⟨lead, tail, leadBlank, tailBlank, split⟩ := exists_blanks_trim (before endsClassName rest)
      have whole : line = "class ".toList ++
          (lead ++ (name ++ (tail ++ rest.dropWhile (! endsClassName ·)))) := by
        rw [after?_eq_some_iff.mp opens, ← List.append_assoc name, ← List.append_assoc lead, ← trimmed, ← split,
          before, List.takeWhile_append_dropWhile]
      have ends : ∀ c ∈ (rest.dropWhile (! endsClassName ·)).head?, endsClassName c = true := by
        intro c member
        have stops := List.head?_dropWhile_not (! endsClassName ·) rest
        rw [member] at stops
        simpa using stops
      have blank : allBlank (lead ++ tail) = true := by
        rw [allBlank, List.all_append, ← allBlank, ← allBlank, leadBlank, tailBlank, Bool.and_self]
      exact .opening whole blank ends read (lacksHeader_of_read? (whole ▸ read))

/-! ### Joined lines -/

theorem after?_concat {mark : Text} {c : Char} (other : c ∉ mark) (t : Text) :
    after? mark (t ++ [c]) = (after? mark t).map (· ++ [c]) := by
  induction mark generalizing t with
  | nil => rfl
  | cons d mark ih =>
    rw [List.mem_cons, not_or] at other
    cases t with
    | nil =>
      have differs : (d == c) = false := by simpa using Ne.symm other.1
      simp [after?, List.isPrefixOf?, differs]
    | cons e t =>
      have below := ih other.2 t
      unfold after? at below
      simp only [after?, List.cons_append, List.isPrefixOf?]
      split
      · exact below
      · rfl

theorem trim_before_concat {p : Char → Bool} {c : Char} (blank : isBlank c = true) (goesOn : p c = false)
    (t : Text) : trim (before p (t ++ [c])) = trim (before p t) := by
  have alone : [c].takeWhile (! p ·) = [c] := by simp [goesOn]
  rw [before, before, List.takeWhile_append, alone]
  split
  · rename_i whole
    rw [trim_concat_blank t blank, (List.takeWhile_prefix _).eq_of_length whole]
  · rfl

/-- A carriage return at the end of a line does not change what the line is read as. -/
theorem declaredName?_concat_return (line : Line) : declaredName? (line ++ ['\r']) = declaredName? line := by
  have blank : isBlank '\r' = true := by decide
  rw [declaredName?, declaredName?, after?_concat (by decide), after?_concat (by decide)]
  congr 1
  cases after? "class ".toList line with
  | some rest => exact congrArg some (trim_before_concat (p := endsClassName) blank (by decide) rest)
  | none =>
    cases after? "# ".toList line with
    | some text => exact congrArg some (trim_concat_blank text blank)
    | none => rfl

theorem declaredName?_dropReturn (line : Line) : declaredName? (dropReturn line) = declaredName? line := by
  unfold dropReturn
  split
  · rename_i ends
    obtain ⟨before, rfl⟩ := List.getLast?_eq_some_iff.mp ends
    rw [List.dropLast_concat, declaredName?_concat_return]
  · rfl

/-- Joined lines are read as the lines they are joined from, up to a carriage return at an end. -/
theorem mem_lines_joinLines {ls : List Line} (unbroken : ∀ line ∈ ls, '\n' ∉ line) {line : Line}
    (member : line ∈ lines (joinLines ls)) : ∃ original ∈ ls, line = original ∨ line = dropReturn original := by
  by_cases empty : ls = []
  · subst empty
    cases member
  · have split : (joinLines ls).splitOn '\n' = ls := List.splitOn_intercalate '\n' unbroken empty
    rw [lines, split] at member
    rcases List.mem_append.mp member with inner | last
    · obtain ⟨original, inside, rfl⟩ := List.mem_map.mp inner
      exact ⟨original, List.dropLast_subset _ inside, Or.inr rfl⟩
    · have inLs := List.mem_of_getLast? (Option.mem_toList.mp (List.mem_filter.mp last).1)
      exact ⟨line, inLs, Or.inl rfl⟩

/-! ### Looking up the class of a file -/

/-- The warnings tell that the file does not declare the class that its name promises. -/
def Warned (file : Source) (overrides : Overrides) (warnings : List Warning) : Prop :=
  ∃ found, .nameLookup file.name (resolvedClass file.name overrides) found ∈ warnings

theorem names_of_mem_declaredClasses {file : Source} (unbroken : file.Unbroken) {name : Text}
    (member : name ∈ declaredClasses file.text) : file.Names name := by
  obtain ⟨line, inLines, named⟩ := List.mem_filterMap.mp (List.mem_eraseDups.mp member)
  obtain ⟨original, inFile, same⟩ := mem_lines_joinLines unbroken inLines
  refine ⟨original, inFile, namesClass_of_declaredName? ?_⟩
  rcases same with rfl | rfl
  · exact named
  · rwa [declaredName?_dropReturn] at named

/-- What a lookup gives: the promised class, and a warning unless the file declares it. -/
theorem lookUpClass_cases (file : Source) (overrides : Overrides) :
    let promised := resolvedClass file.name overrides
    (lookUpClass file overrides = (promised, none) ∧ promised ∈ declaredClasses file.text) ∨
      ∃ found, lookUpClass file overrides = (promised, some (.nameLookup file.name promised found)) := by
  unfold lookUpClass
  simp only
  split
  · rename_i declared
    exact Or.inl ⟨rfl, List.contains_iff_mem.mp declared⟩
  · exact Or.inr ⟨_, rfl⟩

theorem lookUpClass_fst (file : Source) (overrides : Overrides) :
    (lookUpClass file overrides).1 = resolvedClass file.name overrides := by
  rcases lookUpClass_cases file overrides with ⟨same, -⟩ | ⟨found, same⟩ <;> rw [same]

/-- **Where what a lookup has to report is told, a line of the file names the class, or it is warned.** -/
theorem warned_or_names {file : Source} (unbroken : file.Unbroken) {overrides : Overrides}
    {warnings : List Warning} (told : ∀ w ∈ (lookUpClass file overrides).2, w ∈ warnings) :
    Warned file overrides warnings ∨ file.Names (resolvedClass file.name overrides) := by
  rcases lookUpClass_cases file overrides with ⟨-, declared⟩ | ⟨found, same⟩
  · exact Or.inr (names_of_mem_declaredClasses unbroken declared)
  · rw [same] at told
    exact Or.inl ⟨found, told _ rfl⟩

/-! ### Classes in lists and pages -/

theorem forall₂_of_mapM {ε α β : Type} {f : α → Except ε β} {R : α → β → Prop} {xs : List α} {ys : List β}
    (same : xs.mapM f = .ok ys) (each : ∀ x ∈ xs, ∀ y, f x = .ok y → R x y) : List.Forall₂ R xs ys := by
  induction xs generalizing ys with
  | nil =>
    cases same
    exact .nil
  | cons x rest ih =>
    rw [List.mapM_cons] at same
    obtain ⟨y, isFirst, same⟩ := bind_eq_ok same
    obtain ⟨others, areOthers, same⟩ := bind_eq_ok same
    cases same
    exact .cons (each x List.mem_cons_self y isFirst)
      (ih areOthers fun other member => each other (List.mem_cons_of_mem _ member))

/-- A child is documented under the class that its file's name promises, with what the lookup reports. -/
theorem inheritOne_eq_ok {base : Text} {overrides : Overrides} {plan : Option Plan} {options : DocOptions}
    {child : Source} {result : Inherited} (same : inheritOne base overrides plan options child = .ok result) :
    result.className = resolvedClass child.name overrides ∧
      ∀ w ∈ (lookUpClass child overrides).2, w ∈ result.warnings := by
  rw [← lookUpClass_fst]
  unfold inheritOne at same
  simp only at same
  split at same
  · cases same
    exact ⟨rfl, fun w member => List.mem_append_left _ (Option.mem_toList.mpr member)⟩
  · cases same
    exact ⟨rfl, fun w member => Option.mem_toList.mpr member⟩
  · cases same

/-- **The class of a file, wherever it is shown without a warning, is named by a line of the file**: by a
class header, by a line that opens like one, or by a heading of the first level. This holds where the
class is looked up, in a list of files, and for the base and the children of a merge. -/
theorem lookUpClass_named (overrides : Overrides) :
    (∀ file : Source, file.Unbroken → (lookUpClass file overrides).2 = none →
      (lookUpClass file overrides).1 = resolvedClass file.name overrides ∧
        file.Names (lookUpClass file overrides).1) ∧
    (∀ (files : List Source) (package : Option Text) (directory : Text),
      (∀ file ∈ files, file.Unbroken) →
      (directoryContents files package directory overrides).1 =
          files.flatMap (fun file => directoryEntry package (dropEndWhile (· == '/') directory) file
            (resolvedClass file.name overrides)) ∧
        ∀ file ∈ files, Warned file overrides (directoryContents files package directory overrides).2 ∨
          file.Names (resolvedClass file.name overrides)) ∧
    (∀ (base : Source) (children : List Source) (plan : Option Plan) (options : DocOptions)
      (warnings : List Warning) (results : List Inherited),
      base.Unbroken → (∀ child ∈ children, child.Unbroken) →
      inheritAll base children overrides plan options = .ok (warnings, results) →
      (Warned base overrides warnings ∨ base.Names (resolvedClass base.name overrides)) ∧
        List.Forall₂ (fun child result => result.className = resolvedClass child.name overrides ∧
          (Warned child overrides result.warnings ∨ child.Names result.className)) children results) := by
  refine ⟨fun file unbroken silent => ?lookup, fun files package directory unbroken => ⟨?listed, ?warned⟩,
    fun base children plan options warnings results unbroken each same => ?inherited⟩
  case lookup =>
    rw [lookUpClass_fst]
    refine ⟨rfl, ?_⟩
    have told : Warned file overrides [] ∨ file.Names (resolvedClass file.name overrides) :=
      warned_or_names unbroken fun w member => by
        rw [silent] at member
        cases member
    exact told.resolve_left fun ⟨found, inside⟩ => List.not_mem_nil inside
  case listed => simp only [directoryContents, lookUpClass_fst]
  case warned =>
    intro file member
    refine warned_or_names (unbroken file member) fun w told => ?_
    exact List.mem_flatMap.mpr ⟨file, member, Option.mem_toList.mpr told⟩
  case inherited =>
    unfold inheritAll at same
    obtain ⟨⟨page, own⟩, -, same⟩ := bind_eq_ok same
    obtain ⟨inherited, areInherited, same⟩ := bind_eq_ok same
    cases same
    refine ⟨warned_or_names unbroken fun w told => ?_, ?_⟩
    · exact List.mem_append_right _ (Option.mem_toList.mpr told)
    · refine forall₂_of_mapM areInherited fun child member result isResult => ?_
      obtain ⟨isClass, told⟩ := inheritOne_eq_ok isResult
      exact ⟨isClass, isClass ▸ warned_or_names (each child member) told⟩

/-- A class header that goes on in the next lines. -/
def splitHeader : Source := .ofText "widget.py".toList "class Widget(\n    Base,\n):\n    pass\n".toList

/-- A source whose first line is a comment. -/
def titledSource : Source := .ofText "widget.py".toList "# Widget\nsize = 1\n".toList

def baseSource : Source := .ofText "base.py".toList "class Base:\n    pass\n".toList

theorem lookUpClass_named_sample :
    ((lookUpClass splitHeader []).1 = "Widget".toList ∧ splitHeader.Names "Widget".toList) ∧
    (baseSource.Names "Base".toList ∧ splitHeader.Names "Widget".toList) ∧
    ∃ warnings results, inheritAll baseSource [splitHeader] [] none ⟨none, [], false⟩ = .ok (warnings, results) ∧
      warnings = [] ∧ baseSource.Names "Base".toList ∧
        List.Forall₂ (fun child result => result.className = resolvedClass child.name [] ∧
          (Warned child [] result.warnings ∨ child.Names result.className)) [splitHeader] results := by
  obtain ⟨lookup, listed, inherited⟩ := lookUpClass_named []
  have base : baseSource.Unbroken := Source.unbroken_ofText _ _
  have split : splitHeader.Unbroken := Source.unbroken_ofText _ _
  have isBase : resolvedClass baseSource.name [] = "Base".toList := by decide +kernel
  have isWidget : resolvedClass splitHeader.name [] = "Widget".toList := by decide +kernel
  have unwarned {file : Source} {warnings : List Warning} (none : warnings = []) :
      ¬ Warned file [] warnings := by
    rintro ⟨found, inside⟩
    rw [none] at inside
    cases inside
  refine ⟨?_, ?_, ?_⟩
  · obtain ⟨isClass, names⟩ := lookup splitHeader split (by decide +kernel)
    rw [isClass, isWidget] at names
    exact ⟨isClass.trans isWidget, names⟩
  · have silent : (directoryContents [baseSource, splitHeader] none [] []).2 = [] := by decide +kernel
    have named := (listed [baseSource, splitHeader] none [] (by simp [base, split])).2
    have first := (named baseSource (by simp)).resolve_left (unwarned silent)
    have second := (named splitHeader (by simp)).resolve_left (unwarned silent)
    rw [isBase] at first
    rw [isWidget] at second
    exact ⟨first, second⟩
  · have accepted : ((inheritAll baseSource [splitHeader] [] none ⟨none, [], false⟩).toOption.map (·.1)) =
        some [] := by decide +kernel
    cases same : inheritAll baseSource [splitHeader] [] none ⟨none, [], false⟩ with
    | error fault =>
      rw [same] at accepted
      cases accepted
    | ok answer =>
      obtain ⟨warnings, results⟩ := answer
      rw [same] at accepted
      have silent : warnings = [] := Option.some.inj accepted
      obtain ⟨own, children⟩ := inherited baseSource [splitHeader] none ⟨none, [], false⟩ warnings results base
        (by simp [split]) same
      exact ⟨warnings, results, rfl, silent, isBase ▸ own.resolve_left (unwarned silent), children⟩

/-- **A class is found where no header declares it**: its header goes on in the next lines, or a comment
bears its name. -/
theorem promised_without_header :
    ((lookUpClass splitHeader []).2 = none ∧ (directoryContents [splitHeader] none [] []).2 = [] ∧
      ∀ line ∈ splitHeader.lines, ClassLine.read? line = none) ∧
    (lookUpClass titledSource []).2 = none ∧ (directoryContents [titledSource] none [] []).2 = [] ∧
      ∀ line ∈ titledSource.lines, ClassLine.read? line = none := by
  decide +kernel

end ReferencePages
