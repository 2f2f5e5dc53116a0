/-
**Import lists are read whatever their layout.**

A package passes on what it imports from its own modules. The items of such an import stand behind the
word `import`, or in parentheses on the same line, or in parentheses over several lines, where every line
may end with a comment.

* `SpellsItems`: a text spells names as items between commas; its names are read from it
  (`SpellsItems.listedNames_eq`), and trimming changes none of them (`SpellsItems.trim`);
* `IsOpening`: what stands before the items; a line is a relative import exactly when it opens with one
  (`isSome_relativeImport?_iff`);
* `importLists_rest`: the lines of a list are gathered up to its closing parenthesis, each one behind a
  comma;
* `importLists_statement`: a statement gives one list, and reading goes on below it;
* `reexports_written`: **the imported names are passed on in the order of their first occurrence**, each
  one once, whatever the layout of the imports and the lines between them.
-/

import ReferencePages.Proofs.Declaration.Comments
import ReferencePages.Proofs.Declaration.SignatureLayout
import ReferencePages.Proofs.Text.Pads
import ReferencePages.Source.Reexport

namespace ReferencePages

open Text Declaration

/-! ### Items between commas -/

/-- A mark of the layout, which is part of no name; a star stands for all names. -/
def isItemMark (c : Char) : Bool := "(),*#'\"".toList.contains c

/-- A name or an alias, without blanks and marks; every identifier is one. -/
structure IsItemWord (word : Text) : Prop where
  nonempty : word ≠ []
  written : ∀ c ∈ word, isBlank c = false
  unmarked : ∀ c ∈ word, isItemMark c = false

theorem isItemWord_of_isName {name : Text} (isName : IsName name) : IsItemWord name := by
  refine ⟨isName.nonempty, fun c member => isBlank_of_isNameRest (isName.letters c member), ?_⟩
  intro c member
  by_contra mark
  have noLetters : "(),*#'\"".toList.any isNameRest = false := by decide
  have isMark := List.contains_iff_mem.mp (eq_true_of_ne_false mark)
  exact List.any_eq_false.mp noLetters c isMark (isName.letters c member)

/-- The text holds blanks only, and some. -/
structure IsSpace (t : Text) : Prop where
  nonempty : t ≠ []
  blank : allBlank t = true

/-- The text is an imported name, with another name behind `as` or without one. -/
inductive IsItem (name : Text) : Text → Prop
  | plain (isWord : IsItemWord name) : IsItem name name
  | renamed {space space' other : Text} (isWord : IsItemWord name) (isSpace : IsSpace space)
      (isSpace' : IsSpace space') (isOther : IsItemWord other) :
      IsItem name (name ++ (space ++ ("as".toList ++ (space' ++ other))))

/-- The text spells imported names between commas and blanks; nothing has to stand before or behind a
comma. -/
inductive SpellsItems : List Text → Text → Prop
  | blank {t : Text} (isBlank : allBlank t = true) : SpellsItems [] t
  | item {name lead t tail : Text} (isLead : allBlank lead = true) (isItem : IsItem name t)
      (isTail : allBlank tail = true) : SpellsItems [name] (lead ++ (t ++ tail))
  | comma {names more : List Text} {first second : Text} (left : SpellsItems names first)
      (right : SpellsItems more second) : SpellsItems (names ++ more) (first ++ ',' :: second)

theorem isItemMark_of_isBlank {c : Char} (blank : isBlank c = true) : isItemMark c = false := by
  by_contra mark
  have noBlanks : "(),*#'\"".toList.any isBlank = false := by decide
  exact List.any_eq_false.mp noBlanks c (List.contains_iff_mem.mp (eq_true_of_ne_false mark)) blank

theorem isItemMark_of_blank {t : Text} (blank : allBlank t = true) : ∀ c ∈ t, isItemMark c = false :=
  fun c member => isItemMark_of_isBlank (List.all_eq_true.mp blank c member)

theorem IsItem.unmarked {name t : Text} (isItem : IsItem name t) : ∀ c ∈ t, isItemMark c = false := by
  cases isItem with
  | plain isWord => exact isWord.unmarked
  | renamed isWord isSpace isSpace' isOther =>
    have isAs : IsIdentifier "as".toList := by decide
    simp only [List.forall_mem_append]
    exact ⟨isWord.unmarked, isItemMark_of_blank isSpace.blank, (isItemWord_of_isName isAs.isName).unmarked,
      isItemMark_of_blank isSpace'.blank, isOther.unmarked⟩

/-- A list of items holds no marks but commas. -/
theorem SpellsItems.unmarked {names : List Text} {t : Text} (spells : SpellsItems names t) :
    ∀ c ∈ t, c = ',' ∨ isItemMark c = false := by
  induction spells with
  | blank isBlank => exact fun c member => Or.inr (isItemMark_of_blank isBlank c member)
  | item isLead isItem isTail =>
    simp only [List.forall_mem_append]
    exact ⟨fun c member => Or.inr (isItemMark_of_blank isLead c member),
      fun c member => Or.inr (isItem.unmarked c member),
      fun c member => Or.inr (isItemMark_of_blank isTail c member)⟩
  | comma _ _ ih ih' =>
    exact List.forall_mem_append.mpr ⟨ih, List.forall_mem_cons.mpr ⟨Or.inl rfl, ih'⟩⟩

theorem SpellsItems.not_mem {names : List Text} {t : Text} (spells : SpellsItems names t) {c : Char}
    (mark : isItemMark c = true) (other : c ≠ ',') : c ∉ t := by
  intro member
  rw [(spells.unmarked c member).resolve_left other] at mark
  cases mark

theorem SpellsItems.paired {names : List Text} {t : Text} (spells : SpellsItems names t) :
    Paired t := by
  refine Unmarked.paired fun c member => ⟨?_, ?_⟩
  · by_contra quote
    rw [Bool.not_eq_false, isQuote, Bool.or_eq_true, beq_iff_eq, beq_iff_eq] at quote
    rcases quote with rfl | rfl
    · exact spells.not_mem (by decide) (by decide) member
    · exact spells.not_mem (by decide) (by decide) member
  · rintro rfl
    exact spells.not_mem (by decide) (by decide) member

/-! ### The names of a list -/

/-- The names in an import list without its parentheses. -/
def listedNames (inner : Text) : List Text :=
  ((inner.splitOn ',').filterMap fun item => (words item).head?).filter (· ≠ ['*'])

theorem listedNames_append (first second : Text) :
    listedNames (first ++ ',' :: second) = listedNames first ++ listedNames second := by
  have split : (first ++ ',' :: second).splitOn ',' = first.splitOn ',' ++ second.splitOn ',' :=
    List.splitOnP_append_cons first second rfl
  unfold listedNames
  rw [split, List.filterMap_append, List.filter_append]

theorem IsItemWord.words_eq {word : Text} (isWord : IsItemWord word) : words word = [word] := by
  unfold words
  rw [List.splitOnP_eq_singleton isWord.written]
  simp [isWord.nonempty]

/-- The name is the first word of an item, and no star. -/
theorem IsItem.head?_words {name t : Text} (isItem : IsItem name t) :
    (words t).head? = some name ∧ name ≠ ['*'] := by
  have noStar (isWord : IsItemWord name) : name ≠ ['*'] := by
    rintro rfl
    cases isWord.unmarked '*' List.mem_cons_self
  cases isItem with
  | plain isWord =>
    rw [isWord.words_eq]
    exact ⟨rfl, noStar isWord⟩
  | renamed isWord isSpace isSpace' isOther =>
    rw [words_append_blanks _ isSpace.blank isSpace.nonempty, isWord.words_eq]
    exact ⟨rfl, noStar isWord⟩

/-- **The names that a text spells are read from it.** -/
theorem SpellsItems.listedNames_eq {names : List Text} {t : Text} (spells : SpellsItems names t) :
    listedNames t = names := by
  have single {t : Text} (unmarked : ∀ c ∈ t, isItemMark c = false) :
      listedNames t = ((words t).head?.toList).filter (· ≠ ['*']) := by
    unfold listedNames
    rw [List.splitOn_eq_singleton fun member => by cases unmarked _ member]
    cases isHead : (words t).head? <;> simp [isHead]
  induction spells with
  | blank isBlank =>
    have noWords := words_append_of_allBlank [] isBlank
    rw [List.nil_append] at noWords
    rw [single (isItemMark_of_blank isBlank), noWords]
    rfl
  | @item name lead t tail isLead isItem isTail =>
    obtain ⟨isHead, noStar⟩ := isItem.head?_words
    have unmarked : ∀ c ∈ lead ++ (t ++ tail), isItemMark c = false := by
      simp only [List.forall_mem_append]
      exact ⟨isItemMark_of_blank isLead, isItem.unmarked, isItemMark_of_blank isTail⟩
    rw [single unmarked, words_blanks_append isLead, words_append_of_allBlank _ isTail, isHead]
    simp [noStar]
  | comma _ _ ih ih' => rw [listedNames_append, ih, ih']

/-! ### Trimmed lists -/

theorem IsItemWord.endsWritten {word : Text} (isWord : IsItemWord word) : EndsWritten word := by
  obtain ⟨before, c, rfl⟩ := (List.eq_nil_or_concat' word).resolve_left isWord.nonempty
  exact ⟨before, c, rfl, isWord.written c (by simp)⟩

/-- An item neither starts nor ends with a blank. -/
theorem IsItem.ends {name t : Text} (isItem : IsItem name t) :
    EndsWritten t ∧ ∀ more, trimStart (t ++ more) = t ++ more := by
  have starts (isWord : IsItemWord name) (more : Text) : trimStart (name ++ more) = name ++ more := by
    obtain ⟨first, rest, rfl⟩ := List.exists_cons_of_ne_nil isWord.nonempty
    exact List.dropWhile_cons_of_neg (by simp [isWord.written first List.mem_cons_self])
  cases isItem with
  | plain isWord => exact ⟨isWord.endsWritten, starts isWord⟩
  | renamed isWord isSpace isSpace' isOther =>
    refine ⟨(((isOther.endsWritten.append _).append _).append _).append _, fun more => ?_⟩
    rw [List.append_assoc, starts isWord]

theorem SpellsItems.trimStart {names : List Text} {t : Text} (spells : SpellsItems names t) :
    SpellsItems names (Text.trimStart t) := by
  have blanks {lead : Text} (isLead : allBlank lead = true) (more : Text) :
      Text.trimStart (lead ++ more) = Text.trimStart more :=
    List.dropWhile_append_of_pos fun c member => List.all_eq_true.mp isLead c member
  induction spells with
  | @blank t isBlank =>
    have nothing := blanks isBlank []
    rw [List.append_nil] at nothing
    rw [nothing]
    exact .blank rfl
  | @item name lead t tail isLead isItem isTail =>
    rw [blanks isLead, isItem.ends.2]
    exact .item (show allBlank [] = true from rfl) isItem isTail
  | @comma names more first second _ right ih _ =>
    have shown : Text.trimStart (first ++ ',' :: second) = Text.trimStart first ++ ',' :: second := by
      unfold Text.trimStart
      rw [List.dropWhile_append]
      split
      · rename_i empty
        rw [List.isEmpty_iff.mp empty]
        rfl
      · rfl
    rw [shown]
    exact .comma ih right

theorem trimEnd_cons_written {c : Char} (written : isBlank c = false) (t : Text) :
    trimEnd (c :: t) = c :: trimEnd t := by
  by_cases empty : trimEnd t = []
  · have blank := (trimEnd_eq_nil_iff t).mp empty
    rw [empty, show c :: t = [c] ++ t from rfl, trimEnd_append_blank [c] blank]
    exact trimEnd_of_endsWritten ⟨[], c, rfl, written⟩
  · exact trimEnd_append [c] empty

theorem SpellsItems.trimEnd {names : List Text} {t : Text} (spells : SpellsItems names t) :
    SpellsItems names (Text.trimEnd t) := by
  induction spells with
  | blank isBlank =>
    rw [(trimEnd_eq_nil_iff _).mpr isBlank]
    exact .blank rfl
  | @item name lead t tail isLead isItem isTail =>
    have shown : Text.trimEnd (lead ++ (t ++ tail)) = lead ++ (t ++ []) := by
      rw [List.append_nil, ← List.append_assoc, trimEnd_append_blank _ isTail]
      exact trimEnd_of_endsWritten (isItem.ends.1.append lead)
    rw [shown]
    exact .item isLead isItem rfl
  | @comma names more first second left _ _ ih' =>
    have comma : Text.trimEnd (',' :: second) = ',' :: Text.trimEnd second :=
      trimEnd_cons_written (by decide) second
    rw [trimEnd_append first (by rw [comma]; simp), comma]
    exact .comma left ih'

/-! ### Relative imports -/

/-- What stands before the items of a relative import: `from`, a module path with a dot in front and
`import`, each with a gap behind. -/
def IsOpening (opening : Text) : Prop :=
  ∃ gap path gap' gap'', IsGap gap ∧ (∀ c ∈ path, isModulePathChar c = true) ∧ IsGap gap' ∧ IsGap gap'' ∧
    opening = "from".toList ++ (gap ++ '.' :: (path ++ (gap' ++ ("import".toList ++ gap''))))

/-- The line opens like a relative import. -/
def IsRelativeImport (line : Line) : Prop := ∃ opening list, IsOpening opening ∧ line = opening ++ list

theorem isModulePathChar_of_isPad {c : Char} (pad : isPad c = true) : isModulePathChar c = false := by
  by_contra inPath
  rw [Bool.not_eq_false, isModulePathChar, Bool.or_eq_true, beq_iff_eq] at inPath
  rcases inPath with letter | rfl
  · rw [isPad_eq_false_of_isNameRest letter] at pad
    cases pad
  · cases pad

/-- A module path ends at the gap behind it. -/
theorem dropWhile_path {path gap : Text} (isPath : ∀ c ∈ path, isModulePathChar c = true)
    (isGap : IsGap gap) (t : Text) : (path ++ (gap ++ t)).dropWhile isModulePathChar = gap ++ t := by
  obtain ⟨c, more, rfl⟩ := List.exists_cons_of_ne_nil isGap.nonempty
  rw [List.dropWhile_append_of_pos isPath]
  exact List.dropWhile_cons_of_neg
    (by simp [isModulePathChar_of_isPad (isGap.pads c List.mem_cons_self)])

/-- Spaces and tabs before a list do not count. -/
theorem trim_stripComment_dropPads (t : Text) :
    trim (stripComment (dropPads t)) = trim (stripComment t) := by
  have blank : allBlank (t.takeWhile isPad) = true :=
    allBlank_of_isPad fun c member => List.mem_takeWhile_imp member
  have whole : t = t.takeWhile isPad ++ dropPads t := List.takeWhile_append_dropWhile.symm
  have shown : stripComment t = t.takeWhile isPad ++ stripComment (dropPads t) := by
    conv_lhs => rw [whole, stripComment, (unmarked_of_blank blank).paired.splitComment_append]
    rfl
  rw [shown, trim_append_blanks blank]

/-- **What stands behind the opening is the list**, without its comment. -/
theorem relativeImport?_opening {opening : Text} (isOpening : IsOpening opening) (list : Text) :
    relativeImport? (opening ++ list) = some (trim (stripComment list)) := by
  obtain ⟨gap, path, gap', gap'', isGap, isPath, isGap', isGap'', rfl⟩ := isOpening
  have whole : "from".toList ++ (gap ++ '.' :: (path ++ (gap' ++ ("import".toList ++ gap'')))) ++ list =
      "from".toList ++ (gap ++ '.' :: (path ++ (gap' ++ ("import".toList ++ (gap'' ++ list))))) := by
    simp
  have atDot (t : Text) : after? ['.'] (dropPads ('.' :: t)) = some t := rfl
  have atImport (t : Text) : after? "import".toList (dropPads ("import".toList ++ t)) = some t := rfl
  unfold relativeImport?
  rw [whole, afterWord?_append isGap, Option.bind_eq_bind, Option.bind_some, atDot, Option.bind_some,
    dropWhile_path isPath isGap', afterPads?_append isGap', Option.bind_some, atImport, Option.bind_some,
    afterPads?_append isGap'', Option.map_some, trim_stripComment_dropPads]

/-- **A line is read as a relative import exactly when it opens like one.** -/
theorem isSome_relativeImport?_iff {line : Line} :
    (relativeImport? line).isSome = true ↔ IsRelativeImport line := by
  constructor
  · intro read
    obtain ⟨result, read⟩ := Option.isSome_iff_exists.mp read
    obtain ⟨dotted, isFrom, read⟩ := Option.bind_eq_some_iff.mp read
    obtain ⟨behindDot, isDot, read⟩ := Option.bind_eq_some_iff.mp read
    obtain ⟨imported, isPath, read⟩ := Option.bind_eq_some_iff.mp read
    obtain ⟨names, isImport, read⟩ := Option.bind_eq_some_iff.mp read
    obtain ⟨list, isList, -⟩ := Option.map_eq_some_iff.mp read
    obtain ⟨gap, isGap, rfl⟩ := exists_isGap_of_afterWord? isFrom
    obtain ⟨gap', isGap', split⟩ := exists_isGap_of_afterPads? isPath
    obtain ⟨gap'', isGap'', rfl⟩ := exists_isGap_of_afterPads? isList
    obtain rfl := after?_eq_some_iff.mp isDot
    obtain rfl := after?_eq_some_iff.mp isImport
    have path : behindDot = behindDot.takeWhile isModulePathChar ++
        (gap' ++ ("import".toList ++ (gap'' ++ list))) := by
      rw [← split, List.takeWhile_append_dropWhile]
    refine ⟨_, list, ⟨gap, behindDot.takeWhile isModulePathChar, gap', gap'', isGap, ?_, isGap', isGap'',
      rfl⟩, ?_⟩
    · exact fun c member => List.mem_takeWhile_imp member
    · conv_lhs => rw [path]
      simp
  · rintro ⟨opening, list, isOpening, rfl⟩
    rw [relativeImport?_opening isOpening]
    rfl

/-! ### Statements on their lines -/

/-- The lines of a list in parentheses below its first one, up to the closing parenthesis. -/
inductive WritesRest : List Text → List Line → Prop
  | last {names : List Text} {list : Text} (spells : SpellsItems names list) (more : Text) :
      WritesRest names [list ++ ')' :: more]
  | more {names others : List Text} {list comment : Text} {lines : List Line}
      (spells : SpellsItems names list) (isComment : IsComment comment) (below : WritesRest others lines) :
      WritesRest (names ++ others) ((list ++ comment) :: lines)

/-- **The layouts of an import of names**: without parentheses, in parentheses on one line, or in
parentheses over several lines, each of which may end with a comment. -/
inductive WritesImport : List Text → List Line → Prop
  | plain {names : List Text} {opening list comment : Text} (isOpening : IsOpening opening)
      (spells : SpellsItems names list) (isComment : IsComment comment) :
      WritesImport names [opening ++ (list ++ comment)]
  | enclosed {names : List Text} {opening list : Text} (isOpening : IsOpening opening)
      (spells : SpellsItems names list) (more : Text) :
      WritesImport names [opening ++ '(' :: (list ++ ')' :: more)]
  | spread {names others : List Text} {opening list comment : Text} {lines : List Line}
      (isOpening : IsOpening opening) (spells : SpellsItems names list) (isComment : IsComment comment)
      (below : WritesRest others lines) :
      WritesImport (names ++ others) ((opening ++ '(' :: (list ++ comment)) :: lines)

/-- The lines hold imports of the names, in order, and any other lines that are no relative imports. -/
inductive HoldsImports : List Text → List Line → Prop
  | nil : HoldsImports [] []
  | passed {names : List Text} {line : Line} {lines : List Line} (other : ¬ IsRelativeImport line)
      (below : HoldsImports names lines) : HoldsImports names (line :: lines)
  | statement {names others : List Text} {block lines : List Line} (writes : WritesImport names block)
      (below : HoldsImports others lines) : HoldsImports (names ++ others) (block ++ lines)

theorem importedNames_eq (list : Text) :
    importedNames list = listedNames (before (· == ')') (list.dropWhile (· == '('))) := rfl

/-- A list is read up to a closing parenthesis. -/
theorem importedNames_append {names : List Text} {list more : Text} (spells : SpellsItems names list)
    (stops : ∀ c ∈ more.head?, c = ')') : importedNames (list ++ more) = names := by
  have noOpening : (list ++ more).dropWhile (· == '(') = list ++ more := by
    cases whole : list ++ more with
    | nil => rfl
    | cons c rest =>
      refine List.dropWhile_cons_of_neg fun opens => ?_
      obtain rfl := beq_iff_eq.mp opens
      cases list with
      | nil => cases stops '(' (by rw [show more = '(' :: rest from whole]; rfl)
      | cons d list =>
        obtain ⟨rfl, -⟩ := List.cons.inj whole
        exact spells.not_mem (by decide) (by decide) List.mem_cons_self
  have upToClosing : before (· == ')') (list ++ more) = list := by
    have others : ∀ c ∈ list, (! c == ')') = true := fun c member => by
      have other : c ≠ ')' := fun closes => spells.not_mem (by decide) (by decide) (closes ▸ member)
      simpa using other
    rw [before, List.takeWhile_append_of_pos others]
    cases more with
    | nil => exact List.append_nil list
    | cons c rest =>
      have closes : c = ')' := stops c rfl
      rw [List.takeWhile_cons_of_neg (by simp [closes]), List.append_nil]
  rw [importedNames_eq, noOpening, upToClosing, spells.listedNames_eq]

/-- An opening parenthesis does not count. -/
theorem importedNames_cons (list : Text) : importedNames ('(' :: list) = importedNames list := by
  rw [importedNames_eq, List.dropWhile_cons_of_pos (by decide), ← importedNames_eq]

/-- **The lines of a list are gathered up to its closing parenthesis**, each one behind a comma. -/
theorem importLists_rest {names others : List Text} {list : Text} {lines : List Line}
    (spells : SpellsItems names list) (writes : WritesRest others lines) (below : List Line) :
    ∃ whole, importLists (some ('(' :: list)) (lines ++ below) = whole :: importLists none below ∧
      importedNames whole = names ++ others := by
  induction writes generalizing names list with
  | @last others list' spells' more =>
    have longer : '(' :: list ++ [','] ++ stripComment (list' ++ ')' :: more) =
        '(' :: ((list ++ ',' :: list') ++ ')' :: stripComment more) := by
      have shown : stripComment (list' ++ ')' :: more) = list' ++ ')' :: stripComment more :=
        congrArg Prod.fst (spells'.paired.splitComment_append (')' :: more))
      rw [shown]
      simp
    refine ⟨'(' :: ((list ++ ',' :: list') ++ ')' :: stripComment more), ?_, ?_⟩
    · rw [List.singleton_append, importLists, longer, if_pos (by simp)]
    · rw [importedNames_cons]
      exact importedNames_append (spells.comma spells') fun c member => (Option.some.inj member).symm
  | @more others others' list' comment lines spells' isComment _ ih =>
    have longer : '(' :: list ++ [','] ++ stripComment (list' ++ comment) = '(' :: (list ++ ',' :: list') := by
      rw [spells'.paired.stripComment_append isComment]
      simp
    have unclosed : ')' ∉ '(' :: (list ++ ',' :: list') := by
      have inLists := (spells.comma spells').not_mem (c := ')') (by decide) (by decide)
      simpa using inLists
    obtain ⟨whole, gathered, same⟩ := ih (spells.comma spells')
    refine ⟨whole, ?_, same.trans (List.append_assoc _ _ _)⟩
    rw [List.cons_append, importLists, longer, if_neg (by simpa using unclosed), gathered]

theorem SpellsItems.stripComment_opened {names : List Text} {list : Text}
    (spells : SpellsItems names list) (more : Text) :
    stripComment ('(' :: (list ++ more)) = '(' :: (list ++ stripComment more) :=
  congrArg Prod.fst ((Paired.plain (by decide) (by decide) spells.paired).splitComment_append more)

theorem trim_opened (t : Text) : trim ('(' :: t) = '(' :: trimEnd t :=
  trimEnd_cons_written (by decide) t

/-- **An import gives one list, and reading goes on below it.** -/
theorem importLists_import {names : List Text} {block : List Line} (writes : WritesImport names block)
    (below : List Line) : ∃ whole, importLists none (block ++ below) = whole :: importLists none below ∧
      importedNames whole = names := by
  cases writes with
  | @plain _ opening list comment isOpening spells isComment =>
    have trimmed : SpellsItems names (trim list) := spells.trimStart.trimEnd
    have notOpened : (trim list).head? ≠ some '(' := fun opens =>
      trimmed.not_mem (by decide) (by decide) (List.mem_of_head? opens)
    have closed : isUnclosed (trim list) = false := by simp [isUnclosed, notOpened]
    refine ⟨trim list, ?_, ?_⟩
    · rw [List.singleton_append, importLists, relativeImport?_opening isOpening,
        spells.paired.stripComment_append isComment]
      simp only
      rw [closed]
      rfl
    · rw [← List.append_nil (trim list)]
      exact importedNames_append trimmed fun c member => by cases member
  | @enclosed _ opening list isOpening spells more =>
    have shown : trim (stripComment ('(' :: (list ++ ')' :: more))) =
        '(' :: (list ++ ')' :: trimEnd (stripComment more)) := by
      have closing : stripComment (')' :: more) = ')' :: stripComment more := rfl
      have kept : trimEnd (')' :: stripComment more) = ')' :: trimEnd (stripComment more) :=
        trimEnd_cons_written (by decide) _
      rw [spells.stripComment_opened, closing, trim_opened,
        trimEnd_append list (by rw [kept]; simp), kept]
    refine ⟨'(' :: (list ++ ')' :: trimEnd (stripComment more)), ?_, ?_⟩
    · rw [List.singleton_append, importLists, relativeImport?_opening isOpening, shown]
      simp only
      rw [if_neg (by simp [isUnclosed])]
    · rw [importedNames_cons]
      exact importedNames_append spells fun c member => (Option.some.inj member).symm
  | @spread names others opening list comment lines isOpening spells isComment rest =>
    have shown : trim (stripComment ('(' :: (list ++ comment))) = '(' :: trimEnd list := by
      have noComment : stripComment comment = [] := Paired.nil.stripComment_append isComment
      rw [spells.stripComment_opened, noComment, List.append_nil, trim_opened]
    have unclosed : isUnclosed ('(' :: trimEnd list) = true := by
      have inList := spells.trimEnd.not_mem (c := ')') (by decide) (by decide)
      simp [isUnclosed, inList]
    obtain ⟨whole, gathered, same⟩ := importLists_rest spells.trimEnd rest below
    refine ⟨whole, ?_, same⟩
    rw [List.cons_append, importLists, relativeImport?_opening isOpening, shown]
    simp only
    rw [if_pos unclosed, gathered]

theorem flatMap_importLists {names : List Text} {lines : List Line} (holds : HoldsImports names lines) :
    (importLists none lines).flatMap importedNames = names := by
  induction holds with
  | nil => rfl
  | @passed names line lines other _ ih =>
    have unread : relativeImport? line = none := by
      by_contra read
      exact other (isSome_relativeImport?_iff.mp (Option.isSome_iff_ne_none.mpr read))
    rw [importLists, unread]
    exact ih
  | @statement names others block lines writes _ ih =>
    obtain ⟨whole, gathered, same⟩ := importLists_import writes lines
    rw [gathered, List.flatMap_cons, same, ih]

/-! ### First occurrences -/

/-- Without its repeats, a list is in the order of the first occurrences. -/
theorem pairwise_eraseDups (names : List Text) :
    names.eraseDups.Pairwise fun first second => names.idxOf first < names.idxOf second := by
  induction names using List.reverseRecOn with
  | nil => exact List.Pairwise.nil
  | append_singleton names name ih =>
    have before : names.eraseDups.Pairwise fun first second =>
        (names ++ [name]).idxOf first < (names ++ [name]).idxOf second := by
      refine ih.imp_of_mem fun inFirst inSecond earlier => ?_
      rwa [List.idxOf_append_of_mem (List.mem_eraseDups.mp inFirst),
        List.idxOf_append_of_mem (List.mem_eraseDups.mp inSecond)]
    rw [List.eraseDups_append]
    by_cases known : name ∈ names
    · simpa [List.removeAll, known] using before
    · have single : ([name].removeAll names).eraseDups = [name] := by
        simp [List.removeAll, known, List.eraseDups_cons]
      rw [single, List.pairwise_append]
      refine ⟨before, List.pairwise_singleton _ _, fun first inFirst second isLast => ?_⟩
      rw [List.mem_singleton.mp isLast, List.idxOf_append_of_mem (List.mem_eraseDups.mp inFirst),
        List.idxOf_append_of_notMem known]
      exact Nat.lt_add_right _ (List.idxOf_lt_length_of_mem (List.mem_eraseDups.mp inFirst))

/-- **The imported names are passed on in the order of their first occurrence**, each one once, whatever
the layout of the imports and the lines between them. -/
theorem reexports_written {source : Source} {names : List Text}
    (holds : HoldsImports names source.lines) :
    (∀ name, name ∈ source.reexports ↔ name ∈ names) ∧
      source.reexports.Pairwise fun first second => names.idxOf first < names.idxOf second := by
  have read : source.reexports = names.eraseDups := by
    rw [Source.reexports, flatMap_importLists holds]
  rw [read]
  exact ⟨fun name => List.mem_eraseDups, pairwise_eraseDups names⟩

/-- A package with imports in each layout, with repeats, and with other lines between them. -/
def shapesPackage : Source :=
  ⟨"__init__.py".toList,
    ["from .widget import Widget, Circle as Round  # first (of, two)", "import os",
      "    from .indented import Hidden", "from ..flat.shapes import ( Square, ) # it's one",
      "from . import ( # \"several\"", "    Circle, Square as Box", "", "    , Widget,  # not (Oval",
      "    helpers) # the end"].map String.toList⟩

/-- The names that the package imports. -/
def shapesNames : List Text :=
  ["Widget", "Circle", "Square", "Circle", "Square", "Widget", "helpers"].map String.toList

theorem reexports_written_sample :
    (∀ name, name ∈ shapesPackage.reexports ↔ name ∈ shapesNames) ∧
      shapesPackage.reexports.Pairwise fun first second =>
        shapesNames.idxOf first < shapesNames.idxOf second := by
  have word {t : Text} (isIdentifier : IsIdentifier t) : IsItemWord t :=
    isItemWord_of_isName isIdentifier.isName
  have item (lead name tail : String) (isIdentifier : IsIdentifier name.toList)
      (blank : allBlank lead.toList = true ∧ allBlank tail.toList = true) :
      SpellsItems [name.toList] (lead.toList ++ (name.toList ++ tail.toList)) :=
    .item blank.1 (.plain (word isIdentifier)) blank.2
  have renamed (lead name other tail : String)
      (areIdentifiers : IsIdentifier name.toList ∧ IsIdentifier other.toList)
      (blank : allBlank lead.toList = true ∧ allBlank tail.toList = true) : SpellsItems [name.toList]
        (lead.toList ++ ((name.toList ++ ([' '] ++ ("as".toList ++ ([' '] ++ other.toList)))) ++ tail.toList)) :=
    .item blank.1 (.renamed (word areIdentifiers.1) ⟨by decide, by decide⟩ ⟨by decide, by decide⟩
      (word areIdentifiers.2)) blank.2
  have opening (path : String) (isPath : path.toList.all isModulePathChar = true) :
      IsOpening ("from".toList ++ ([' '] ++ '.' :: (path.toList ++ ([' '] ++ ("import".toList ++ [' ']))))) :=
    ⟨_, path.toList, _, _, isGap_space, List.all_eq_true.mp isPath, isGap_space, isGap_space, rfl⟩
  have passed {line : Line} (unread : relativeImport? line = none) : ¬ IsRelativeImport line := by
    rw [← isSome_relativeImport?_iff, unread]
    exact Bool.false_ne_true
  have blank {t : Text} (isBlank : allBlank t = true) : SpellsItems [] t := .blank isBlank
  have plain : WritesImport (["Widget".toList] ++ ["Circle".toList]) [shapesPackage.lines[0]] :=
    .plain (opening "widget" (by decide))
      (.comma (item "" "Widget" "" (by decide) (by decide))
        (renamed " " "Circle" "Round" "  " (by decide) (by decide))) (Or.inr ⟨_, rfl⟩)
  have enclosed : WritesImport (["Square".toList] ++ []) [shapesPackage.lines[3]] :=
    .enclosed (opening ".flat.shapes" (by decide))
      (.comma (item " " "Square" "" (by decide) (by decide))
        (blank (show allBlank [' '] = true by decide)))
      " # it's one".toList
  have rest : WritesRest ((["Circle".toList] ++ ["Square".toList]) ++
      ([] ++ (([] ++ (["Widget".toList] ++ [])) ++ ["helpers".toList]))) (shapesPackage.lines.drop 5) :=
    .more (.comma (item "    " "Circle" "" (by decide) (by decide))
      (renamed " " "Square" "Box" "" (by decide) (by decide))) (Or.inl rfl)
      (.more (blank (show allBlank [] = true by decide)) (Or.inl rfl)
        (.more (.comma (blank (show allBlank "    ".toList = true by decide))
            (.comma (item " " "Widget" "" (by decide) (by decide))
              (blank (show allBlank "  ".toList = true by decide)))) (Or.inr ⟨_, rfl⟩)
          (.last (item "    " "helpers" "" (by decide) (by decide)) " # the end".toList)))
  have spread : WritesImport ([] ++ _) (shapesPackage.lines.drop 4) :=
    .spread (opening "" (by decide)) (blank (show allBlank [' '] = true by decide))
      (Or.inr ⟨_, rfl⟩) rest
  have holds : HoldsImports shapesNames shapesPackage.lines :=
    .statement plain (.passed (passed (by decide)) (.passed (passed (by decide))
      (.statement enclosed (.statement spread .nil))))
  exact reexports_written holds

end ReferencePages
