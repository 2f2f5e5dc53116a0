/-
**Rows and their cells.**

The cells of a row stand between its pipes. A pipe behind an odd number of backslashes is escaped and
belongs to the text around it; every other pipe is free and ends a cell (`cellsOf`).

* `cellsOf_row`: a row is cut between the texts it is made of, and inside a text at its free pipes;
* `freePipes_cell`: what is shown for a text has a free pipe for each pipe that the text itself escapes:
  the backslash put before a pipe is escaped by one that stands there already;
* `record_rows`: **the row of a record is one line with one cell for each column of its table, and one
  more for each pipe that is free in the name or escaped in another text of the record**.
-/

import ReferencePages.Proofs.Declaration.Spacing
import ReferencePages.Proofs.Document.Paragraphs
import ReferencePages.Proofs.Source.Portions
import ReferencePages.Proofs.Source.Records
import ReferencePages.Source.ModuleVariable

namespace ReferencePages

open Text Declaration Document

namespace Markdown

/-! ### Free pipes and cells -/

/-- How many backslashes stand right before what follows `c`, when `slashes` stand right before `c`. -/
def slashesBehind (slashes : Nat) (c : Char) : Nat := if c = '\\' then slashes + 1 else 0

/-- A pipe behind that many backslashes is free. -/
def isFree (slashes : Nat) : Bool := slashes % 2 == 0

/-- The number of pipes in a text that stand behind a number of backslashes that satisfies `p`, where
`slashes` backslashes stand right before the text. -/
def pipesWhere (p : Nat → Bool) (slashes : Nat) : Text → Nat
  | [] => 0
  | c :: rest =>
    (if c = '|' ∧ p slashes then 1 else 0) + pipesWhere p (slashesBehind slashes c) rest

/-- The number of pipes in a text that are free. -/
def freePipes (t : Text) : Nat := pipesWhere isFree 0 t

/-- The number of pipes in a text that are escaped. -/
def escapedPipes (t : Text) : Nat := pipesWhere (! isFree ·) 0 t

/-- The pieces of a text between its free pipes, where `slashes` backslashes stand right before it. -/
def splitFreeFrom (slashes : Nat) : Text → List Text
  | [] => [[]]
  | c :: rest =>
    if c = '|' ∧ isFree slashes then [] :: splitFreeFrom 0 rest
    else consFirst c (splitFreeFrom (slashesBehind slashes c) rest)

/-- The cells of a row: the pieces between its free pipes, but those outside the first and the last. -/
def cellsOf (shown : Line) : List Text := (splitFreeFrom 0 shown).tail.dropLast

/-- An entry of a row as it stands between two pipes. -/
def padded (entry : Text) : Text := ' ' :: (entry ++ [' '])

/-! ### Pieces -/

theorem consFirst_append {parts : List Text} (nonempty : parts ≠ []) (c : Char) (more : List Text) :
    consFirst c (parts ++ more) = consFirst c parts ++ more := by
  obtain ⟨first, rest, rfl⟩ := List.exists_cons_of_ne_nil nonempty
  rfl

theorem splitFreeFrom_ne_nil (slashes : Nat) (t : Text) : splitFreeFrom slashes t ≠ [] := by
  cases t with
  | nil => exact List.cons_ne_nil _ _
  | cons c rest =>
    rw [splitFreeFrom]
    split
    · exact List.cons_ne_nil _ _
    · cases splitFreeFrom (slashesBehind slashes c) rest <;> exact List.cons_ne_nil _ _

/-- Every free pipe begins a piece. -/
theorem length_splitFreeFrom (slashes : Nat) (t : Text) :
    (splitFreeFrom slashes t).length = pipesWhere isFree slashes t + 1 := by
  induction t generalizing slashes with
  | nil => rfl
  | cons c rest ih =>
    rw [splitFreeFrom, pipesWhere]
    split
    · rename_i free
      have noSlash : slashesBehind slashes c = 0 := by simp [slashesBehind, free.1]
      rw [List.length_cons, ih, noSlash]
      omega
    · have same := ih (slashesBehind slashes c)
      obtain ⟨first, others, pieces⟩ :=
        List.exists_cons_of_ne_nil (splitFreeFrom_ne_nil (slashesBehind slashes c) rest)
      rw [pieces] at same ⊢
      rw [consFirst, List.length_cons, Nat.zero_add, ← same, List.length_cons]

theorem splitFreeFrom_eq_singleton {slashes : Nat} {t : Text} (free : pipesWhere isFree slashes t = 0) :
    splitFreeFrom slashes t = [t] := by
  induction t generalizing slashes with
  | nil => rfl
  | cons c rest ih =>
    rw [pipesWhere] at free
    have notFree : ¬ (c = '|' ∧ isFree slashes = true) := by
      intro here
      rw [if_pos here] at free
      omega
    rw [if_neg notFree, Nat.zero_add] at free
    rw [splitFreeFrom, if_neg notFree, ih free, consFirst]

/-- The pipe behind a space ends a piece, whatever stands before the space. -/
theorem splitFreeFrom_append_pipe (slashes : Nat) (t rest : Text) :
    splitFreeFrom slashes (t ++ ' ' :: '|' :: rest) =
      splitFreeFrom slashes (t ++ [' ']) ++ splitFreeFrom 0 rest := by
  induction t generalizing slashes with
  | nil => simp [splitFreeFrom, slashesBehind, isFree, consFirst]
  | cons c t ih =>
    rw [List.cons_append, List.cons_append, splitFreeFrom, splitFreeFrom]
    split
    · rw [ih, List.cons_append]
    · rw [ih, consFirst_append (splitFreeFrom_ne_nil _ _)]

/-- The texts of a row are cut apart from each other. -/
theorem splitFreeFrom_join (entries : List Text) (nonempty : entries ≠ []) :
    splitFreeFrom 0 (' ' :: (join [' ', '|', ' '] entries ++ [' ', '|'])) =
      entries.flatMap (splitFreeFrom 0 <| padded ·) ++ [[]] := by
  induction entries with
  | nil => exact absurd rfl nonempty
  | cons first rest ih =>
    have cut (more : Text) : splitFreeFrom 0 (' ' :: (first ++ ' ' :: '|' :: more)) =
        splitFreeFrom 0 (padded first) ++ splitFreeFrom 0 more :=
      splitFreeFrom_append_pipe 0 (' ' :: first) more
    by_cases alone : rest = []
    · subst alone
      rw [join, List.intercalate_singleton, cut, List.flatMap_singleton]
      rfl
    · have split : join [' ', '|', ' '] (first :: rest) ++ [' ', '|'] =
          first ++ ' ' :: '|' :: ' ' :: (join [' ', '|', ' '] rest ++ [' ', '|']) := by
        rw [join, List.intercalate_cons_of_ne_nil alone]
        simp [join]
      rw [split, cut, ih alone, List.flatMap_cons, List.append_assoc]

/-- **A row is cut between its texts, and inside a text at its free pipes.** -/
theorem cellsOf_row (entries : List Text) (nonempty : entries ≠ []) :
    cellsOf (row entries) = entries.flatMap (splitFreeFrom 0 <| padded ·) := by
  have opened : splitFreeFrom 0 (row entries) =
      [] :: splitFreeFrom 0 (' ' :: (join [' ', '|', ' '] entries ++ [' ', '|'])) := by
    simp [row, splitFreeFrom, isFree]
  rw [cellsOf, opened, List.tail_cons, splitFreeFrom_join entries nonempty, List.dropLast_concat]

/-! ### Counting pipes -/

/-- What stands behind a character that is neither a pipe nor a backslash does not see what is before. -/
theorem pipesWhere_append_cons (p : Nat → Bool) (slashes : Nat) (t : Text) {c : Char} (noPipe : c ≠ '|')
    (noSlash : c ≠ '\\') (rest : Text) :
    pipesWhere p slashes (t ++ c :: rest) = pipesWhere p slashes t + pipesWhere p 0 rest := by
  induction t generalizing slashes with
  | nil => simp [pipesWhere, slashesBehind, noPipe, noSlash]
  | cons d t ih => rw [List.cons_append, pipesWhere, pipesWhere, ih, Nat.add_assoc]

theorem freePipes_between {c : Char} (noPipe : c ≠ '|') (noSlash : c ≠ '\\') (t : Text) :
    freePipes (c :: (t ++ [c])) = freePipes t := by
  have first := pipesWhere_append_cons isFree 0 [] noPipe noSlash (t ++ [c])
  have last := pipesWhere_append_cons isFree 0 t noPipe noSlash []
  unfold freePipes
  rw [List.nil_append] at first
  rw [first, last]
  simp [pipesWhere]

theorem freePipes_padded (entry : Text) : freePipes (padded entry) = freePipes entry :=
  freePipes_between (by decide) (by decide) entry

theorem freePipes_code (t : Text) : freePipes (code t) = freePipes t :=
  freePipes_between (by decide) (by decide) t

theorem freePipes_of_not_mem {t : Text} (missing : '|' ∉ t) : freePipes t = 0 := by
  have none (slashes : Nat) : pipesWhere isFree slashes t = 0 := by
    induction t generalizing slashes with
    | nil => rfl
    | cons c rest ih =>
      rw [List.mem_cons, not_or] at missing
      rw [pipesWhere, if_neg fun free => missing.1 free.1.symm, ih missing.2]
  exact none 0

/-- A pipe with a backslash put before it stands behind one backslash more. -/
theorem pipesWhere_escapeChar (p : Nat → Bool) (slashes : Nat) (t : Text) :
    pipesWhere p slashes (escapeChar '|' t) = pipesWhere (fun n => p (n + 1)) slashes t := by
  induction t generalizing slashes with
  | nil => rfl
  | cons c rest ih =>
    have step : escapeChar '|' (c :: rest) =
        (if c == '|' then ['\\', c] else [c]) ++ escapeChar '|' rest := rfl
    rw [step, pipesWhere]
    by_cases isPipe : c = '|'
    · subst isPipe
      simp [pipesWhere, slashesBehind, ih]
    · simp [pipesWhere, isPipe, ih]

theorem pipesWhere_append_blank (p : Nat → Bool) (slashes : Nat) (t : Text) {c : Char}
    (blank : isBlank c = true) (rest : Text) :
    pipesWhere p slashes (t ++ c :: rest) = pipesWhere p slashes t + pipesWhere p 0 rest := by
  refine pipesWhere_append_cons p slashes t ?_ ?_ rest <;> rintro rfl <;> exact absurd blank (by decide)

theorem pipesWhere_cons_blank (p : Nat → Bool) (slashes : Nat) {c : Char} (blank : isBlank c = true)
    (rest : Text) : pipesWhere p slashes (c :: rest) = pipesWhere p 0 rest := by
  have cut := pipesWhere_append_blank p slashes [] blank rest
  rwa [List.nil_append, pipesWhere, Nat.zero_add] at cut

theorem pipesWhere_blanks_append (p : Nat → Bool) {blanks : Text} (blank : allBlank blanks = true)
    (rest : Text) : pipesWhere p 0 (blanks ++ rest) = pipesWhere p 0 rest := by
  induction blanks with
  | nil => rfl
  | cons c more ih =>
    rw [allBlank, List.all_cons, Bool.and_eq_true] at blank
    rw [List.cons_append, pipesWhere_cons_blank p _ blank.1, ih blank.2]

/-- Where a text opens with a blank, what stands before it does not count. -/
theorem pipesWhere_of_startsBlank (p : Nat → Bool) (slashes other : Nat) {t : Text}
    (starts : startsBlank t = true) : pipesWhere p slashes t = pipesWhere p other t := by
  cases t with
  | nil => cases starts
  | cons c rest => rw [pipesWhere_cons_blank p _ starts, pipesWhere_cons_blank p _ starts]

theorem pipesWhere_oneSpaced (p : Nat → Bool) (slashes : Nat) (t : Text) :
    pipesWhere p slashes (oneSpaced t) = pipesWhere p slashes t := by
  fun_induction oneSpaced t generalizing slashes with
  | case1 => rfl
  | case2 c rest blank starts ih =>
    rw [ih, pipesWhere_cons_blank p _ blank, pipesWhere_of_startsBlank p slashes 0 starts]
  | case3 c rest blank later ih =>
    rw [pipesWhere_cons_blank p _ isBlank_space, pipesWhere_cons_blank p _ blank, ih]
  | case4 c rest written ih => rw [pipesWhere, pipesWhere, ih]

theorem pipesWhere_trim (p : Nat → Bool) (t : Text) : pipesWhere p 0 (trim t) = pipesWhere p 0 t := by
  obtain ⟨lead, tail, leadBlank, tailBlank, split⟩ := exists_blanks_trim t
  conv_rhs => rw [split, pipesWhere_blanks_append p leadBlank]
  cases tail with
  | nil => rw [List.append_nil]
  | cons c more =>
    rw [allBlank, List.all_cons, Bool.and_eq_true] at tailBlank
    have none := pipesWhere_blanks_append p tailBlank.2 []
    rw [List.append_nil] at none
    rw [pipesWhere_append_blank p 0 _ tailBlank.1, none, pipesWhere, Nat.add_zero]

/-- **A text shown in a cell has a free pipe for each pipe that is escaped in the text.** -/
theorem freePipes_cell (t : Text) : freePipes (cell t) = escapedPipes t := by
  have odd : (fun slashes => isFree (slashes + 1)) = (! isFree ·) := by
    funext slashes
    rcases Nat.mod_two_eq_zero_or_one slashes with even | odd
    · simp [isFree, Nat.add_mod, even]
    · simp [isFree, Nat.add_mod, odd]
  rw [freePipes, cell, pipesWhere_escapeChar, odd, squeeze_eq_oneSpaced, pipesWhere_oneSpaced,
    pipesWhere_trim, escapedPipes]

/-! ### Rows of records -/

/-- What `count` gives for several texts together. -/
def total (count : Text → Nat) : List Text → Nat
  | [] => 0
  | t :: rest => count t + total count rest

/-- The pipes that end a cell too early when the texts are shown as cells. -/
def strayPipes (texts : List Text) : Nat := total escapedPipes texts

/-- The line `shown` is the row of a table with the given columns, its texts are `entries`, and
`stray` pipes in them end a cell too early. -/
structure IsRow (columns : List String) (entries : List Text) (stray : Nat) (shown : Line) : Prop where
  oneLine : lines shown = [shown]
  count : (cellsOf shown).length = columns.length + stray
  apart : stray = 0 → cellsOf shown = entries.map padded

theorem length_cellsOf_row {entries : List Text} (nonempty : entries ≠ []) :
    (cellsOf (row entries)).length = entries.length + total freePipes entries := by
  rw [cellsOf_row entries nonempty]
  clear nonempty
  induction entries with
  | nil => rfl
  | cons first rest ih =>
    rw [List.flatMap_cons, List.length_append, ih, length_splitFreeFrom, ← freePipes, freePipes_padded,
      total, List.length_cons]
    omega

theorem cellsOf_row_of_free {entries : List Text} (nonempty : entries ≠ [])
    (free : total freePipes entries = 0) : cellsOf (row entries) = entries.map padded := by
  rw [cellsOf_row entries nonempty]
  clear nonempty
  induction entries with
  | nil => rfl
  | cons first rest ih =>
    rw [total, Nat.add_eq_zero_iff] at free
    have noPipe : pipesWhere isFree 0 (padded first) = 0 := (freePipes_padded first).trans free.1
    rw [List.flatMap_cons, ih free.2, splitFreeFrom_eq_singleton noPipe, List.singleton_append, List.map_cons]

theorem isRow_row {columns : List String} {entries : List Text} (unbroken : ∀ entry ∈ entries, '\n' ∉ entry)
    (nonempty : entries ≠ []) (each : entries.length = columns.length) :
    IsRow columns entries (total freePipes entries) (row entries) := by
  have written := endsWritten_row entries
  refine ⟨?_, ?_, cellsOf_row_of_free nonempty⟩
  · exact lines_of_isLine (written.isLine (unbroken_row unbroken)) written.ne_nil
  · rw [length_cellsOf_row nonempty, each]

/-- The row of a variable or of a parameter. -/
theorem isRow_named {columns : List String} {name first second third : Text} (unbroken : '\n' ∉ name)
    (four : columns.length = 4) :
    IsRow columns [code name, cell first, cell second, cell third]
      (freePipes name + strayPipes [first, second, third])
      (row [code name, cell first, cell second, cell third]) := by
  have isRow : IsRow columns _ _ (row [code name, cell first, cell second, cell third]) :=
    isRow_row (by simp [unbroken_code unbroken, unbroken_cell]) (List.cons_ne_nil _ _) (by simp [four])
  simpa [freePipes_code, freePipes_cell, strayPipes, total] using isRow

/-- The row of a variable with a name. -/
theorem isRow_variable {columns : List String} {name first second third : Text} (isName : IsName name)
    (four : columns.length = 4) :
    IsRow columns [code name, cell first, cell second, cell third] (strayPipes [first, second, third])
      (row [code name, cell first, cell second, cell third]) := by
  have noPipe : freePipes name = 0 := freePipes_of_not_mem (isName.not_mem rfl)
  have isRow : IsRow columns _ _ (row [code name, cell first, cell second, cell third]) :=
    isRow_named isName.unbroken four
  rwa [noPipe, Nat.zero_add] at isRow

/-- The row of an enum value. -/
theorem isRow_enumRow {v : EnumValue} (isName : IsName v.name) :
    IsRow enumColumns [code v.name, code (cell v.value), cell v.description]
      (strayPipes [v.value, v.description]) (enumRow v) := by
  have isRow : IsRow enumColumns _ _ (row [code v.name, code (cell v.value), cell v.description]) :=
    isRow_row (by simp [unbroken_code, isName.unbroken, unbroken_cell]) (List.cons_ne_nil _ _) rfl
  have noPipe : freePipes v.name = 0 := freePipes_of_not_mem (isName.not_mem rfl)
  simpa [freePipes_code, freePipes_cell, strayPipes, total, noPipe, enumRow] using isRow

end Markdown

/-! ### Rows of what a source documents -/

open Markdown

theorem isName_of_mem_moduleVariables {source : Source} :
    ∀ v ∈ source.moduleVariables, IsName v.name := by
  have below (ls : List Line) (above : Line) : ∀ v ∈ moduleVariablesBelow above ls, IsName v.name := by
    induction ls generalizing above with
    | nil => exact fun v member => absurd member List.not_mem_nil
    | cons line rest ih =>
      intro v member
      rcases List.mem_append.mp member with here | later
      · obtain ⟨description, -, found⟩ := Option.bind_eq_some_iff.mp (Option.mem_toList.mp here)
        obtain ⟨assigned, isAssigned, found⟩ := Option.bind_eq_some_iff.mp found
        obtain ⟨value, -, found⟩ := Option.bind_eq_some_iff.mp found
        cases found
        exact isName_of_assignment? isAssigned
      · exact ih line v later
  unfold Source.moduleVariables
  split
  · exact fun v member => absurd member List.not_mem_nil
  · exact below _ _

/-- **The rows of what a source documents.** The row of a class variable, of an enum value, of a module
variable and of a documented parameter is one line. It has one cell for each column, and one more for
each pipe that is escaped in a type, a value or a description, and for each free pipe in the name of a
parameter; the other names hold none. -/
theorem record_rows (name text : Text) :
    (∀ start stop v next,
      (Source.ofText name text).findClassVariable start stop = .ok (some (v, next)) →
      IsRow variableColumns
        [code v.name, cell (v.declaredType.getD []), cell (v.value.getD []), cell v.description]
        (strayPipes [v.declaredType.getD [], v.value.getD [], v.description]) (variableRow v)) ∧
    (∀ start stop indent values, (Source.ofText name text).enumValues start stop indent = .ok values →
      ∀ v ∈ values, IsRow enumColumns [code v.name, code (cell v.value), cell v.description]
        (strayPipes [v.value, v.description]) (enumRow v)) ∧
    (∀ v ∈ (Source.ofText name text).moduleVariables,
      IsRow variableColumns [code v.name, cell v.declaredType, cell v.value, cell v.description]
        (strayPipes [v.declaredType, v.value, v.description]) (moduleVariableRow v)) ∧
    (∀ (className : Text) (header : FunctionHeader),
      (∀ block ∈ header.doc, ∀ line ∈ block.lines, '\n' ∉ line) →
      ∀ p ∈ (functionRecord className header).parameters,
        IsRow parameterColumns
          [code p.name, cell p.declaredType, cell (p.default.getD []), cell p.description]
          (freePipes p.name + strayPipes [p.declaredType, p.default.getD [], p.description])
          (parameterRow p)) := by
  have unbroken := Source.unbroken_ofText name text
  refine ⟨fun start stop v next found => ?classVariable, fun start stop indent values found v member => ?enumValue,
    fun v member => ?moduleVariable, fun className header clean p member => ?parameter⟩
  case classVariable =>
    exact isRow_variable (yields_findMember isName_of_classVariableOf? _ _ v next
      (unbroken.linesFrom start) found) rfl
  case enumValue =>
    obtain ⟨ls, -, rfl⟩ := map_eq_ok found
    exact isRow_enumRow (isName_of_mem_enumMembers indent ls v member)
  case moduleVariable => exact isRow_variable (isName_of_mem_moduleVariables v member) rfl
  case parameter =>
    obtain ⟨entry, inTags, rfl⟩ := List.mem_map.mp member
    obtain ⟨line, inLines, inLine⟩ := Tags.exists_subset_of_mem_params inTags
    refine isRow_named (fun broken => ?_) rfl
    cases documented : header.doc with
    | none =>
      rw [documented] at inLines
      exact List.not_mem_nil inLines
    | some block =>
      rw [documented] at inLines
      exact clean block documented line inLines (inLine broken)

/-- A variable whose value escapes a pipe, an enum value and a module variable with plain pipes. -/
def pipedText : Text :=
  ("class Mode(Enum):\n    A = 1|2  # One.\n    \"\"\":class_var Either.\"\"\"\n    either: int|str = \"a\\|b\"\n" ++
    "\n# Sep.\nSEP = \"|\"\n").toList

/-- A function whose block documents a parameter under a name with a pipe. -/
def pipedHeader : FunctionHeader where
  name := "pick".toList
  line := 0
  indent := 4
  isHidden := false
  markedStatic := false
  params := "self, a, b".toList
  doc := some ⟨none, [":param a|b: Either one.".toList], 1, 2⟩

theorem record_rows_sample :
    (∃ v next, (Source.ofText "a.py".toList pipedText).findClassVariable 1 7 = .ok (some (v, next)) ∧
      lines (variableRow v) = [variableRow v] ∧ (cellsOf (variableRow v)).length = 4 + 1) ∧
    (∃ values, (Source.ofText "a.py".toList pipedText).enumValues 1 4 4 = .ok values ∧
      values.map enumRow = ["| `A` | `1\\|2` | One. |".toList] ∧
      ∀ v ∈ values, (cellsOf (enumRow v)).length = 3) ∧
    (∀ v ∈ (Source.ofText "a.py".toList pipedText).moduleVariables,
      (cellsOf (moduleVariableRow v)).length = 4) ∧
    ∀ p ∈ (functionRecord "Mode".toList pipedHeader).parameters,
      (cellsOf (parameterRow p)).length = 4 + 1 := by
  obtain ⟨classVariable, enumValue, moduleVariable, parameter⟩ := record_rows "a.py".toList pipedText
  have foundVariable : (Source.ofText "a.py".toList pipedText).findClassVariable 1 7 =
      .ok (some (⟨"either".toList, some "int|str".toList, some "\"a\\|b\"".toList, "Either.".toList⟩, 4)) := by
    decide +kernel
  have foundValues : (Source.ofText "a.py".toList pipedText).enumValues 1 4 4 =
      .ok [⟨"A".toList, "1|2".toList, "One.".toList⟩] := by
    decide +kernel
  have oneLine : ∀ block ∈ pipedHeader.doc, ∀ line ∈ block.lines, '\n' ∉ line := by decide
  have shown := classVariable 1 7 _ _ foundVariable
  refine ⟨⟨_, _, foundVariable, shown.oneLine, shown.count.trans (by decide)⟩,
    ⟨_, foundValues, by decide, fun v member => ?_⟩, fun v member => ?_, fun p member => ?_⟩
  · refine (enumValue 1 4 4 _ foundValues v member).count.trans ?_
    rw [List.mem_singleton.mp member]
    decide
  · refine (moduleVariable v member).count.trans ?_
    have only : (Source.ofText "a.py".toList pipedText).moduleVariables =
        [⟨"SEP".toList, [], "\"|\"".toList, "Sep.".toList⟩] := by decide +kernel
    rw [only] at member
    rw [List.mem_singleton.mp member]
    decide
  · refine (parameter "Mode".toList pipedHeader oneLine p member).count.trans ?_
    have only : (functionRecord "Mode".toList pipedHeader).parameters =
        [⟨"a|b".toList, [], none, "Either one.".toList⟩] := by decide +kernel
    rw [only] at member
    rw [List.mem_singleton.mp member]
    decide

/-- **A pipe that is escaped in a value, and a pipe in the name of a parameter, end a cell**: both rows
have five cells below a header of four columns. -/
theorem piped_rows_split :
    (∃ v ∈ (Source.ofText "a.py".toList "# Either.\nSEP = \"a\\|b\"\n".toList).moduleVariables,
      moduleVariableRow v = "| `SEP` |  | \"a\\\\|b\" | Either. |".toList ∧
        (cellsOf (moduleVariableRow v)).length = 5) ∧
    (∃ p ∈ (functionRecord "Mode".toList pipedHeader).parameters,
      parameterRow p = "| `a|b` |  |  | Either one. |".toList ∧ (cellsOf (parameterRow p)).length = 5) ∧
    (cellsOf (row (variableColumns.map (·.toList)))).length = 4 ∧
    (cellsOf (row (parameterColumns.map (·.toList)))).length = 4 := by
  decide +kernel

end ReferencePages
