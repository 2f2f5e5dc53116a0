/-
**The outline of a text.**

The outline of a text lists its headings, level and title, as a table of contents does. The scan for
headings carries the open fence through the whole document, so a piece of a document has an outline
of its own only if it closes the fences that it opens (`Outlined`). Documents are trimmed where they
are put together; a piece is `Shown` when that takes nothing from its outline.

* `brokenLines`: what a text contributes to the lines of a document in which a break follows it;
* `outlined_heading`, `outlined_escapeText`, `Paragraph.outlined`: headings, prose and paragraphs;
* `Outlined.append`, `Shows.joinParagraphs`: **the outline of texts that are put together** is made of
  their outlines;
* `contents_break`: the table of contents of a document is its outline.
-/

import ReferencePages.Contents
import ReferencePages.Proofs.Document.Trimmed

namespace ReferencePages

open Text Markdown

namespace Document

/-! ### Texts before a break -/

/-- The lines of a text that a break follows. -/
def brokenLines (t : Text) : List Line := (t.splitOn '\n').map dropReturn

theorem lines_break (t : Text) : lines (t ++ ['\n']) = brokenLines t := by
  unfold lines
  rw [splitOn_concat_break]
  simp only [List.dropLast_concat, List.getLast?_concat, Option.toList_some]
  exact List.append_nil _

theorem splitOn_append_break (first second : Text) :
    (first ++ '\n' :: second).splitOn '\n' = first.splitOn '\n' ++ second.splitOn '\n' := by
  induction first with
  | nil =>
    rw [List.nil_append, splitOn_cons_break]
    rfl
  | cons c rest ih =>
    rw [List.cons_append]
    by_cases isBreak : c = '\n'
    · rw [isBreak, splitOn_cons_break, splitOn_cons_break, ih, List.cons_append]
    · obtain ⟨line, more, split⟩ := List.exists_cons_of_ne_nil (List.splitOn_ne_nil '\n' rest)
      rw [splitOn_cons isBreak, splitOn_cons isBreak, ih, split]
      rfl

theorem brokenLines_append (first second : Text) :
    brokenLines (first ++ '\n' :: second) = brokenLines first ++ brokenLines second := by
  unfold brokenLines
  rw [splitOn_append_break, List.map_append]

theorem brokenLines_joinLines {ls : List Line} (nonempty : ls ≠ [])
    (unbroken : ∀ line ∈ ls, '\n' ∉ line) : brokenLines (joinLines ls) = ls.map dropReturn := by
  unfold brokenLines
  rw [show (joinLines ls).splitOn '\n' = ls from List.splitOn_intercalate '\n' unbroken nonempty]

theorem brokenLines_of_unbroken {line : Line} (unbroken : '\n' ∉ line) :
    brokenLines line = [dropReturn line] := by
  have single := brokenLines_joinLines (List.cons_ne_nil line []) (by simpa using unbroken)
  rwa [joinLines_singleton] at single

theorem brokenLines_of_laid {t : Text} (laid : Laid t) (nonempty : lines t ≠ []) :
    brokenLines t = lines t := by
  have broken := brokenLines_joinLines nonempty fun line member => (laid.clean line member).unbroken
  rw [laid.joined] at broken
  rw [broken]
  refine (List.map_congr_left fun line member => ?_).trans (List.map_id _)
  exact dropReturn_of_isLine (laid.clean line member)

/-! ### Outlines -/

/-- A heading as a table of contents shows it. -/
def entryOfHeading (heading : Heading) : Nat × Text := (heading.level, unescape heading.text)

/-- The headings of lines whose first one stands where `fence` is open. -/
def headingsIn (fence : Option Fence) (ls : List Line) : List (Nat × Text) :=
  (markLines fence ls).filterMap fun line => line.heading.map entryOfHeading

theorem headingsIn_append (fence : Option Fence) (first second : List Line) :
    headingsIn fence (first ++ second) =
      headingsIn fence first ++ headingsIn (fenceAfterAll fence first) second := by
  unfold headingsIn
  rw [markLines_append, List.filterMap_append]

theorem headingsIn_eq_nil {fence : Option Fence} {ls : List Line}
    (unmarked : ∀ line ∈ markLines fence ls, line.heading = none) : headingsIn fence ls = [] := by
  refine List.filterMap_eq_nil_iff.mpr fun line member => ?_
  rw [unmarked line member]
  rfl

/-- The headings of a text, which closes its fences, in a document where a break follows it. -/
structure Outlined (t : Text) (outline : List (Nat × Text)) : Prop where
  headings : headingsIn none (brokenLines t) = outline
  closed : fenceAfterAll none (brokenLines t) = none

theorem Outlined.nil : Outlined [] [] := ⟨rfl, rfl⟩

/-- **Two texts with a break between them.** -/
theorem Outlined.append {first second : Text} {above below : List (Nat × Text)}
    (one : Outlined first above) (two : Outlined second below) :
    Outlined (first ++ '\n' :: second) (above ++ below) := by
  refine ⟨?_, ?_⟩
  · rw [brokenLines_append, headingsIn_append, one.closed, one.headings, two.headings]
  · rw [brokenLines_append, fenceAfterAll_append, one.closed, two.closed]

/-- Lines that hold no heading and close their fences. -/
theorem outlined_of_passage {t : Text} (laid : Laid t) (nonempty : lines t ≠ [])
    (passage : Passage (lines t)) : Outlined t [] := by
  have same := brokenLines_of_laid laid nonempty
  refine ⟨?_, ?_⟩
  · rw [same]
    exact headingsIn_eq_nil passage.unmarked
  · rw [same, passage.closed]

theorem Paragraph.outlined {t : Text} (paragraph : Paragraph t) : Outlined t [] :=
  outlined_of_passage paragraph.laid paragraph.nonempty paragraph.passage

/-! ### Prose -/

theorem head?_dropReturn {line : Line} {c : Char} (start : (dropReturn line).head? = some c) :
    line.head? = some c := by
  unfold dropReturn at start
  split at start
  · rename_i ends
    obtain ⟨before, rfl⟩ := List.getLast?_eq_some_iff.mp ends
    rw [List.dropLast_concat] at start
    rw [List.head?_append, start]
    rfl
  · exact start

/-- Escaped lines hold no heading, also when they lose the carriage returns at their ends. -/
theorem markLines_dropReturn_escapeLines (fence : Option Fence) (ls : List Line) :
    ∀ line ∈ markLines fence ((escapeLines fence ls).map dropReturn), line.heading = none := by
  induction ls generalizing fence with
  | nil => exact fun line member => absurd member List.not_mem_nil
  | cons first rest ih =>
    have marks : ∀ opened : Fence, opened.marks (dropReturn (escapeLine fence first)) =
        opened.marks (escapeLine fence first) := fun opened => marks_dropReturn opened _
    have opens : fenceOpened? (dropReturn (escapeLine fence first)) =
        fenceOpened? (escapeLine fence first) := fenceAfter_congr marks none
    rw [escapeLines, List.map_cons, markLines, fenceAfter_congr marks, fenceAfter_escapeLine]
    intro line member
    rcases List.mem_cons.mp member with rfl | later
    · show (if isProse fence (dropReturn (escapeLine fence first)) = true then _ else none) = none
      split
      · rename_i prose
        refine heading?_of_head? fun start => ?_
        have isHash := head?_dropReturn start
        unfold isProse at prose
        rw [opens] at prose
        -- A line of prose that starts with a hash has got a backslash before it.
        rcases escapeLine_eq fence first with same | escaped
        · rw [same] at isHash prose
          unfold escapeLine at same
          rw [if_pos] at same
          · exact absurd same (by simp)
          · rw [Bool.and_eq_true]
            exact ⟨prose, by simpa using isHash⟩
        · rw [escaped] at isHash
          cases isHash
      · rfl
    · exact ih _ line later

theorem unbroken_escapeLines {ls : List Line} (unbroken : ∀ line ∈ ls, '\n' ∉ line)
    (fence : Option Fence) : ∀ line ∈ escapeLines fence ls, '\n' ∉ line := by
  induction ls generalizing fence with
  | nil => exact fun line member => absurd member List.not_mem_nil
  | cons first rest ih =>
    intro line member
    rw [escapeLines] at member
    rcases List.mem_cons.mp member with rfl | later
    · have here := unbroken first List.mem_cons_self
      rcases escapeLine_eq fence first with same | escaped
      · rwa [same]
      · rw [escaped]
        simp [here]
    · exact ih (fun other inside => unbroken other (List.mem_cons_of_mem _ inside)) _ line later

/-- **Prose that closes its fences holds no heading.** -/
theorem outlined_escapeText {t : Text} (closed : ClosesFences t) : Outlined (escapeText t) [] := by
  unfold escapeText
  by_cases empty : escapeLines none (lines t) = []
  · rw [empty]
    exact Outlined.nil
  · have broken := brokenLines_joinLines empty
      (unbroken_escapeLines (fun line => not_mem_of_mem_lines) none)
    refine ⟨?_, ?_⟩
    · rw [broken]
      exact headingsIn_eq_nil (markLines_dropReturn_escapeLines none _)
    · rw [broken, fenceAfterAll_dropReturn, fenceAfterAll_escapeLines]
      exact closed

theorem endsWritten_escapeText_of_endsWritten {t : Text} (written : EndsWritten t) :
    EndsWritten (escapeText t) := by
  obtain ⟨last, ends, lastWritten⟩ := getLast?_splitOn written
  have lastLine : (lines t).getLast? = some last := by
    have shown : (! last.isEmpty) = true := by simpa using lastWritten.ne_nil
    unfold lines
    simp only [ends, Option.toList_some, List.filter_cons, shown, List.filter_nil]
    exact List.getLast?_concat
  rcases getLast?_escapeLines lastLine none with same | escaped
  · exact endsWritten_joinLines same lastWritten
  · exact endsWritten_joinLines escaped (lastWritten.append ['\\'])

/-! ### Headings -/

theorem trim_cons_space (t : Text) : trim (' ' :: t) = trim t := by
  unfold trim
  rw [show trimStart (' ' :: t) = trimStart t from List.dropWhile_cons_of_pos (by decide)]

theorem trim_trimEnd (t : Text) : trim (trimEnd t) = trim t := by
  induction t using List.reverseRecOn with
  | nil => rfl
  | append_singleton before c ih =>
    by_cases blank : isBlank c = true
    · rw [trimEnd_concat_blank before blank, trim_concat_blank before blank, ih]
    · rw [trimEnd_of_endsWritten ⟨before, c, rfl, by simpa using blank⟩]

theorem outlined_line {line : Line} (unbroken : '\n' ∉ line) {heading : Heading}
    (start : (dropReturn line).head? = some '#')
    (isHeading : heading? (dropReturn line) = some heading) :
    Outlined line [entryOfHeading heading] := by
  have broken := brokenLines_of_unbroken unbroken
  refine ⟨?_, ?_⟩
  · unfold headingsIn
    rw [broken, markLines_heading start isHeading]
    rfl
  · rw [broken, fenceAfterAll_heading start]
    rfl

section Heading

variable (level : Nat) (positive : 0 < level) (small : level ≤ maxLevel)

include positive small

theorem outlined_heading {t : Text} (unbroken : '\n' ∉ t) :
    Outlined (List.replicate level '#' ++ ' ' :: t) [(level, unescape (trim t))] := by
  have starts : ∀ u : Text, (List.replicate level '#' ++ ' ' :: u).head? = some '#' := by
    intro u
    rw [List.head?_append, List.head?_replicate, if_neg (by omega)]
    rfl
  have whole : '\n' ∉ List.replicate level '#' ++ ' ' :: t := by simp [unbroken]
  -- A carriage return at the end of the line belongs to the break.
  have dropped : ∃ u, dropReturn (List.replicate level '#' ++ ' ' :: t) =
      List.replicate level '#' ++ ' ' :: u ∧ trim u = trim t := by
    rcases List.eq_nil_or_concat' t with rfl | ⟨before, c, rfl⟩
    · refine ⟨[], ?_, rfl⟩
      unfold dropReturn
      rw [if_neg]
      rw [List.getLast?_concat]
      decide
    · unfold dropReturn
      rw [← List.cons_append, ← List.append_assoc, List.getLast?_concat]
      split
      · rename_i isReturn
        refine ⟨before, List.dropLast_concat, ?_⟩
        rw [Option.some.inj isReturn, trim_concat_blank before isBlank_return]
      · exact ⟨before ++ [c], by rw [List.append_assoc, List.cons_append], rfl⟩
  obtain ⟨u, same, trimmed⟩ := dropped
  have outlined := outlined_line whole (by rw [same]; exact starts u)
    (by rw [same]; exact heading?_replicate positive small u)
  unfold entryOfHeading at outlined
  rwa [trim_cons_space, trimmed] at outlined

theorem outlined_hashes : Outlined (List.replicate level '#') [(level, [])] := by
  have hashes : (List.replicate level '#').takeWhile (· == '#') = List.replicate level '#' := by
    rw [List.takeWhile_eq_self_iff]
    simp
  have isHeading : heading? (List.replicate level '#') = some ⟨level, []⟩ := by
    unfold heading?
    simp only [hashes, List.length_replicate]
    rw [if_neg (by simp; omega), List.drop_eq_nil_of_le (by simp)]
    rfl
  have same : dropReturn (List.replicate level '#') = List.replicate level '#' := by
    refine dropReturn_of_isLine ⟨by simp, fun ends => ?_⟩
    have inside := List.mem_of_getLast? ends
    simp at inside
  refine outlined_line (by simp) ?_ (same.symm ▸ isHeading)
  rw [same, List.head?_replicate, if_neg (by omega)]

end Heading

/-! ### Pieces that may be trimmed -/

/-- A text that is not blank and keeps its outline when it is trimmed. -/
structure Shown (t : Text) (outline : List (Nat × Text)) : Prop where
  whole : Outlined t outline
  trimmed : Outlined (trimEnd t) outline
  written : trimEnd t ≠ []

theorem Shown.trimEnd {t : Text} {outline : List (Nat × Text)} (shown : Shown t outline) :
    Shown (trimEnd t) outline := by
  refine ⟨shown.trimmed, ?_, ?_⟩
  · rw [trimEnd_trimEnd]
    exact shown.trimmed
  · rw [trimEnd_trimEnd]
    exact shown.written

theorem Shown.ne_nil {t : Text} {outline : List (Nat × Text)} (shown : Shown t outline) : t ≠ [] := by
  rintro rfl
  exact shown.written rfl

theorem Outlined.shown {t : Text} {outline : List (Nat × Text)} (outlined : Outlined t outline)
    (written : EndsWritten t) : Shown t outline := by
  have same := trimEnd_of_endsWritten written
  exact ⟨outlined, by rwa [same], by rw [same]; exact written.ne_nil⟩

/-- A text behind a break. -/
theorem Shown.below {first second : Text} {above below : List (Nat × Text)}
    (two : Shown second below) (one : Outlined first above) :
    Shown (first ++ '\n' :: second) (above ++ below) := by
  have same : Text.trimEnd (first ++ '\n' :: second) = first ++ '\n' :: Text.trimEnd second := by
    have trimmed := trimEnd_append (first ++ ['\n']) two.written
    simpa using trimmed
  refine ⟨one.append two.whole, ?_, by rw [same]; simp⟩
  rw [same]
  exact one.append two.trimmed

/-- A text behind an empty line. -/
theorem Shown.paragraph {first second : Text} {above below : List (Nat × Text)}
    (two : Shown second below) (one : Outlined first above) :
    Shown (first ++ '\n' :: '\n' :: second) (above ++ below) :=
  (two.below Outlined.nil).below one

/-- **A heading**, whatever blanks its title has around it. -/
theorem shown_heading (level : Nat) (positive : 0 < level) (small : level ≤ maxLevel) {t : Text}
    (unbroken : '\n' ∉ t) :
    Shown (List.replicate level '#' ++ ' ' :: t) [(level, unescape (trim t))] := by
  have hash : EndsWritten (List.replicate level '#') := by
    obtain ⟨fewer, rfl⟩ := Nat.exists_eq_succ_of_ne_zero (by omega : level ≠ 0)
    exact ⟨List.replicate fewer '#', '#', List.replicate_succ', by decide⟩
  have whole := outlined_heading level positive small unbroken
  by_cases blank : Text.trimEnd t = []
  · have noTitle : trim t = [] := by
      rw [← trim_trimEnd, blank]
      rfl
    have same : Text.trimEnd (List.replicate level '#' ++ ' ' :: t) = List.replicate level '#' := by
      have blanks : allBlank (' ' :: t) = true := (trimEnd_eq_nil_iff t).mp blank
      rw [trimEnd_append_blank _ blanks, trimEnd_of_endsWritten hash]
    refine ⟨whole, ?_, by rw [same]; exact hash.ne_nil⟩
    rw [same, noTitle]
    exact outlined_hashes level positive small
  · have same : Text.trimEnd (List.replicate level '#' ++ ' ' :: t) =
        List.replicate level '#' ++ ' ' :: Text.trimEnd t := by
      have trimmed := trimEnd_append (List.replicate level '#' ++ [' ']) blank
      simpa using trimmed
    refine ⟨whole, ?_, by rw [same]; simp⟩
    have outlined := outlined_heading level positive small
      fun inside : '\n' ∈ Text.trimEnd t => unbroken (mem_of_mem_trimEnd inside)
    rwa [trim_trimEnd, ← same] at outlined

/-- Pieces of a document with their outlines. -/
inductive Shows : List Text → List (Nat × Text) → Prop
  | nil : Shows [] []
  | cons {t : Text} {parts : List Text} {here below : List (Nat × Text)} (first : Shown t here)
      (rest : Shows parts below) : Shows (t :: parts) (here ++ below)

theorem Shows.eq_nil {outline : List (Nat × Text)} (shown : Shows [] outline) : outline = [] := by
  cases shown
  rfl

theorem Shows.append {first second : List Text} {above below : List (Nat × Text)}
    (one : Shows first above) (two : Shows second below) : Shows (first ++ second) (above ++ below) := by
  induction one with
  | nil => exact two
  | cons shown _ ih =>
    rw [List.cons_append, List.append_assoc]
    exact .cons shown ih

theorem Shows.single {t : Text} {outline : List (Nat × Text)} (shown : Shown t outline) :
    Shows [t] outline := by
  have one := Shows.cons shown .nil
  rwa [List.append_nil] at one

theorem Shows.flatMap {α : Type} {items : List α} {parts : α → List Text}
    {outline : α → List (Nat × Text)} (each : ∀ item ∈ items, Shows (parts item) (outline item)) :
    Shows (items.flatMap parts) (items.flatMap outline) := by
  induction items with
  | nil => exact .nil
  | cons item rest ih =>
    rw [List.flatMap_cons, List.flatMap_cons]
    exact (each item List.mem_cons_self).append
      (ih fun other member => each other (List.mem_cons_of_mem _ member))

theorem Shows.map {α : Type} {items : List α} {text : α → Text} {outline : α → List (Nat × Text)}
    (each : ∀ item ∈ items, Shown (text item) (outline item)) :
    Shows (items.map text) (items.flatMap outline) := by
  induction items with
  | nil => exact .nil
  | cons item rest ih =>
    rw [List.map_cons, List.flatMap_cons]
    exact .cons (each item List.mem_cons_self)
      (ih fun other member => each other (List.mem_cons_of_mem _ member))

/-- Pieces without headings. -/
theorem shows_of_plain {parts : List Text} (plain : ∀ part ∈ parts, Shown part []) :
    Shows parts [] := by
  induction parts with
  | nil => exact .nil
  | cons part rest ih =>
    exact .cons (plain part List.mem_cons_self)
      (ih fun other member => plain other (List.mem_cons_of_mem _ member))

/-- **Pieces with an empty line between each two of them.** -/
theorem Shows.joinParagraphs {parts : List Text} {outline : List (Nat × Text)}
    (pieces : Shows parts outline) (nonempty : parts ≠ []) :
    Shown (joinParagraphs parts) outline := by
  induction pieces with
  | nil => exact absurd rfl nonempty
  | @cons t parts here below first rest ih =>
    by_cases alone : parts = []
    · subst alone
      cases rest
      rw [joinParagraphs_singleton, List.append_nil]
      exact first
    · rw [joinParagraphs_cons t alone]
      exact (ih alone).paragraph first.whole

/-! ### Documents -/

/-- A document is made of paragraphs: its preamble, and each section below a rule. -/
theorem joinSections_eq (preamble : Text) (sections : List Text) :
    joinSections preamble sections =
      joinParagraphs (trimEnd preamble :: sections.flatMap fun s => [rule, trimEnd s]) ++ ['\n'] := by
  have separated : ∀ first : Text,
      joinParagraphs (first :: sections.flatMap fun s => [rule, trimEnd s]) =
        first ++ sections.flatMap fun s => "\n\n".toList ++ rule ++ "\n\n".toList ++ trimEnd s := by
    induction sections with
    | nil =>
      intro first
      rw [List.flatMap_nil, List.flatMap_nil, joinParagraphs_singleton, List.append_nil]
    | cons s rest ih =>
      intro first
      rw [List.flatMap_cons, List.flatMap_cons, List.cons_append, List.singleton_append,
        joinParagraphs_cons first (List.cons_ne_nil _ _), joinParagraphs_cons rule (List.cons_ne_nil _ _),
        ih]
      simp
  rw [separated]
  rfl

/-- Sections below a rule each. -/
theorem Shows.separated {sections : List Text} {outline : List (Nat × Text)}
    (shown : Shows sections outline) :
    Shows (sections.flatMap fun s => [rule, Text.trimEnd s]) outline := by
  have isRule : Shown rule [] := Outlined.shown ⟨by decide, by decide⟩ ⟨['*', '*'], '*', rfl, by decide⟩
  induction shown with
  | nil => exact .nil
  | cons first _ ih =>
    rw [List.flatMap_cons]
    have ruled := Shows.cons isRule (Shows.cons first.trimEnd ih)
    exact ruled

/-! ### Tables of contents -/

theorem map_contentsFrom (used : List Text) (found : List Heading) :
    (contentsFrom used found).map (fun entry => (entry.level, entry.title)) =
      found.map entryOfHeading := by
  induction found generalizing used with
  | nil => rfl
  | cons heading rest ih =>
    rw [contentsFrom, List.map_cons, ih, List.map_cons]
    rfl

theorem map_headingsFrom (pos : Nat) (ls : List MarkedLine) :
    (headingsFrom pos ls).map (·.1) = ls.filterMap (·.heading) := by
  induction ls generalizing pos with
  | nil => rfl
  | cons line rest ih =>
    rw [headingsFrom, List.map_append, ih, List.filterMap_cons]
    cases line.heading <;> rfl

/-- **The table of contents of a document is its outline.** -/
theorem contents_break {t : Text} {outline : List (Nat × Text)} (outlined : Outlined t outline) :
    (contents (t ++ ['\n'])).map (fun entry => (entry.level, entry.title)) = outline := by
  unfold contents headings marked
  rw [map_contentsFrom, map_headingsFrom, lines_break, List.map_filterMap]
  exact outlined.headings

end Document

end ReferencePages
