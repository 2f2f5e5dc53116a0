/-
**Blocks are read back whatever their indentation.**

A block is laid out with its sentinels on lines of their own and its content between them, all of it
behind one indentation. Its lines may be indented further among themselves, its blank lines may hold any
blanks.

* `IsContent`: the content that can be told from its layout;
* `untilClosed_written`: the lines up to the closing sentinel are the written ones;
* `dedent_written`: the least margin of the written lines is the indentation, so the content is left
  without it;
* `docBlockAt_written`: **the block is read with its content as it was before it was laid out**.
-/

import ReferencePages.Proofs.Source.Bounds

namespace ReferencePages

open Text

namespace DocBlock

/-! ### Layouts -/

/-- The lines of a block that can be told from its layout: none holds the sentinel or ends with a blank,
the outer ones are not empty, and some line is not indented among them. -/
structure IsContent (content : List Line) : Prop where
  unmarked : ∀ line ∈ content, holds sentinel line = false
  trimmed : ∀ line ∈ content, trimEnd line = line
  starts : content.head? ≠ some []
  ends : content.getLast? ≠ some []
  outermost : content ≠ [] → ∃ line ∈ content, ∃ c ∈ line.head?, isBlank c = false

/-- The line behind an indentation; an empty line is written as any blanks. -/
def WrittenAs (indent line written : Line) : Prop :=
  if line = [] then allBlank written = true else written = indent ++ line

instance (indent line written : Line) : Decidable (WrittenAs indent line written) :=
  inferInstanceAs (Decidable (if line = [] then allBlank written = true else written = indent ++ line))

variable {indent : Text} {content written : List Line}

theorem WrittenAs.cases {line text : Line} (isWritten : WrittenAs indent line text) :
    line = [] ∧ allBlank text = true ∨ line ≠ [] ∧ text = indent ++ line := by
  unfold WrittenAs at isWritten
  by_cases empty : line = []
  · rw [if_pos empty] at isWritten
    exact Or.inl ⟨empty, isWritten⟩
  · rw [if_neg empty] at isWritten
    exact Or.inr ⟨empty, isWritten⟩

/-- No sentinel stands in blanks. -/
theorem cut?_blanks_append {blanks : Text} (blank : allBlank blanks = true) (t : Text) :
    cut? sentinel (blanks ++ t) = (cut? sentinel t).map fun cut => (blanks ++ cut.1, cut.2) := by
  refine cut?_append (fun member => ?_) t
  exact absurd (List.all_eq_true.mp blank '"' member) (by decide)

/-- A line is written without the sentinel when it holds none. -/
theorem WrittenAs.unmarked {line text : Line} (isIndent : allBlank indent = true)
    (isWritten : WrittenAs indent line text) (unmarked : holds sentinel line = false) :
    cut? sentinel text = none := by
  rcases isWritten.cases with ⟨-, blank⟩ | ⟨-, isText⟩
  · have cut := cut?_blanks_append blank []
    rw [List.append_nil] at cut
    exact cut
  · rw [isText, cut?_blanks_append isIndent, Option.map_eq_none_iff]
    simpa [holds] using unmarked

/-- **A closed block** is read up to the line of its closing sentinel. -/
theorem untilClosed_written (isIndent : allBlank indent = true)
    (unmarked : ∀ line ∈ content, holds sentinel line = false)
    (isWritten : List.Forall₂ (WrittenAs indent) content written) {closing : Text}
    (isClosing : allBlank closing = true) (tail : Text) (below : List Line) (pos : Nat) :
    untilClosed pos (written ++ (closing ++ sentinel ++ tail) :: below) =
      some (written, pos + content.length + 1) := by
  induction isWritten generalizing pos with
  | nil =>
    have cut : cut? sentinel (closing ++ sentinel ++ tail) = some (closing, tail) := by
      rw [List.append_assoc, cut?_blanks_append isClosing]
      simp [sentinel, cut?, after?, List.isPrefixOf?]
    rw [List.nil_append, untilClosed, cut]
    simp only
    rw [if_pos isClosing]
    rfl
  | cons here _ ih =>
    obtain ⟨unmarked, later⟩ := List.forall_mem_cons.mp unmarked
    rw [List.cons_append, untilClosed, here.unmarked isIndent unmarked]
    simp only
    rw [ih later, Option.map_some, List.length_cons, Nat.add_right_comm pos 1, Nat.add_assoc pos]

/-! ### The margin -/

theorem margin_append (isIndent : allBlank indent = true) (line : Line) :
    margin (indent ++ line) = indent.length + margin line := by
  unfold margin
  rw [List.takeWhile_append_of_pos fun c member => List.all_eq_true.mp isIndent c member,
    List.length_append]

/-- A written line without the indentation is the line of the content. -/
theorem dedentLine_written {line text : Line} (trimmed : trimEnd line = line)
    (isWritten : WrittenAs indent line text) : dedentLine indent.length text = line := by
  unfold dedentLine
  rcases isWritten.cases with ⟨empty, blank⟩ | ⟨nonempty, isText⟩
  · rw [if_pos blank, empty]
  · have written : ¬ allBlank text = true := by
      rw [isText, allBlank, List.all_append, Bool.and_eq_true]
      rintro ⟨-, blank⟩
      exact nonempty (trimmed ▸ (trimEnd_eq_nil_iff line).mpr blank)
    rw [if_neg written, isText, List.drop_left, trimmed]

/-- No written line stands further out than the indentation. -/
theorem le_margin_of_written (isIndent : allBlank indent = true)
    (isWritten : List.Forall₂ (WrittenAs indent) content written) :
    ∀ text ∈ written, allBlank text = false → indent.length ≤ margin text := by
  induction isWritten with
  | nil => exact fun text member => absurd member List.not_mem_nil
  | cons here _ ih =>
    refine List.forall_mem_cons.mpr ⟨fun notBlank => ?_, ih⟩
    rcases here.cases with ⟨-, blank⟩ | ⟨-, isText⟩
    · rw [blank] at notBlank
      cases notBlank
    · rw [isText, margin_append isIndent]
      exact Nat.le_add_right _ _

/-- The outermost line of the content stands right behind it. -/
theorem exists_margin_of_written (isIndent : allBlank indent = true)
    (isWritten : List.Forall₂ (WrittenAs indent) content written)
    (outermost : ∃ line ∈ content, ∃ c ∈ line.head?, isBlank c = false) :
    ∃ text ∈ written, allBlank text = false ∧ margin text = indent.length := by
  obtain ⟨line, member, c, isHead, notBlank⟩ := outermost
  induction isWritten with
  | nil => exact absurd member List.not_mem_nil
  | cons here _ ih =>
    rcases List.mem_cons.mp member with rfl | member
    · obtain ⟨rest, rfl⟩ := List.head?_eq_some_iff.mp isHead
      obtain ⟨-, isText⟩ := here.cases.resolve_left fun blank => List.cons_ne_nil c rest blank.1
      refine ⟨_, List.mem_cons_self, ?_, ?_⟩
      · simp [isText, allBlank, notBlank]
      · rw [isText, margin_append isIndent, margin, List.takeWhile_cons_of_neg (by simp [notBlank])]
        rfl
    · obtain ⟨text, inRest, isMargin⟩ := ih member
      exact ⟨text, List.mem_cons_of_mem _ inRest, isMargin⟩

/-- **The common margin of the written lines** is the indentation. -/
theorem commonMargin_written (isContent : IsContent content) (nonempty : content ≠ [])
    (isIndent : allBlank indent = true) (isWritten : List.Forall₂ (WrittenAs indent) content written) :
    commonMargin written = indent.length := by
  have least := le_margin_of_written isIndent isWritten
  obtain ⟨text, member, notBlank, same⟩ :=
    exists_margin_of_written isIndent isWritten (isContent.outermost nonempty)
  unfold commonMargin
  rw [(List.min?_eq_some_iff (a := indent.length)).mpr ⟨?_, ?_⟩, Option.getD_some]
  · exact List.mem_map.mpr ⟨text, List.mem_filter.mpr ⟨member, by simp [notBlank]⟩, same⟩
  · intro width inside
    obtain ⟨other, isOther, rfl⟩ := List.mem_map.mp inside
    obtain ⟨inWritten, notBlank'⟩ := List.mem_filter.mp isOther
    exact least other inWritten (by simpa using notBlank')

theorem map_dedentLine_written (trimmed : ∀ line ∈ content, trimEnd line = line)
    (isWritten : List.Forall₂ (WrittenAs indent) content written) :
    written.map (dedentLine indent.length) = content := by
  induction isWritten with
  | nil => rfl
  | cons here _ ih =>
    obtain ⟨trimmed, later⟩ := List.forall_mem_cons.mp trimmed
    rw [List.map_cons, dedentLine_written trimmed here, ih later]

/-- **The written lines without their common margin** are the content. -/
theorem dedent_written (isContent : IsContent content) (isIndent : allBlank indent = true)
    (isWritten : List.Forall₂ (WrittenAs indent) content written) : dedent written = content := by
  by_cases empty : content = []
  · subst empty
    cases isWritten
    rfl
  · rw [dedent, commonMargin_written isContent empty isIndent isWritten,
      map_dedentLine_written isContent.trimmed isWritten]

/-! ### Reading -/

/-- Content without outer empty lines is left as it is. -/
theorem trimEmpty_content {ls : List Line} (starts : ls.head? ≠ some []) (ends : ls.getLast? ≠ some []) :
    trimEmpty ls = ls := by
  have whole : ∀ ls : List Line, ls.head? ≠ some [] → ls.dropWhile List.isEmpty = ls := by
    intro ls starts
    cases ls with
    | nil => rfl
    | cons first rest =>
      exact List.dropWhile_cons_of_neg fun empty =>
        starts (by rw [List.head?_cons, List.isEmpty_iff.mp empty])
  unfold trimEmpty
  rw [whole ls starts, whole ls.reverse (by rwa [List.head?_reverse]), List.reverse_reverse]

theorem trimStart_opening (isIndent : allBlank indent = true) :
    trimStart (indent ++ sentinel) = sentinel := by
  rw [trimStart, List.dropWhile_append_of_pos fun c member => List.all_eq_true.mp isIndent c member]
  rfl

/-- **A block that is laid out is read with its content.** -/
theorem read_written (isContent : IsContent content) (isIndent : allBlank indent = true)
    (isWritten : List.Forall₂ (WrittenAs indent) content written) {closing : Text}
    (isClosing : allBlank closing = true) (tail : Text) (below : List Line) (pos : Nat) :
    read pos (indent ++ sentinel) (written ++ (closing ++ sentinel ++ tail) :: below) =
      .ok ⟨none, content, pos, pos + content.length + 2⟩ := by
  have closes := untilClosed_written isIndent isContent.unmarked isWritten isClosing tail below (pos + 1)
  unfold read
  rw [trimStart_opening isIndent]
  have nothing : readTag (sentinel.drop sentinel.length) = (none, []) := rfl
  have notClosed : cut? sentinel [] = none := rfl
  rw [nothing]
  simp only
  rw [notClosed, closes]
  simp only
  rw [dedent_written isContent isIndent isWritten]
  have noHead : contentLine (trim []) = [] := rfl
  rw [noHead, List.nil_append, trimEmpty_content isContent.starts isContent.ends]
  congr 2
  omega

end DocBlock

theorem firstWritten_blanks {blanks : List Line} (blank : ∀ line ∈ blanks, allBlank line = true)
    {line : Line} (written : allBlank line = false) (pos : Nat) (below : List Line) :
    firstWritten pos (blanks ++ line :: below) = some ⟨pos + blanks.length, line, below⟩ := by
  induction blanks generalizing pos with
  | nil =>
    rw [List.nil_append, firstWritten, if_neg (by simp [written])]
    rfl
  | cons first rest ih =>
    obtain ⟨here, later⟩ := List.forall_mem_cons.mp blank
    rw [List.cons_append, firstWritten, if_pos here, ih later, List.length_cons,
      Nat.add_right_comm pos 1, Nat.add_assoc pos]

/-- **A block is read back whatever its indentation.** It may stand below any number of blank lines,
its blank lines may hold any blanks, and any text may follow its closing sentinel. -/
theorem Source.docBlockAt_written {source : Source} {above blanks content written below : List Line}
    {indent closing tail : Text} (isContent : DocBlock.IsContent content)
    (isIndent : allBlank indent = true) (isBlanks : ∀ line ∈ blanks, allBlank line = true)
    (isWritten : List.Forall₂ (DocBlock.WrittenAs indent) content written)
    (isClosing : allBlank closing = true)
    (isLines : source.lines = above ++ blanks ++ (indent ++ sentinel) ::
      (written ++ (closing ++ sentinel ++ tail) :: below)) :
    source.docBlockAt above.length = .ok (some
      { tag := none
        lines := content
        openLine := above.length + blanks.length
        next := above.length + blanks.length + content.length + 2 }) := by
  have isOpening : allBlank (indent ++ sentinel) = false := by
    simp [allBlank, sentinel, isBlank]
  have opens : opensBlock (indent ++ sentinel) = true := by
    rw [opensBlock, DocBlock.trimStart_opening isIndent]
    rfl
  unfold Source.docBlockAt ReferencePages.docBlockAt Source.linesFrom
  rw [isLines, List.append_assoc, List.drop_left, firstWritten_blanks isBlanks isOpening]
  simp only
  rw [if_pos opens, DocBlock.read_written isContent isIndent isWritten isClosing]
  rfl

/-- Content with lines further in than others, one of them behind a no-break space. -/
def stepsContent : List Line :=
  ["Steps:".toList, [], "  1. Mix.".toList, "\u00a0\u00a0\u00a0a) Stir.".toList, "Serve \"\" cold.".toList]

/-- The content behind an ideographic space and a tab, between other lines. -/
def stepsSource : Source where
  name := "a.py".toList
  lines := ["x = 1".toList, [], " \u2003".toList,
    "\u3000\t\"\"\"".toList,
    "\u3000\tSteps:".toList, "\t".toList, "\u3000\t  1. Mix.".toList,
    "\u3000\t\u00a0\u00a0\u00a0a) Stir.".toList, "\u3000\tServe \"\" cold.".toList,
    " \"\"\"\" # done".toList,
    "y = 2".toList]

theorem Source.docBlockAt_written_sample :
    DocBlock.IsContent stepsContent ∧
      stepsSource.docBlockAt 1 =
        .ok (some { tag := none, lines := stepsContent, openLine := 3, next := 10 }) := by
  have isContent : DocBlock.IsContent stepsContent :=
    ⟨by decide +kernel, by decide +kernel, by decide +kernel, by decide +kernel,
      fun _ => ⟨"Steps:".toList, List.mem_cons_self, 'S', rfl, by decide⟩⟩
  have isWritten : List.Forall₂ (DocBlock.WrittenAs "\u3000\t".toList) stepsContent
      ((stepsSource.lines.drop 4).take 5) :=
    .cons (by decide +kernel) (.cons (by decide +kernel) (.cons (by decide +kernel)
      (.cons (by decide +kernel) (.cons (by decide +kernel) .nil))))
  have isLines : stepsSource.lines = ["x = 1".toList] ++ [[], " \u2003".toList] ++
      ("\u3000\t".toList ++ sentinel) :: ((stepsSource.lines.drop 4).take 5 ++
        (" ".toList ++ sentinel ++ "\" # done".toList) :: ["y = 2".toList]) := by
    decide +kernel
  exact ⟨isContent, Source.docBlockAt_written isContent (by decide) (by decide) isWritten (by decide)
    isLines⟩

end ReferencePages
