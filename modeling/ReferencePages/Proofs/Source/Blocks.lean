/-
**Blocks and their tags are neat.**

The lines of a source hold no breaks. What the readers of documentation make of such lines is neat:

* `neat_read`, `neat_docBlockAt`, `neat_findTagged`: the lines of a block hold no breaks and no blanks
  at their ends, and the last of them is not empty, so the block is a tidy text (`DocBlock.Neat.tidy`);
* `DocLine.neat_read`, `Tags.neat_add`, `Tags.neat_ofLines`: the entries that the tags of a function's
  block make are lines, and what is left is tidy.
-/

import ReferencePages.Proofs.Text.Cuts
import ReferencePages.Source.DocBlock
import ReferencePages.Source.Tags

namespace ReferencePages

open Text

namespace Text

/-! ### Parts of a text -/

theorem trim_subset (t : Text) : trim t ⊆ t := fun _ member => mem_of_mem_trim member

/-- A line without blanks at its end. -/
theorem isLine_of_trimmed {line : Line} (unbroken : '\n' ∉ line) (trimmed : trimEnd line = line) :
    IsLine line := by
  by_cases empty : line = []
  · rw [empty]
    exact IsLine.nil
  · exact (endsWritten_of_trimEnd trimmed empty).isLine unbroken

end Text

/-! ### Blocks -/

namespace DocBlock

/-- Lines without breaks and without blanks at their ends, the last of them not empty. -/
structure Neat (block : DocBlock) : Prop where
  unbroken : ∀ line ∈ block.lines, '\n' ∉ line
  trimmed : ∀ line ∈ block.lines, trimEnd line = line
  written : block.lines.getLast? ≠ some []

theorem Neat.isLine {block : DocBlock} (neat : block.Neat) : ∀ line ∈ block.lines, IsLine line :=
  fun line member => isLine_of_trimmed (neat.unbroken line member) (neat.trimmed line member)

/-- **A neat block is a tidy text.** -/
theorem Neat.tidy {block : DocBlock} (neat : block.Neat) : Tidy block.text := by
  refine ⟨smooth_joinLines neat.isLine, ?_⟩
  unfold DocBlock.text
  cases ends : block.lines.getLast? with
  | none =>
    rw [List.getLast?_eq_none_iff.mp ends]
    rfl
  | some last =>
    have nonempty : last ≠ [] := by
      rintro rfl
      exact neat.written ends
    have trimmed := neat.trimmed last (List.mem_of_getLast? ends)
    exact trimEnd_of_endsWritten (endsWritten_joinLines ends (endsWritten_of_trimEnd trimmed nonempty))

theorem contentLine_spec (t : Text) :
    ∀ line ∈ contentLine (trim t), line ⊆ t ∧ trimEnd line = line ∧ line ≠ [] := by
  intro line member
  unfold contentLine at member
  split at member
  · exact absurd member List.not_mem_nil
  · rename_i written
    rw [List.mem_singleton.mp member]
    exact ⟨trim_subset t, trimEnd_trim t, by simpa using written⟩

theorem dedentLine_spec (width : Nat) (line : Line) :
    dedentLine width line ⊆ line ∧ trimEnd (dedentLine width line) = dedentLine width line := by
  unfold dedentLine
  split
  · exact ⟨List.nil_subset _, rfl⟩
  · exact ⟨fun c member => List.drop_subset _ _ (mem_of_mem_trimEnd member), trimEnd_trimEnd _⟩

theorem trimEmpty_subset (ls : List Line) : trimEmpty ls ⊆ ls := by
  intro line member
  have inRest := List.dropWhile_subset _ (List.mem_reverse.mp member)
  exact List.dropWhile_subset _ (List.mem_reverse.mp inRest)

theorem getLast?_trimEmpty (ls : List Line) : (trimEmpty ls).getLast? ≠ some [] := by
  unfold trimEmpty
  rw [List.getLast?_reverse]
  intro ends
  have stops := List.head?_dropWhile_not List.isEmpty (ls.dropWhile List.isEmpty).reverse
  rw [ends] at stops
  simp at stops

theorem untilClosed_unbroken {pos next : Nat} {ls body : List Line}
    (unbroken : ∀ line ∈ ls, '\n' ∉ line) (closed : untilClosed pos ls = some (body, next)) :
    ∀ line ∈ body, '\n' ∉ line := by
  induction ls generalizing pos body next with
  | nil => cases closed
  | cons first rest ih =>
    have here := unbroken first List.mem_cons_self
    rw [untilClosed] at closed
    split at closed
    · rename_i before after found
      rw [← (Prod.mk.inj (Option.some.inj closed)).1]
      intro line member
      split at member
      · exact absurd member List.not_mem_nil
      · rw [List.mem_singleton.mp member]
        exact fun inside => here (cut?_subset found inside)
    · obtain ⟨⟨inner, last⟩, foundInner, same⟩ := Option.map_eq_some_iff.mp closed
      rw [← (Prod.mk.inj same).1]
      intro line member
      rcases List.mem_cons.mp member with rfl | inInner
      · exact here
      · exact ih (fun other inside => unbroken other (List.mem_cons_of_mem _ inside)) foundInner line
          inInner

theorem readTag_subset (t : Text) : (readTag t).2 ⊆ t := by
  unfold readTag
  split
  · split
    · exact List.Subset.refl _
    · exact fun c member => List.mem_cons_of_mem _ (List.dropWhile_subset _ member)
  · exact List.Subset.refl _

/-- **A block that is read is neat.** -/
theorem neat_read {pos : Nat} {line : Line} {after : List Line} {block : DocBlock}
    (unbroken : '\n' ∉ line) (below : ∀ other ∈ after, '\n' ∉ other)
    (same : read pos line after = .ok block) : block.Neat := by
  have tail : (readTag ((trimStart line).drop sentinel.length)).2 ⊆ line := fun c member =>
    mem_of_mem_trimStart (List.drop_subset _ _ (readTag_subset _ member))
  unfold read at same
  simp only at same
  split at same
  · rename_i content _ found
    cases same
    have spec := contentLine_spec content
    refine ⟨fun other member inside => ?_, fun other member => (spec other member).2.1, fun ends => ?_⟩
    · exact unbroken (tail (cut?_subset found ((spec other member).1 inside)))
    · exact (spec [] (List.mem_of_getLast? ends)).2.2 rfl
  · split at same
    · rename_i body next closed
      cases same
      have bodyUnbroken := untilClosed_unbroken below closed
      have parts : ∀ other ∈ trimEmpty (contentLine (trim (readTag
          ((trimStart line).drop sentinel.length)).2) ++ dedent body),
            '\n' ∉ other ∧ trimEnd other = other := by
        intro other member
        rcases List.mem_append.mp (trimEmpty_subset _ member) with inFirst | inBody
        · have spec := contentLine_spec _ other inFirst
          exact ⟨fun inside => unbroken (tail (spec.1 inside)), spec.2.1⟩
        · obtain ⟨source, inSource, rfl⟩ := List.mem_map.mp inBody
          have spec := dedentLine_spec (commonMargin body) source
          exact ⟨fun inside => bodyUnbroken source inSource (spec.1 inside), spec.2⟩
      exact ⟨fun other member => (parts other member).1, fun other member => (parts other member).2,
        getLast?_trimEmpty _⟩
    · cases same

end DocBlock

theorem firstWritten_subset {pos : Nat} {ls : List Line} {found : WrittenLine}
    (same : firstWritten pos ls = some found) : found.text ∈ ls ∧ found.after ⊆ ls := by
  induction ls generalizing pos with
  | nil => cases same
  | cons line rest ih =>
    rw [firstWritten] at same
    split at same
    · have inRest := ih same
      exact ⟨List.mem_cons_of_mem _ inRest.1, fun other member =>
        List.mem_cons_of_mem _ (inRest.2 member)⟩
    · rw [← Option.some.inj same]
      exact ⟨List.mem_cons_self, List.subset_cons_self _ _⟩

theorem neat_docBlockAt {pos : Nat} {ls : List Line} {block : DocBlock}
    (unbroken : ∀ line ∈ ls, '\n' ∉ line) (same : docBlockAt pos ls = .ok (some block)) :
    block.Neat := by
  unfold docBlockAt at same
  split at same
  · cases same
  · rename_i found isFirst
    have inside := firstWritten_subset isFirst
    split at same
    · cases read : DocBlock.read found.line found.text found.after with
      | error error =>
        rw [read] at same
        cases same
      | ok other =>
        rw [read] at same
        cases same
        exact DocBlock.neat_read (unbroken _ inside.1)
          (fun line member => unbroken line (inside.2 member)) read
    · cases same

theorem neat_plainBlockAt {pos : Nat} {ls : List Line} {found : Option DocBlock}
    (unbroken : ∀ line ∈ ls, '\n' ∉ line) (same : plainBlockAt pos ls = .ok found) :
    ∀ block ∈ found, block.Neat := by
  unfold plainBlockAt at same
  cases read : docBlockAt pos ls with
  | error error =>
    rw [read] at same
    cases same
  | ok other =>
    rw [read] at same
    cases same
    intro block member
    obtain ⟨rfl, -⟩ := Option.filter_eq_some_iff.mp member
    exact neat_docBlockAt unbroken read

theorem neat_findTagged {tag : Text} {stop resume pos : Nat} {ls : List Line} {block : DocBlock}
    (unbroken : ∀ line ∈ ls, '\n' ∉ line)
    (same : findTaggedFrom tag stop resume pos ls = .ok (some block)) : block.Neat := by
  induction ls generalizing resume pos with
  | nil => cases same
  | cons line rest ih =>
    have below : ∀ other ∈ rest, '\n' ∉ other :=
      fun other member => unbroken other (List.mem_cons_of_mem _ member)
    rw [findTaggedFrom] at same
    split at same
    · cases same
    · split at same
      · exact ih below same
      · split at same
        · cases same
        · rename_i found read
          split at same
          · cases same
            exact DocBlock.neat_read (unbroken line List.mem_cons_self) below read
          · exact ih below same

/-! ### Tags -/

/-- What a line of a function's block is, on one line and without blanks at its end. -/
def DocLine.Neat : DocLine → Prop
  | .param name _ => '\n' ∉ name
  | .returns description => '\n' ∉ description ∧ trimEnd description = description
  | .continues text => '\n' ∉ text ∧ EndsWritten text
  | .body line => IsLine line

theorem neat_tagEntry? {line : Line} {entry : DocLine} (unbroken : '\n' ∉ line)
    (same : tagEntry? line = some entry) : entry.Neat := by
  unfold tagEntry? at same
  split at same
  · rename_i rest found
    cases same
    intro inside
    refine unbroken (after?_subset found ?_)
    have inName := trim_subset _ inside
    cases cut : cutAt? ':' rest with
    | none => rwa [cut] at inName
    | some pair =>
      rw [cut] at inName
      exact (cutAt?_subset cut).1 inName
  · obtain ⟨rest, found, rfl⟩ := Option.map_eq_some_iff.mp same
    refine ⟨fun inside => unbroken ?_, trimEnd_trim rest⟩
    rcases Option.or_eq_some_iff.mp found with first | ⟨-, second⟩
    · exact after?_subset first (trim_subset _ inside)
    · exact after?_subset second (trim_subset _ inside)

theorem DocLine.neat_read (target : TagTarget) {line : Line} (isLine : IsLine line) :
    (DocLine.read target line).Neat := by
  have unbroken : '\n' ∉ trim line := fun inside => isLine.unbroken (trim_subset _ inside)
  unfold DocLine.read
  split
  · rename_i entry same
    exact neat_tagEntry? unbroken same
  · split
    · rename_i continues
      simp only [isIndented, Bool.and_eq_true] at continues
      have written : trim line ≠ [] := by
        intro empty
        rw [allBlank_of_trim empty] at continues
        simp at continues
      exact ⟨unbroken, endsWritten_of_trimEnd (trimEnd_trim line) written⟩
    · exact isLine

namespace Tags

/-- Entries under way that are lines. -/
structure Progress.Neat (progress : Progress) : Prop where
  params : ∀ entry ∈ progress.params, '\n' ∉ entry.1
  returns : ∀ text ∈ progress.returns, '\n' ∉ text ∧ trimEnd text = text
  body : ∀ line ∈ progress.body, IsLine line

theorem appendWords_spec {description more : Text} (unbroken : '\n' ∉ description)
    (moreUnbroken : '\n' ∉ more) (written : EndsWritten more) :
    '\n' ∉ appendWords description more ∧
      trimEnd (appendWords description more) = appendWords description more := by
  unfold appendWords
  split
  · exact ⟨moreUnbroken, trimEnd_of_endsWritten written⟩
  · refine ⟨?_, trimEnd_of_endsWritten (written.append _)⟩
    simp [unbroken, moreUnbroken]

theorem neat_continueWith {progress : Progress} (neat : progress.Neat) {text : Text}
    (unbroken : '\n' ∉ text) (written : EndsWritten text) : (progress.continueWith text).Neat := by
  unfold Progress.continueWith
  split
  · rename_i name description rest _ same
    refine ⟨fun entry member => ?_, neat.returns, neat.body⟩
    have entries := neat.params
    rw [same] at entries
    rcases List.mem_cons.mp member with rfl | inRest
    · exact entries (name, description) List.mem_cons_self
    · exact entries entry (List.mem_cons_of_mem _ inRest)
  · refine ⟨neat.params, fun returns member => ?_, neat.body⟩
    obtain ⟨description, inside, rfl⟩ := Option.map_eq_some_iff.mp member
    exact appendWords_spec (neat.returns description inside).1 unbroken written
  · exact neat

/-- One more line keeps the entries neat. -/
theorem neat_add {progress : Progress} (neat : progress.Neat) {line : Line} (isLine : IsLine line) :
    (progress.add line).Neat := by
  have neatLine := DocLine.neat_read progress.target isLine
  unfold Progress.add
  simp only
  split
  · rename_i name description read
    rw [read] at neatLine
    refine ⟨fun entry member => ?_, neat.returns, neat.body⟩
    rcases List.mem_cons.mp member with rfl | inRest
    · exact neatLine
    · exact neat.params entry inRest
  · rename_i description read
    rw [read] at neatLine
    refine ⟨neat.params, fun returns member => ?_, neat.body⟩
    rw [← Option.some.inj member]
    exact neatLine
  · rename_i text read
    rw [read] at neatLine
    have continued := neat_continueWith neat neatLine.1 neatLine.2
    exact ⟨continued.params, continued.returns, continued.body⟩
  · rename_i other read
    rw [read] at neatLine
    refine ⟨neat.params, neat.returns, fun entry member => ?_⟩
    rcases List.mem_cons.mp member with rfl | inRest
    · exact neatLine
    · exact neat.body entry inRest

/-- Entries on one line each, and a tidy body. -/
structure Neat (tags : Tags) : Prop where
  params : ∀ entry ∈ tags.params, '\n' ∉ entry.1
  returns : ∀ text ∈ tags.returns, '\n' ∉ text ∧ trimEnd text = text
  body : Tidy tags.body

/-- **The tags in neat lines are neat.** -/
theorem neat_ofLines {ls : List Line} (clean : ∀ line ∈ ls, IsLine line) : (ofLines ls).Neat := by
  have run : ∀ (ls : List Line) (progress : Progress), (∀ line ∈ ls, IsLine line) →
      progress.Neat → (ls.foldl Progress.add progress).Neat := by
    intro ls
    induction ls with
    | nil => exact fun progress _ neat => neat
    | cons line rest ih =>
      intro progress clean neat
      exact ih _ (fun other member => clean other (List.mem_cons_of_mem _ member))
        (neat_add neat (clean line List.mem_cons_self))
  have start : Progress.Neat ⟨.body, [], none, []⟩ := ⟨by simp, by simp, by simp⟩
  have ended := run ls _ clean start
  refine ⟨fun entry member => ended.params entry (List.mem_reverse.mp member), ended.returns, ?_⟩
  exact tidy_trim (smooth_joinLines fun line member => ended.body line (List.mem_reverse.mp member))

end Tags

end ReferencePages
