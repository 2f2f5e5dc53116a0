/-
**Where a comment starts.**

The comment of a line starts at the first mark outside string literals. So it starts behind a text in
which every quote is closed and every mark stands in a literal:

* `Paired`: such a text; `Paired.splitComment_append`: nothing of it belongs to the comment;
* `Unmarked`: a text with neither quotes nor marks, which is paired (`Unmarked.paired`);
* `IsComment`: what may stand at the end of a line; `Paired.stripComment_append` cuts it off.
-/

import ReferencePages.Declaration.Comment
import ReferencePages.Proofs.Text.Ends

namespace ReferencePages.Declaration

open Text

/-! ### Paired texts -/

/-- Every quote is closed by the next one of its kind, and no comment mark stands outside the
literals. -/
inductive Paired : Text → Prop
  | nil : Paired []
  | plain {c : Char} {rest : Text} (noQuote : isQuote c = false) (noMark : c ≠ '#')
      (later : Paired rest) : Paired (c :: rest)
  | literal {quote : Char} {inner rest : Text} (opens : isQuote quote = true) (inside : quote ∉ inner)
      (later : Paired rest) : Paired (quote :: (inner ++ quote :: rest))

/-- A literal is passed over up to its closing quote. -/
theorem splitCommentFrom_literal {quote : Char} {inner : Text} (inside : quote ∉ inner) (rest : Text) :
    splitCommentFrom (some quote) (inner ++ quote :: rest) =
      (inner ++ quote :: (splitComment rest).1, (splitComment rest).2) := by
  induction inner with
  | nil => simp [splitCommentFrom, splitComment]
  | cons c inner ih =>
    obtain ⟨other, inside⟩ := List.ne_and_not_mem_of_not_mem_cons inside
    rw [List.cons_append, splitCommentFrom]
    simp [other.symm, ih inside]

/-- **No comment starts in a paired text**; what stands behind it is split on its own. -/
theorem Paired.splitComment_append {value : Text} (paired : Paired value) (rest : Text) :
    splitComment (value ++ rest) = (value ++ (splitComment rest).1, (splitComment rest).2) := by
  induction paired with
  | nil => rfl
  | @plain c value noQuote noMark _ ih =>
    unfold splitComment at ih ⊢
    rw [List.cons_append, splitCommentFrom]
    simp [noQuote, noMark, ih]
  | @literal quote inner value opens inside _ ih =>
    have noMark : quote ≠ '#' := by
      rintro rfl
      cases opens
    unfold splitComment at ih ⊢
    rw [List.cons_append, List.append_assoc, List.cons_append, splitCommentFrom]
    simp only [beq_iff_eq, if_neg noMark, opens, if_true]
    rw [splitCommentFrom_literal inside, splitComment, ih, List.cons_append, List.append_assoc,
      List.cons_append]

/-- The text holds neither a quote nor a comment mark. -/
def Unmarked (t : Text) : Prop := ∀ c ∈ t, isQuote c = false ∧ c ≠ '#'

theorem Unmarked.paired {t : Text} (unmarked : Unmarked t) : Paired t := by
  induction t with
  | nil => exact .nil
  | cons c rest ih =>
    obtain ⟨noQuote, noMark⟩ := unmarked c List.mem_cons_self
    exact .plain noQuote noMark (ih fun d member => unmarked d (List.mem_cons_of_mem _ member))

theorem unmarked_of_blank {t : Text} (blank : allBlank t = true) : Unmarked t := by
  intro c member
  have isBlank := List.all_eq_true.mp blank c member
  refine ⟨?_, ?_⟩
  · by_contra quote
    rw [Bool.not_eq_false, isQuote, Bool.or_eq_true, beq_iff_eq, beq_iff_eq] at quote
    rcases quote with rfl | rfl <;> cases isBlank
  · rintro rfl
    cases isBlank

/-! ### Comments -/

/-- Nothing, or a comment mark and any text behind it. -/
def IsComment (t : Text) : Prop := t = [] ∨ ∃ text, t = '#' :: text

/-- **A comment behind a paired text is cut off**, and nothing else is. -/
theorem Paired.stripComment_append {t comment : Text} (paired : Paired t)
    (isComment : IsComment comment) : stripComment (t ++ comment) = t := by
  unfold stripComment
  rw [paired.splitComment_append]
  rcases isComment with rfl | ⟨text, rfl⟩
  · exact List.append_nil t
  · exact List.append_nil t

end ReferencePages.Declaration
