/-
**A parameter text is nested as it was read.**

A signature is read line by line, with its comments, and handed on with its words one space apart. The
parameters are found by reading that text again from its start. Both readings say of each character how
deep in brackets and literals it stands (`signaturePlaces`, `Nesting.places`).

* `writtenPlaces_squeeze`: blanks aside, spacing leaves each character at its nesting;
* `Reading.places_kept`, `Reading.nesting_nextLine`: one line, and the space that stands for its end;
* `signatureFrom_places`: so do the lines of a signature;
* `Tally`: the signature reader with a count of the open brackets; `Reading.tally_step`,
  `tally_lines`: **a closing bracket always finds one to close**;
* `map_dense_splitTopFrom`: a text is cut at the separators among its places;
* `readSignature_nesting`: **the parameter text of a signature that is read holds its characters at the
  nesting that the signature has them at**; it leaves nothing open, closes nothing too many and holds no
  comment.
-/

import ReferencePages.Proofs.Declaration.Spacing
import ReferencePages.Proofs.Declaration.TopLevel

namespace ReferencePages.Declaration

open Text

/-! ### Characters and their nesting -/

namespace Nesting

/-- The characters of a text that starts at the given nesting, each with the nesting before it. -/
def places : Nesting → Text → List (Char × Nesting)
  | _, [] => []
  | nesting, c :: rest => (c, nesting) :: (nesting.step c).places rest

theorem places_append (nesting : Nesting) (first second : Text) :
    nesting.places (first ++ second) = nesting.places first ++ (nesting.after first).places second := by
  induction first generalizing nesting with
  | nil => rfl
  | cons c rest ih => exact congrArg ((c, nesting) :: ·) (ih (nesting.step c))

end Nesting

theorem mem_places_iff {t : Text} {c : Char} {nesting : Nesting} :
    (c, nesting) ∈ Nesting.initial.places t ↔ ∃ i, t[i]? = some c ∧ nestingAt t i = nesting := by
  unfold nestingAt
  generalize Nesting.initial = start
  induction t generalizing start with
  | nil => simp [Nesting.places]
  | cons d rest ih =>
    rw [Nesting.places, List.mem_cons, ih]
    constructor
    · rintro (here | ⟨i, isChar, isNesting⟩)
      · cases here
        exact ⟨0, rfl, rfl⟩
      · exact ⟨i + 1, isChar, isNesting⟩
    · rintro ⟨i, isChar, isNesting⟩
      cases i with
      | zero =>
        cases isChar
        cases isNesting
        exact Or.inl rfl
      | succ i => exact Or.inr ⟨i, isChar, isNesting⟩

/-- The characters among the places that are not blank. -/
def writtenPlaces (places : List (Char × Nesting)) : List (Char × Nesting) :=
  places.filter fun place => ! isBlank place.1

theorem writtenPlaces_append (first second : List (Char × Nesting)) :
    writtenPlaces (first ++ second) = writtenPlaces first ++ writtenPlaces second :=
  List.filter_append first second

theorem mem_writtenPlaces {place : Char × Nesting} {places : List (Char × Nesting)} :
    place ∈ writtenPlaces places ↔ place ∈ places ∧ isBlank place.1 = false := by
  rw [writtenPlaces, List.mem_filter, Bool.not_eq_true']

theorem writtenPlaces_cons_blank {c : Char} (blank : isBlank c = true) (nesting : Nesting)
    (rest : List (Char × Nesting)) : writtenPlaces ((c, nesting) :: rest) = writtenPlaces rest :=
  List.filter_cons_of_neg (by simp [blank])

theorem writtenPlaces_cons {c : Char} (notBlank : isBlank c = false) (nesting : Nesting)
    (rest : List (Char × Nesting)) :
    writtenPlaces ((c, nesting) :: rest) = (c, nesting) :: writtenPlaces rest :=
  List.filter_cons_of_pos (by simp [notBlank])

/-! ### Spacing -/

theorem writtenPlaces_blanks {t : Text} (blank : allBlank t = true) (nesting : Nesting) :
    writtenPlaces (nesting.places t) = [] := by
  induction t generalizing nesting with
  | nil => rfl
  | cons c rest ih =>
    obtain ⟨here, later⟩ := Bool.and_eq_true_iff.mp blank
    rw [Nesting.places, writtenPlaces_cons_blank here, ih later]

theorem writtenPlaces_oneSpaced {nesting : Nesting} (sound : nesting.Sound) (t : Text) :
    writtenPlaces (nesting.places (oneSpaced t)) = writtenPlaces (nesting.places t) := by
  fun_induction oneSpaced t generalizing nesting with
  | case1 => rfl
  | case2 c rest blank starts ih =>
    -- the blank that follows leaves the nesting as both of them
    rw [ih sound, Nesting.places, writtenPlaces_cons_blank blank, sound.step_blank blank]
    cases rest with
    | nil => cases starts
    | cons d more =>
      rw [Nesting.places, Nesting.places, writtenPlaces_cons_blank starts, writtenPlaces_cons_blank starts,
        sound.step_blank starts, sound.afterBlank.step_blank starts, Nesting.afterBlank_afterBlank]
  | case3 c rest blank later ih =>
    rw [Nesting.places, Nesting.places, writtenPlaces_cons_blank isBlank_space,
      writtenPlaces_cons_blank blank, sound.step_blank isBlank_space, sound.step_blank blank,
      ih sound.afterBlank]
  | case4 c rest notBlank ih =>
    have isWritten : isBlank c = false := by simpa using notBlank
    rw [Nesting.places, Nesting.places, writtenPlaces_cons isWritten, writtenPlaces_cons isWritten,
      ih (sound.step c)]

/-- **Spacing leaves each character at its nesting**, blanks aside. -/
theorem writtenPlaces_squeeze (t : Text) :
    writtenPlaces (Nesting.initial.places (squeeze t)) = writtenPlaces (Nesting.initial.places t) := by
  obtain ⟨lead, tail, leadBlank, tailBlank, split⟩ := exists_blanks_trim t
  have around : writtenPlaces (Nesting.initial.places t) =
      writtenPlaces (Nesting.initial.places (trim t)) := by
    conv_lhs => rw [split, Nesting.places_append, Nesting.places_append, writtenPlaces_append,
      writtenPlaces_append, writtenPlaces_blanks leadBlank, writtenPlaces_blanks tailBlank,
      List.nil_append, List.append_nil, Nesting.initial, after_blanks leadBlank]
    rfl
  rw [squeeze_eq_oneSpaced, writtenPlaces_oneSpaced Nesting.sound_initial, around]

theorem closed_squeeze {t : Text} (closed : Closed t) : Closed (squeeze t) := by
  rw [squeeze_eq_oneSpaced]
  exact closed_oneSpaced (closed_trim closed)

/-! ### The signature reader -/

namespace Reading

/-- The nesting inside the outer parentheses; nothing is open after them. -/
def nesting : Reading → Nesting
  | params inner => .code inner
  | literal inner quote => .literal inner quote
  | escaped inner quote => .escaped inner quote
  | comment inner => .code inner
  | past => .code 0
  | pastComment => .code 0
  | ended => .code 0

theorem nesting_eq {reading : Reading} {nesting : Nesting} (same : reading.nesting? = some nesting) :
    reading.nesting = nesting := by
  cases reading <;> cases same <;> rfl

theorem nesting_of_not_isOpen {reading : Reading} (past : reading.isOpen = false) :
    reading.nesting = .code 0 := by
  cases reading <;> first | rfl | cases past

/-- **One character**: what is kept is nested as it is read, and what is not kept changes nothing. -/
theorem nesting_step (reading : Reading) (c : Char) :
    (reading.step c).nesting = if reading.keeps c then reading.nesting.step c else reading.nesting := by
  cases inside : reading.nesting? with
  | some nesting =>
    rcases step_cases inside c with ⟨keeps, -, next⟩ | ⟨drops, isMark, -⟩ | ⟨closes, rfl, isPast⟩
    · rw [if_pos keeps, nesting_eq inside, nesting_eq next]
    · obtain ⟨isCode, isHash⟩ := Bool.and_eq_true_iff.mp isMark
      obtain rfl := beq_iff_eq.mp isHash
      cases reading with
      | params inner => rfl
      | literal inner quote => cases drops
      | escaped inner quote => cases drops
      | _ => cases inside
    · rw [isPast]
      simp [keeps, closes, Reading.nesting]
  | none =>
    cases reading with
    | comment inner => rfl
    | past =>
      have isPast : past.isOpen = false := rfl
      exact nesting_of_not_isOpen (kept_of_not_isOpen isPast [c]).2
    | pastComment => rfl
    | ended => rfl
    | _ => cases inside

theorem nesting_after (reading : Reading) (t : Text) :
    (reading.after t).nesting = reading.nesting.after (reading.kept t) := by
  induction t generalizing reading with
  | nil => rfl
  | cons c rest ih =>
    rw [after_cons, ih, nesting_step, kept]
    split <;> rfl

/-- **The end of a line** escapes nothing and ends comments: it is nested as the space in its place. -/
theorem nesting_nextLine {reading : Reading} (sound : reading.nesting.Sound) :
    reading.nextLine.nesting = reading.nesting.after (lineGap reading) := by
  have space := sound.step_blank isBlank_space
  cases reading with
  | params inner => exact space.symm
  | literal inner quote => exact space.symm
  | escaped inner quote => exact space.symm
  | comment inner => exact space.symm
  | past => rfl
  | pastComment => rfl
  | ended => rfl

/-- The characters of a line that belong to the parameter text, each with its nesting in the signature. -/
def places : Reading → Text → List (Char × Nesting)
  | _, [] => []
  | reading, c :: rest =>
    if reading.keeps c then (c, reading.nesting) :: (reading.step c).places rest
    else (reading.step c).places rest

/-- **What is kept of a line** is nested as the signature has it. -/
theorem places_kept (reading : Reading) (t : Text) :
    reading.nesting.places (reading.kept t) = reading.places t := by
  induction t generalizing reading with
  | nil => rfl
  | cons c rest ih =>
    rw [kept, places, ← ih, nesting_step]
    split <;> rfl

/-- Nothing that is kept closes a bracket that is not open, or starts a comment. -/
theorem places_admits (reading : Reading) (t : Text) {c : Char} {nesting : Nesting}
    (member : (c, nesting) ∈ reading.places t) :
    (isClosing c = true → nesting ≠ .code 0) ∧ (c = '#' → nesting.isCode = false) := by
  induction t generalizing reading with
  | nil => cases member
  | cons d rest ih =>
    rw [places] at member
    split at member
    · rename_i keeps
      rcases List.mem_cons.mp member with here | later
      · cases here
        cases reading with
        | params inner =>
          obtain ⟨notHash, notLast⟩ := Bool.and_eq_true_iff.mp keeps
          refine ⟨?_, fun isHash => absurd isHash (by simpa using notHash)⟩
          rintro closes isOuter
          cases isOuter
          simp [closes] at notLast
        | literal inner quote => exact ⟨fun _ => nofun, fun _ => rfl⟩
        | escaped inner quote => exact ⟨fun _ => nofun, fun _ => rfl⟩
        | _ => cases keeps
      · exact ih _ later
    · exact ih _ member

end Reading

/-- The characters of the lines of a signature that belong to its parameter text, each with its nesting
in the signature. -/
def signaturePlaces : Reading → List Line → List (Char × Nesting)
  | _, [] => []
  | reading, line :: rest =>
    reading.places line ++
      if reading.after line = .ended then [] else signaturePlaces (reading.after line).nextLine rest

theorem signaturePlaces_admits (reading : Reading) (ls : List Line) {c : Char} {nesting : Nesting}
    (member : (c, nesting) ∈ signaturePlaces reading ls) :
    (isClosing c = true → nesting ≠ .code 0) ∧ (c = '#' → nesting.isCode = false) := by
  induction ls generalizing reading with
  | nil => cases member
  | cons line rest ih =>
    rw [signaturePlaces] at member
    rcases List.mem_append.mp member with here | later
    · exact reading.places_admits line here
    · split at later
      · cases later
      · exact ih _ later

/-- **The lines of a signature** leave nothing open, and its raw parameter text is nested as they are. -/
theorem signatureFrom_places {reading : Reading} (sound : reading.nesting.Sound) {pos next : Nat}
    {ls : List Line} {raw : Text} (same : signatureFrom reading pos ls = some (raw, next)) :
    reading.nesting.after raw = .code 0 ∧
      writtenPlaces (reading.nesting.places raw) = writtenPlaces (signaturePlaces reading ls) := by
  -- the space that stands for the end of a line is blank, and takes the nesting on to the next one
  induction ls generalizing reading pos next raw with
  | nil => cases same
  | cons line rest ih =>
    have soundAfter : (reading.after line).nesting.Sound := by
      rw [Reading.nesting_after]
      exact sound.after _
    rw [signaturePlaces]
    by_cases ends : reading.after line = .ended
    · rw [signatureFrom_ended ends] at same
      cases same
      rw [← Reading.nesting_after, ends, if_pos rfl, List.append_nil, Reading.places_kept]
      exact ⟨rfl, rfl⟩
    · rw [signatureFrom_cons ends] at same
      obtain ⟨⟨more, last⟩, isMore, shown⟩ := Option.map_eq_some_iff.mp same
      cases shown
      have soundNext : (reading.after line).nextLine.nesting.Sound := by
        rw [Reading.nesting_nextLine soundAfter]
        exact soundAfter.after _
      obtain ⟨closes, samePlaces⟩ := ih soundNext isMore
      rw [Reading.nesting_nextLine soundAfter] at closes samePlaces
      rw [if_neg ends, writtenPlaces_append, Nesting.after_append, ← Reading.nesting_after,
        Nesting.after_append, closes, Nesting.places_append, ← Reading.nesting_after,
        Nesting.places_append, writtenPlaces_append, writtenPlaces_append, Reading.places_kept,
        writtenPlaces_blanks (allBlank_lineGap _), List.nil_append, samePlaces]
      exact ⟨rfl, rfl⟩

/-! ### Counting brackets -/

/-- The signature reader with its counters. -/
structure Tally where
  /-- The brackets that are open, the outer parenthesis among them. -/
  depth : Nat
  /-- What the literal under way was opened with. -/
  quote : Option Char := none
  /-- A backslash stands right before, in a literal of the same line. -/
  escaped : Bool := false
  /-- A comment hides the rest of the line. -/
  hidden : Bool := false
  /-- The outer parenthesis is closed. -/
  closed : Bool := false
  /-- The colon that ends the header is behind. -/
  ended : Bool := false
  deriving DecidableEq

namespace Tally

/-- The counters after one more character, unless it closes a bracket and none is open. -/
def step? (tally : Tally) (c : Char) : Option Tally :=
  if tally.ended || tally.hidden then some tally
  else if tally.closed then
    some (if c == ':' then { tally with ended := true }
      else if c == '#' then { tally with hidden := true }
      else tally)
  else
    match tally.quote with
    | some quote =>
      some (if tally.escaped then { tally with escaped := false }
        else if c == '\\' then { tally with escaped := true }
        else if c == quote then { tally with quote := none }
        else tally)
    | none =>
      if isQuote c then some { tally with quote := some c }
      else if isOpening c then some { tally with depth := tally.depth + 1 }
      else if isClosing c then
        match tally.depth with
        | 0 => none
        | fewer + 1 => some { tally with depth := fewer, closed := fewer == 0 }
      else if c == '#' then some { tally with hidden := true }
      else some tally

/-- The counters at the start of a new line. -/
def nextLine (tally : Tally) : Tally := { tally with escaped := false, hidden := false }

/-- The counters after the lines of a header, unless a bracket is closed where none is open. -/
def lines? : Tally → List Line → Option Tally
  | tally, [] => some tally
  | tally, line :: rest => do
    let last ← line.foldlM step? tally
    if last.ended then some last else last.nextLine.lines? rest

end Tally

namespace Reading

/-- The counters at a place of a header. -/
def tally : Reading → Tally
  | params inner => { depth := inner + 1 }
  | literal inner quote => { depth := inner + 1, quote := some quote }
  | escaped inner quote => { depth := inner + 1, quote := some quote, escaped := true }
  | comment inner => { depth := inner + 1, hidden := true }
  | past => { depth := 0, closed := true }
  | pastComment => { depth := 0, closed := true, hidden := true }
  | ended => { depth := 0, closed := true, ended := true }

/-- **A closing bracket finds one to close.** -/
theorem tally_step (reading : Reading) (c : Char) :
    reading.tally.step? c = some (reading.step c).tally := by
  cases reading with
  | params inner =>
    simp only [tally, Tally.step?, Reading.step, Bool.or_self, Bool.false_eq_true, if_false]
    split_ifs
    · rfl
    · rfl
    · cases inner <;> rfl
    · rfl
    · rfl
  | literal inner quote =>
    simp only [tally, Tally.step?, Reading.step, Bool.or_self, Bool.false_eq_true, if_false]
    split_ifs <;> rfl
  | escaped inner quote => rfl
  | comment inner => rfl
  | past =>
    simp only [tally, Tally.step?, Reading.step, Bool.or_self, Bool.false_eq_true, if_false, if_true]
    split_ifs <;> rfl
  | pastComment => rfl
  | ended => rfl

theorem tally_line (reading : Reading) (t : Text) :
    t.foldlM Tally.step? reading.tally = some (reading.after t).tally := by
  induction t generalizing reading with
  | nil => rfl
  | cons c rest ih =>
    rw [List.foldlM_cons, tally_step]
    exact ih (reading.step c)

theorem tally_nextLine (reading : Reading) : reading.tally.nextLine = reading.nextLine.tally := by
  cases reading <;> rfl

theorem ended_tally (reading : Reading) : reading.tally.ended = decide (reading = .ended) := by
  cases reading <;> rfl

/-- So does every closing bracket of a header that is read to its end. -/
theorem tally_lines {reading : Reading} {pos : Nat} {ls : List Line} {result : Text × Nat}
    (same : signatureFrom reading pos ls = some result) :
    reading.tally.lines? ls = some ended.tally := by
  induction ls generalizing reading pos result with
  | nil => cases same
  | cons line rest ih =>
    rw [Tally.lines?, tally_line, Option.bind_eq_bind, Option.bind_some, ended_tally]
    by_cases ends : reading.after line = .ended
    · rw [ends]
      rfl
    · rw [signatureFrom_cons ends] at same
      obtain ⟨below, isBelow, -⟩ := Option.map_eq_some_iff.mp same
      rw [if_neg (by simpa using ends), tally_nextLine]
      exact ih isBelow

end Reading

/-! ### Cuts among the places -/

/-- The characters of a text that are not blank. -/
def dense (t : Text) : Text := t.filter fun c => ! isBlank c

/-- **A text is cut at the separators among its places** that have nothing open before them. -/
theorem map_dense_splitTopFrom {separator : Char} (isMark : IsMark separator)
    (notBlank : isBlank separator = false) (nesting : Nesting) (t : Text) :
    (splitTopFrom separator nesting t).map dense =
      ((writtenPlaces (nesting.places t)).splitOnP (· == (separator, .code 0))).map (·.map Prod.fst) := by
  induction t generalizing nesting with
  | nil => rfl
  | cons c rest ih =>
    have below := ih (nesting.step c)
    obtain ⟨first, others, isParts⟩ :=
      List.exists_cons_of_ne_nil (splitTopFrom_ne_nil separator (nesting.step c) rest)
    rw [splitTopFrom_cons isMark, Nesting.places]
    by_cases isCut : c = separator ∧ nesting = .code 0
    · obtain ⟨rfl, rfl⟩ := isCut
      rw [if_pos ⟨rfl, rfl⟩, writtenPlaces_cons notBlank, List.splitOnP_cons_eq_if_modifyHead,
        if_pos (beq_self_eq_true _), List.map_cons, List.map_cons, below]
      rfl
    rw [if_neg isCut, isParts]
    rw [isParts] at below
    cases blank : isBlank c with
    | true =>
      have same : dense (c :: first) = dense first := List.filter_cons_of_neg (by simp [blank])
      rw [writtenPlaces_cons_blank blank, ← below, consFirst, List.map_cons, same, List.map_cons]
    | false =>
      have same : dense (c :: first) = c :: dense first := List.filter_cons_of_pos (by simp [blank])
      have other : ((c, nesting) == (separator, Nesting.code 0)) = false :=
        beq_false_of_ne fun isSeparator => isCut (Prod.mk.inj isSeparator)
      obtain ⟨head, tail, isPieces⟩ := List.exists_cons_of_ne_nil
        (List.splitOnP_ne_nil (· == (separator, Nesting.code 0))
          (writtenPlaces ((nesting.step c).places rest)))
      rw [isPieces] at below
      obtain ⟨isHead, isTail⟩ := List.cons.inj below
      rw [writtenPlaces_cons blank, List.splitOnP_cons_eq_if_modifyHead, if_neg (by simp [other]),
        isPieces, consFirst, List.map_cons, same, isHead, isTail]
      rfl

/-! ### Both readings -/

/-- **A parameter text is nested as the signature it was read from.** Every closing bracket of the header
finds one to close, down to the closing parenthesis. In the parameter text nothing is left open, no
bracket is closed that is not open, and a comment mark stands in literals only. Its characters, blanks
aside, are those of the signature, each at the nesting that it has there; so its parts are the
characters of the signature between the commas that have nothing open before them. -/
theorem readSignature_nesting {pos next : Nat} {name text params : Text} {below : List Line}
    (same : readSignature pos name text below = .ok (params, next)) :
    ({ depth := 1 } : Tally).lines? (text :: below) =
        some { depth := 0, closed := true, ended := true } ∧
      Closed params ∧
      (∀ i c, params[i]? = some c → isClosing c = true → nestingAt params i ≠ .code 0) ∧
      (∀ i, params[i]? = some '#' → (nestingAt params i).isCode = false) ∧
      writtenPlaces (Nesting.initial.places params) =
        writtenPlaces (signaturePlaces (.params 0) (text :: below)) ∧
      (splitTop ',' params).map dense =
        ((writtenPlaces (signaturePlaces (.params 0) (text :: below))).splitOnP
          (· == (',', .code 0))).map (·.map Prod.fst) := by
  unfold readSignature at same
  cases read : signatureFrom (.params 0) pos (text :: below) with
  | none =>
    rw [read] at same
    cases same
  | some result =>
    obtain ⟨raw, last⟩ := result
    rw [read] at same
    cases same
    have sound : (Reading.params 0).nesting.Sound := trivial
    obtain ⟨closed, samePlaces⟩ := signatureFrom_places sound read
    have places := (writtenPlaces_squeeze raw).trans samePlaces
    have admits : ∀ i c, (squeeze raw)[i]? = some c → isBlank c = false →
        (isClosing c = true → nestingAt (squeeze raw) i ≠ .code 0) ∧
          (c = '#' → (nestingAt (squeeze raw) i).isCode = false) := by
      intro i c isChar notBlank
      have member := mem_writtenPlaces.mpr ⟨mem_places_iff.mpr ⟨i, isChar, rfl⟩, notBlank⟩
      rw [places] at member
      exact signaturePlaces_admits _ _ (mem_writtenPlaces.mp member).1
    refine ⟨Reading.tally_lines read, closed_squeeze closed, fun i c isChar closes => ?_,
      fun i isHash => (admits i '#' isHash (by decide)).2 rfl, places, ?_⟩
    · have notBlank : isBlank c = false := by
        rw [Bool.eq_false_iff]
        intro blank
        exact absurd ((isMark_of_isBlank blank).notClosing.symm.trans closes) (by decide)
      exact (admits i c isChar notBlank).1 closes
    · rw [splitTop, map_dense_splitTopFrom isMark_comma (by decide), places]

/-- A signature over several lines, with a comment that holds a bracket, a literal that goes on after a
backslash at the end of its line, and a literal that holds a bracket. -/
def brokenSignature : List Line :=
  ["a=[1, # (".toList, "  '(\\".toList, "  ', ']'], b=\")\"".toList, ") -> int: # done".toList]

theorem readSignature_nesting_sample :
    readSignature 7 "area".toList "a=[1, # (".toList brokenSignature.tail =
        .ok ("a=[1, '(\\ ', ']'], b=\")\"".toList, 11) ∧
      Closed "a=[1, '(\\ ', ']'], b=\")\"".toList ∧
      nestingAt "a=[1, '(\\ ', ']'], b=\")\"".toList 16 ≠ .code 0 ∧
      ((writtenPlaces (signaturePlaces (.params 0) brokenSignature)).splitOnP
          (· == (',', .code 0))).map (·.map Prod.fst) =
        ["a=[1,'(\\',']']".toList, "b=\")\"".toList] := by
  have read : readSignature 7 "area".toList "a=[1, # (".toList brokenSignature.tail =
      .ok ("a=[1, '(\\ ', ']'], b=\")\"".toList, 11) := by
    decide +kernel
  obtain ⟨-, closed, closes, -, -, parts⟩ := readSignature_nesting read
  refine ⟨read, closed, closes 16 ']' (by decide) (by decide), ?_⟩
  exact parts.symm.trans (by decide +kernel)

end ReferencePages.Declaration
