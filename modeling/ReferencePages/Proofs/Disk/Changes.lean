/-
**What a change of a disk leaves alone.**

Where a path leads depends on the directories of a disk only, not on its files. So a file that is
written changes what stands at one place, and every path still leads where it led:

* `walk`: the directory that names lead to; idle names play no part in it (`walk_steps`);
* `place?_child`: where a name in a directory leads depends on the steps of the directory's path;
* `IsTree`: every entry lies in a directory. A path to a file of a tree ends with a proper name
  (`isProper_lastName`);
* `Grows`: a disk with directories more; files are found as before (`Grows.find?`);
* `AgreesOff names`: disks with the same directories that differ at most in files of some names. A
  path with another last name leads to the same entry (`AgreesOff.find?`), and **writing a file
  changes no other name** (`agreesOff_of_write`).
-/

import ReferencePages.Disk
import ReferencePages.Proofs.Disk.Paths

namespace ReferencePages.Disk

open Text ReferencePages.Path

variable {disk : Disk}

/-! ### Following names -/

/-- The directory that names lead to. -/
def walk (disk : Disk) (place : Location) (names : List Text) : Option Location :=
  (disk.follow place names).toOption.filter disk.isDirectory

/-- The place that a path starts from. -/
def start (disk : Disk) (path : Text) : Location := if isAbsolute path then [] else disk.here

/-- A name is followed from a directory, and from nothing else. -/
theorem toOption_follow_cons (place : Location) (name : Text) (rest : List Text) :
    (disk.follow place (name :: rest)).toOption =
      if disk.isDirectory place ∧ byteCount name ≤ nameLimit then
        (disk.follow (step place name) rest).toOption
      else none := by
  rw [follow]
  unfold isDirectory
  cases disk.entry? place with
  | none => rfl
  | some entry =>
    cases entry with
    | file content => rfl
    | directory =>
      by_cases long : nameLimit < byteCount name
      · rw [if_pos long, if_neg (by omega)]
        rfl
      · simp only [if_neg long, decide_true, true_and]
        rw [if_pos (by omega)]

theorem walk_nil (place : Location) :
    disk.walk place [] = if disk.isDirectory place then some place else none := by
  unfold walk
  rw [follow]
  exact Option.filter_some

theorem walk_cons (place : Location) (name : Text) (rest : List Text) :
    disk.walk place (name :: rest) =
      if disk.isDirectory place ∧ byteCount name ≤ nameLimit then disk.walk (step place name) rest
      else none := by
  unfold walk
  rw [toOption_follow_cons]
  split <;> rfl

theorem isDirectory_of_walk {place reached : Location} {names : List Text}
    (walked : disk.walk place names = some reached) : disk.isDirectory reached = true :=
  (Option.filter_eq_some_iff.mp walked).2

/-- Nothing is walked to from a place that is no directory. -/
theorem walk_of_not_isDirectory {place : Location} (names : List Text)
    (other : disk.isDirectory place = false) : disk.walk place names = none := by
  cases names with
  | nil => rw [walk_nil, if_neg (by rw [other]; decide)]
  | cons name rest =>
    rw [walk_cons, if_neg]
    rintro ⟨directory, -⟩
    rw [other] at directory
    cases directory

theorem step_of_isIdle {name : Text} (idle : isIdle name = true) (place : Location) :
    step place name = place ∧ byteCount name ≤ nameLimit := by
  unfold isIdle innerComponent? at idle
  by_cases short : (name.isEmpty || name = ['.']) = true
  · refine ⟨by rw [step, if_pos short], ?_⟩
    rcases Bool.or_eq_true_iff.mp short with empty | dot
    · rw [List.isEmpty_iff.mp empty]
      decide
    · rw [of_decide_eq_true dot]
      decide
  · rw [if_neg short] at idle
    split at idle <;> cases idle

/-- Idle names play no part on the way to a directory. -/
theorem walk_filter (place : Location) (names : List Text) :
    disk.walk place (names.filter (! isIdle ·)) = disk.walk place names := by
  induction names generalizing place with
  | nil => rfl
  | cons name rest ih =>
    by_cases idle : isIdle name = true
    · rw [List.filter_cons_of_neg (by simpa using idle), ih, walk_cons]
      obtain ⟨stays, short⟩ := step_of_isIdle idle place
      by_cases directory : disk.isDirectory place = true
      · rw [if_pos ⟨directory, short⟩, stays]
      · rw [if_neg fun both => directory both.1,
          walk_of_not_isDirectory rest (Bool.eq_false_iff.mpr directory)]
    · rw [List.filter_cons_of_pos (by simpa using idle), walk_cons, walk_cons, ih]

theorem walk_steps (place : Location) (path : Text) :
    disk.walk place (steps path) = disk.walk place (pieces path) :=
  walk_filter place (pieces path)

/-- The last name is followed from the directory that the others lead to. -/
theorem toOption_follow_concat (place : Location) (names : List Text) (last : Text) :
    (disk.follow place (names ++ [last])).toOption =
      (disk.walk place names).bind fun above =>
        if byteCount last ≤ nameLimit then some (step above last) else none := by
  induction names generalizing place with
  | nil =>
    rw [List.nil_append, toOption_follow_cons, walk_nil, follow]
    by_cases directory : disk.isDirectory place = true
    · simp only [directory, true_and, if_true]
      rfl
    · rw [if_neg fun both => directory both.1, if_neg directory]
      rfl
  | cons name rest ih =>
    rw [List.cons_append, toOption_follow_cons, walk_cons]
    split
    · exact ih _
    · rfl

/-! ### Places -/

theorem place?_eq (path : Text) :
    disk.place? path =
      if path = [] ∨ pathLimit < byteCount path then none
      else (disk.follow (disk.start path) (pieces path)).toOption := by
  unfold place? locate locateBy start
  by_cases empty : path = []
  · rw [if_pos (List.isEmpty_iff.mpr empty), if_pos (Or.inl empty)]
    rfl
  · rw [if_neg fun isEmpty => empty (List.isEmpty_iff.mp isEmpty)]
    by_cases long : pathLimit < byteCount path
    · rw [if_pos long, if_pos (Or.inr long)]
      rfl
    · rw [if_neg long, if_neg (not_or.mpr ⟨empty, long⟩)]

theorem step_of_isProper {name : Text} (proper : IsProper name) (place : Location) :
    step place name = place ++ [name] := by
  have short : ¬ (name.isEmpty || decide (name = ['.'])) = true := by
    intro short
    have moves := proper.moves
    unfold isIdle innerComponent? at moves
    rw [if_pos short] at moves
    cases moves
  rw [step, if_neg short, if_neg proper.inward]

/-- What a path leads to lies in the directory that its names but the last one lead to. -/
theorem exists_walk_of_place? {path : Text} {place : Location}
    (found : disk.place? path = some place) :
    ∃ above, disk.isDirectory above = true ∧ place = step above (lastName path) := by
  obtain ⟨before, split⟩ := exists_pieces_eq path
  rw [place?_eq, split, toOption_follow_concat] at found
  split at found
  · cases found
  · obtain ⟨above, walked, reached⟩ := Option.bind_eq_some_iff.mp found
    split at reached
    · exact ⟨above, isDirectory_of_walk walked, (Option.some.inj reached).symm⟩
    · cases reached

theorem getLast?_place {path : Text} {place : Location} (proper : IsProper (lastName path))
    (found : disk.place? path = some place) : place.getLast? = some (lastName path) := by
  obtain ⟨above, -, rfl⟩ := exists_walk_of_place? found
  rw [step_of_isProper proper, List.getLast?_concat]

/-- A path leads on from the directory that its steps but the last one lead to. -/
theorem place?_of_moves {path : Text} (moves : isIdle (lastName path) = false) :
    disk.place? path =
      if pathLimit < byteCount path then none
      else (disk.walk (disk.start path) (steps path).dropLast).bind fun above =>
        if byteCount (lastName path) ≤ nameLimit then some (step above (lastName path)) else none := by
  obtain ⟨before, split⟩ := exists_pieces_eq path
  have steps_eq : (steps path).dropLast = before.filter (! isIdle ·) := by
    rw [steps, split, List.filter_append, List.filter_cons_of_pos (by rw [moves]; rfl),
      List.filter_nil, List.dropLast_concat]
  have named : path ≠ [] := by
    rintro rfl
    cases moves
  rw [place?_eq, split, toOption_follow_concat, steps_eq, walk_filter]
  simp only [named, false_or]

/-- A name in a directory leads on from the directory that its steps lead to. -/
theorem place?_child (directory : Text) {name : Text} (proper : IsProper name) :
    disk.place? (child directory name) =
      if pathLimit < byteCount (child directory name) then none
      else (disk.walk (disk.start directory) (steps directory)).bind fun above =>
        if byteCount name ≤ nameLimit then some (above ++ [name]) else none := by
  have last := lastName_child directory proper.whole
  have start_eq : disk.start (child directory name) = disk.start directory := by
    unfold start
    rw [isAbsolute_child directory proper.whole]
  rw [place?_of_moves (by rw [last]; exact proper.moves), start_eq, steps_child directory proper,
    List.dropLast_concat, last]
  simp only [step_of_isProper proper]

/-- A directory is found along the steps of its path. -/
theorem filter_place? {path : Text} (short : byteCount path ≤ pathLimit) :
    (disk.place? path).filter disk.isDirectory =
      if path = [] then none else disk.walk (disk.start path) (steps path) := by
  rw [place?_eq, walk_steps]
  by_cases empty : path = []
  · rw [if_pos (Or.inl empty), if_pos empty]
    rfl
  · rw [if_neg (not_or.mpr ⟨empty, by omega⟩), if_neg empty]
    rfl

theorem directoryName?_eq (path : Text) :
    disk.directoryName? path =
      ((disk.place? path).filter disk.isDirectory).bind fun place => place.getLast? := by
  unfold directoryName?
  cases disk.place? path with
  | none => rfl
  | some place =>
    rw [Option.filter_some]
    change (if disk.isDirectory place then place.getLast? else none) = _
    cases disk.isDirectory place <;> rfl

section Same

variable {first second : Text}

theorem start_of_same (alike : same first second = true) : disk.start first = disk.start second := by
  unfold start
  rw [isAbsolute_of_same alike]

/-- A path that is spelled in two ways leads to one place, as long as both spellings are short enough
or both are too long. -/
theorem place?_of_same (moves : isIdle (lastName first) = false)
    (moves' : isIdle (lastName second) = false) (alike : same first second = true)
    (limits : pathLimit < byteCount first ↔ pathLimit < byteCount second) :
    disk.place? first = disk.place? second := by
  rw [place?_of_moves moves, place?_of_moves moves', start_of_same alike, steps_of_same alike,
    lastName_of_same moves moves' alike]
  simp only [limits]

/-- A name leads to one place from a directory that is spelled in two ways, as long as both paths are
short enough or both are too long. -/
theorem place?_child_of_same (alike : same first second = true) {name : Text} (proper : IsProper name)
    (limits : pathLimit < byteCount (child first name) ↔ pathLimit < byteCount (child second name)) :
    disk.place? (child first name) = disk.place? (child second name) := by
  rw [place?_child first proper, place?_child second proper, start_of_same alike,
    steps_of_same alike]
  by_cases long : pathLimit < byteCount (child first name)
  · rw [if_pos long, if_pos (limits.mp long)]
  · rw [if_neg long, if_neg fun long' => long (limits.mpr long')]

/-- A directory has one name, however it is spelled. -/
theorem directoryName?_of_same (alike : same first second = true)
    (short : byteCount first ≤ pathLimit) (short' : byteCount second ≤ pathLimit) :
    disk.directoryName? first = disk.directoryName? second := by
  rw [directoryName?_eq, directoryName?_eq, filter_place? short, filter_place? short',
    start_of_same alike, steps_of_same alike]
  simp only [eq_nil_iff_of_same alike]

end Same

/-! ### Trees -/

/-- Every entry lies in a directory. -/
def IsTree (disk : Disk) : Prop :=
  ∀ place, (disk.entry? place).isSome = true → disk.isDirectory place.dropLast = true

theorem isTree_iff :
    disk.IsTree ↔ ∀ entry ∈ disk.entries, disk.isDirectory entry.1.dropLast = true := by
  refine ⟨fun tree entry member => tree entry.1 ?_, fun above place stands => ?_⟩ <;>
    unfold entry? at *
  · split
    · rfl
    · exact List.lookup_isSome_iff.mpr ⟨entry, member, beq_self_eq_true _⟩
  · split at stands
    · rename_i root
      rw [List.isEmpty_iff.mp root]
      rfl
    · obtain ⟨entry, member, key⟩ := List.lookup_isSome_iff.mp stands
      rw [eq_of_beq key]
      exact above entry member

instance : Decidable disk.IsTree := decidable_of_iff _ isTree_iff.symm

/-- Where a path to a file leads is not the directory that it passes through last. -/
theorem exists_above_of_file {path : Text} {content : Option Text}
    (found : disk.find? path = some (.file content)) :
    ∃ above, disk.isDirectory above = true ∧ disk.isDirectory (step above (lastName path)) = false := by
  obtain ⟨place, located, stands⟩ := Option.bind_eq_some_iff.mp found
  obtain ⟨above, directory, rfl⟩ := exists_walk_of_place? located
  refine ⟨above, directory, decide_eq_false ?_⟩
  rw [stands]
  exact fun alike => by cases alike

/-- A path to a file ends with a name that makes a step: an idle name stays in a directory. -/
theorem moves_of_file {path : Text} {content : Option Text}
    (found : disk.find? path = some (.file content)) : isIdle (lastName path) = false := by
  obtain ⟨above, directory, other⟩ := exists_above_of_file found
  refine Bool.eq_false_iff.mpr fun idle => ?_
  rw [(step_of_isIdle idle above).1, directory] at other
  cases other

/-- A path that leads somewhere is not too long. -/
theorem short_of_find? {path : Text} {entry : DiskEntry} (found : disk.find? path = some entry) :
    byteCount path ≤ pathLimit := by
  obtain ⟨place, located, -⟩ := Option.bind_eq_some_iff.mp found
  rw [place?_eq] at located
  split at located
  · cases located
  · rename_i fine
    exact Nat.le_of_not_lt fun long => fine (Or.inr long)

/-- A path to a file of a tree ends with a proper name: the way up leads to a directory, too. -/
theorem isProper_lastName (tree : disk.IsTree) {path : Text} {content : Option Text}
    (found : disk.find? path = some (.file content)) : IsProper (lastName path) := by
  obtain ⟨above, directory, other⟩ := exists_above_of_file found
  refine ⟨lastName_whole path, moves_of_file found, fun up => ?_⟩
  rw [up] at other
  refine absurd (tree above ?_) (Bool.eq_false_iff.mp other)
  rw [of_decide_eq_true directory]
  rfl

/-! ### Disks with more on them -/

/-- The second disk holds all that the first one holds, where it stood. -/
structure Grows (before after : Disk) : Prop where
  here : before.here = after.here
  entries : ∀ {place entry}, before.entry? place = some entry → after.entry? place = some entry

theorem Grows.refl (disk : Disk) : Grows disk disk := ⟨rfl, id⟩

theorem Grows.trans {first second third : Disk} (one : Grows first second)
    (two : Grows second third) : Grows first third :=
  ⟨one.here.trans two.here, fun stands => two.entries (one.entries stands)⟩

section

variable {before after : Disk}

theorem Grows.follow (grows : Grows before after) {place reached : Location} {names : List Text}
    (followed : before.follow place names = .ok reached) :
    after.follow place names = .ok reached := by
  induction names generalizing place with
  | nil => exact followed
  | cons name rest ih =>
    rw [Disk.follow] at followed ⊢
    cases stands : before.entry? place with
    | none =>
      rw [stands] at followed
      cases followed
    | some entry =>
      rw [stands] at followed
      rw [grows.entries stands]
      cases entry with
      | file content => cases followed
      | directory =>
        simp only at followed ⊢
        split at followed
        · cases followed
        · rw [if_neg ‹_›]
          exact ih followed

/-- What is found on a disk is found when more stands on it. -/
theorem Grows.find? (grows : Grows before after) {path : Text} {entry : DiskEntry}
    (found : before.find? path = some entry) : after.find? path = some entry := by
  obtain ⟨place, located, stands⟩ := Option.bind_eq_some_iff.mp found
  refine Option.bind_eq_some_iff.mpr ⟨place, ?_, grows.entries stands⟩
  rw [place?_eq] at located ⊢
  split at located
  · cases located
  · rw [if_neg ‹_›]
    unfold start at located ⊢
    rw [← grows.here]
    cases followed : before.follow (if isAbsolute path then [] else before.here) (pieces path) with
    | error error =>
      rw [followed] at located
      cases located
    | ok reached =>
      rw [followed] at located
      rw [grows.follow followed]
      exact located

end

theorem lookup_filter_ne {place other : Location} (apart : other ≠ place)
    (entries : List (Location × DiskEntry)) :
    (entries.filter (·.1 ≠ place)).lookup other = entries.lookup other := by
  induction entries with
  | nil => rfl
  | cons first rest ih =>
    obtain ⟨key, entry⟩ := first
    by_cases hit : key = place
    · have miss : (other == key) = false := beq_false_of_ne (by rwa [hit])
      rw [List.filter_cons_of_neg (by simpa using hit), ih, List.lookup_cons, miss]
    · rw [List.filter_cons_of_pos (by simpa using hit), List.lookup_cons, List.lookup_cons, ih]

theorem stands_put {place : Location} (named : place ≠ []) (entry : DiskEntry) (other : Location) :
    Disk.entry? (disk.put place entry) other =
      if other = place then some entry else disk.entry? other := by
  unfold entry? put
  by_cases root : other = []
  · subst root
    rw [if_pos List.isEmpty_nil, if_pos List.isEmpty_nil, if_neg named.symm]
  · rw [if_neg fun empty => root (List.isEmpty_iff.mp empty),
      if_neg fun empty => root (List.isEmpty_iff.mp empty)]
    by_cases same : other = place
    · rw [if_pos same, same, List.lookup_cons_self]
    · rw [if_neg same, List.lookup_cons, beq_false_of_ne same]
      exact lookup_filter_ne same disk.entries

/-- A directory that is made is all that a disk gains. -/
theorem grows_of_makeDirectory {path : Text} {made : Disk}
    (makes : disk.makeDirectory path = .ok made) : Grows disk made := by
  unfold makeDirectory at makes
  simp only at makes
  cases located : disk.locateBy path ((pieces path).reverse.dropWhile List.isEmpty).reverse with
  | error error =>
    rw [located] at makes
    cases makes
  | ok place =>
    rw [located] at makes
    change (if (disk.entry? place).isSome then .error PathError.blocked
      else .ok (disk.put place .directory)) = Except.ok made at makes
    split at makes
    · cases makes
    · obtain rfl := Except.ok.inj makes
      have free : disk.entry? place = none := Option.not_isSome_iff_eq_none.mp ‹_›
      have named : place ≠ [] := by
        rintro rfl
        cases free
      refine ⟨rfl, fun {other entry} stands => ?_⟩
      rw [stands_put named, if_neg, stands]
      rintro rfl
      rw [free] at stands
      cases stands

/-! ### Disks that differ in some files -/

/-- The disks have the same directories and differ at most in files of the given names. -/
structure AgreesOff (names : List Text) (first second : Disk) : Prop where
  here : first.here = second.here
  directories : ∀ place, first.isDirectory place = second.isDirectory place
  entries : ∀ place, (∀ name ∈ names, place.getLast? ≠ some name) →
    first.entry? place = second.entry? place

theorem AgreesOff.refl (names : List Text) (disk : Disk) : AgreesOff names disk disk :=
  ⟨rfl, fun _ => rfl, fun _ _ => rfl⟩

section

variable {names more : List Text} {first second third : Disk}

theorem AgreesOff.trans (one : AgreesOff names first second) (two : AgreesOff more second third) :
    AgreesOff (names ++ more) first third := by
  refine ⟨one.here.trans two.here, fun place => (one.directories place).trans (two.directories place),
    fun place other => ?_⟩
  rw [one.entries place fun name member => other name (List.mem_append_left _ member),
    two.entries place fun name member => other name (List.mem_append_right _ member)]

theorem AgreesOff.follow (agrees : AgreesOff names first second) (place : Location)
    (steps : List Text) :
    (first.follow place steps).toOption = (second.follow place steps).toOption := by
  induction steps generalizing place with
  | nil => rfl
  | cons name rest ih =>
    rw [toOption_follow_cons, toOption_follow_cons, agrees.directories, ih]

/-- Every path leads to the same place. -/
theorem AgreesOff.place? (agrees : AgreesOff names first second) (path : Text) :
    first.place? path = second.place? path := by
  rw [place?_eq, place?_eq, start, start, agrees.here, agrees.follow]

/-- A path with another last name leads to the same entry. -/
theorem AgreesOff.find? (agrees : AgreesOff names first second) {path : Text}
    (proper : IsProper (lastName path)) (other : lastName path ∉ names) :
    first.find? path = second.find? path := by
  unfold Disk.find?
  rw [agrees.place? path]
  cases located : second.place? path with
  | none => rfl
  | some place =>
    refine agrees.entries place fun name member ends => other ?_
    rw [getLast?_place proper located] at ends
    rwa [Option.some.inj ends]

end

/-! ### Writing -/

theorem write_eq (path content : Text) :
    (disk.write path content).toOption =
      ((disk.place? path).filter (! disk.isDirectory ·)).map fun place =>
        disk.put place (.file (some content)) := by
  unfold write place?
  cases disk.locate path with
  | error error => rfl
  | ok place =>
    change Except.toOption (if disk.isDirectory place then .error PathError.blocked
      else .ok (disk.put place (.file (some content)))) = _
    rw [Except.toOption, Option.filter_some]
    cases disk.isDirectory place <;> rfl

variable {path content : Text} {written : Disk}

/-- A file is put where its path leads, which is not the root. -/
theorem exists_place_of_write (writes : disk.write path content = .ok written) :
    ∃ place, disk.place? path = some place ∧ place ≠ [] ∧ disk.isDirectory place = false ∧
      written = disk.put place (.file (some content)) := by
  have result := disk.write_eq path content
  rw [writes] at result
  obtain ⟨place, located, put_eq⟩ := Option.map_eq_some_iff.mp result.symm
  obtain ⟨located, free⟩ := Option.filter_eq_some_iff.mp located
  have free : disk.isDirectory place = false := by simpa using free
  refine ⟨place, located, ?_, free, put_eq.symm⟩
  rintro rfl
  cases free

/-- Writing a file changes no directory and no file of another name. -/
theorem agreesOff_of_write (proper : IsProper (lastName path))
    (writes : disk.write path content = .ok written) : AgreesOff [lastName path] disk written := by
  obtain ⟨place, located, named, free, rfl⟩ := exists_place_of_write writes
  have ends := getLast?_place proper located
  refine ⟨rfl, fun other => ?_, fun other apart => ?_⟩
  · unfold isDirectory at free ⊢
    rw [stands_put named]
    split
    · subst other
      exact free
    · rfl
  · rw [stands_put named, if_neg]
    rintro rfl
    exact apart _ List.mem_cons_self ends

/-- A file that is written is found. -/
theorem find?_of_write (proper : IsProper (lastName path))
    (writes : disk.write path content = .ok written) :
    written.find? path = some (.file (some content)) := by
  have agrees := agreesOff_of_write proper writes
  obtain ⟨place, located, named, -, rfl⟩ := exists_place_of_write writes
  unfold find?
  rw [← agrees.place? path, located, Option.bind_some, stands_put named, if_pos rfl]

theorem isSome_toOption_write (path content : Text) :
    (disk.write path content).toOption.isSome =
      ((disk.place? path).filter (! disk.isDirectory ·)).isSome := by
  rw [write_eq, Option.isSome_map]

/-- Whether a file can be written depends on the directories only. -/
theorem AgreesOff.write_cases {names : List Text} {first second : Disk}
    (agrees : AgreesOff names first second) (path content : Text) :
    (∃ one two, first.write path content = .ok one ∧ second.write path content = .ok two) ∨
      ∃ one two, first.write path content = .error one ∧ second.write path content = .error two := by
  have alike : (first.write path content).toOption.isSome =
      (second.write path content).toOption.isSome := by
    rw [isSome_toOption_write, isSome_toOption_write, agrees.place? path,
      funext agrees.directories]
  cases one : first.write path content with
  | ok written =>
    cases two : second.write path content with
    | ok written' => exact Or.inl ⟨written, written', rfl, rfl⟩
    | error error =>
      rw [one, two] at alike
      cases alike
  | error error =>
    cases two : second.write path content with
    | ok written =>
      rw [one, two] at alike
      cases alike
    | error error' => exact Or.inr ⟨error, error', rfl, rfl⟩

end ReferencePages.Disk
