/-
**What the document of an input depends on.**

An input is documented from its own text and from the package file beside it, and one page is written
for it. None of these is the page of another input, as long as stems differ:

* `pageName`: the name of an input's page. It is a proper name, it is no package file, and it is the
  name of an input with the same stem only (`fileStem_of_pageName`);
* `packageOptions_of_same`: a directory has one set of options, however it is spelled;
* `agreesOff_document`: documenting an input changes at most the file of that name;
* `document_congr`: **an input is documented alike on disks that differ in pages of other inputs**:
  the same answer, and the same page;
* `fails`, `stops`: an input whose text cannot be read or whose classes are refused is counted; one
  with a reversed range, or whose page cannot be written, stops the run (`answered_document`).
-/

import ReferencePages.Proofs.Command.OnDisk

namespace ReferencePages

open Text ReferencePages.Path

/-! ### Pages -/

/-- The name of the page for an input. -/
def ReferenceRun.pageName (run : ReferenceRun) (path : Text) : Text :=
  fileStem path ++ '.' :: run.format.extension

section Pages

variable {run : ReferenceRun} {path : Text}

theorem ReferenceRun.page_eq (run : ReferenceRun) (path : Text) :
    run.page path = child run.output (run.pageName path) := by
  unfold page pagePath pageName
  rw [List.append_assoc]
  rfl

theorem not_mem_extension (format : OutputFormat) {c : Char}
    (mark : c = '.' ∨ isSeparator c = true) : c ∉ format.extension := by
  intro member
  have plain : format.extension.all (fun d => ! (d == '.') && ! isSeparator d) = true := by
    cases format <;> rfl
  have clean := List.all_eq_true.mp plain c member
  rcases mark with rfl | separates
  · cases clean
  · rw [separates, Bool.not_true, Bool.and_false] at clean
    cases clean

theorem ReferenceRun.not_isSeparator_of_mem_pageName {c : Char} (member : c ∈ run.pageName path) :
    isSeparator c = false := by
  rcases List.mem_append.mp member with inStem | inRest
  · exact not_isSeparator_of_mem_fileStem inStem
  · rcases List.mem_cons.mp inRest with rfl | inExtension
    · decide
    · refine Bool.eq_false_iff.mpr fun separates => ?_
      exact not_mem_extension run.format (Or.inr separates) inExtension

/-- A page's name is too long to be idle or the way up. -/
theorem ReferenceRun.isProper_pageName (run : ReferenceRun) (path : Text) :
    IsProper (run.pageName path) := by
  have long : 3 ≤ (run.pageName path).length := by
    have extension : 2 ≤ run.format.extension.length := by cases run.format <;> decide
    unfold pageName
    rw [List.length_append, List.length_cons]
    omega
  refine ⟨fun slash => ?_, ?_, fun up => ?_⟩
  · have joined := not_isSeparator_of_mem_pageName slash
    cases joined
  · unfold isIdle innerComponent?
    rw [if_neg]
    · split <;> rfl
    · intro short
      rcases Bool.or_eq_true_iff.mp short with empty | dot
      · rw [List.isEmpty_iff.mp empty] at long
        exact absurd long (by decide)
      · rw [of_decide_eq_true dot] at long
        exact absurd long (by decide)
  · rw [up] at long
    exact absurd long (by decide)

theorem ReferenceRun.lastName_page (run : ReferenceRun) (path : Text) :
    lastName (run.page path) = run.pageName path := by
  rw [run.page_eq, lastName_child _ (run.isProper_pageName path).whole]

theorem ReferenceRun.isProper_lastName_page (run : ReferenceRun) (path : Text) :
    IsProper (lastName (run.page path)) := by
  rw [run.lastName_page]
  exact run.isProper_pageName path

/-- A page that is none of those in which two disks differ is the same on both. -/
theorem Disk.AgreesOff.find?_page {names : List Text} {first second : Disk}
    (agrees : AgreesOff names first second) (other : run.pageName path ∉ names) :
    first.find? (run.page path) = second.find? (run.page path) := by
  refine agrees.find? (run.isProper_lastName_page path) ?_
  rwa [run.lastName_page]

/-- Pages of one name have one stem. -/
theorem ReferenceRun.pageName_inj {other : Text} (same : run.pageName path = run.pageName other) :
    fileStem path = fileStem other :=
  List.append_cancel_right same

/-- An input with the name of a page has the page's stem. -/
theorem ReferenceRun.fileStem_of_pageName {other : Text} (named : fileStem path ≠ [])
    (same : run.pageName path = lastName other) : fileStem path = fileStem other := by
  have undotted : '.' ∉ run.format.extension := not_mem_extension run.format (Or.inl rfl)
  rw [← fileStem_lastName other, ← same]
  exact (fileStem_append named (fun c => not_isSeparator_of_mem_pageName) undotted).symm

theorem isProper_packageFile : IsProper packageFile := ⟨by decide, by decide, by decide⟩

/-- No page is a package file: they end differently. -/
theorem ReferenceRun.pageName_ne_packageFile (run : ReferenceRun) (path : Text) :
    run.pageName path ≠ packageFile := by
  intro same
  have ends : (run.pageName path).getLast? = run.format.extension.getLast? := by
    unfold pageName
    rw [List.getLast?_append]
    cases run.format <;> rfl
  rw [same] at ends
  cases format : run.format <;> rw [format] at ends <;> exact absurd ends (by decide)

end Pages

/-! ### What is read -/

namespace Disk

variable {disk : Disk}

theorem kind?_eq_file_iff {path : Text} :
    disk.kind? path = some .file ↔ ∃ content, disk.find? path = some (.file content) := by
  unfold kind?
  rcases disk.find? path with - | (- | content)
  · exact ⟨fun same => (by cases same), fun ⟨_, same⟩ => (by cases same)⟩
  · exact ⟨fun same => (by cases same), fun ⟨_, same⟩ => (by cases same)⟩
  · exact ⟨fun _ => ⟨content, rfl⟩, fun _ => rfl⟩

theorem kind?_congr {first second : Disk} {path other : Text}
    (same : first.find? path = second.find? other) : first.kind? path = second.kind? other := by
  unfold kind?
  rw [same]

/-- A file is there when more stands on the disk. -/
theorem Grows.kind?_eq_file {before after : Disk} (grows : Grows before after) {path : Text}
    (file : before.kind? path = some .file) : after.kind? path = some .file := by
  obtain ⟨content, found⟩ := kind?_eq_file_iff.mp file
  exact kind?_eq_file_iff.mpr ⟨content, grows.find? found⟩

theorem read_congr {first second : Disk} {path other : Text}
    (same : first.find? path = second.find? other) : first.read path = second.read other := by
  unfold read
  rw [same]

theorem source_congr {first second : Disk} {path : Text}
    (same : first.find? path = second.find? path) : first.source path = second.source path := by
  unfold source
  rw [kind?_congr same, read_congr same]

/-- The options of a directory depend on the package file in it and on the directory's name. -/
theorem packageOptions_congr {first second : Disk} (options : DocOptions) {directory other : Text}
    (file : first.find? (child directory packageFile) = second.find? (child other packageFile))
    (named : first.kind? (child directory packageFile) = some .file →
      first.directoryName? directory = second.directoryName? other) :
    first.packageOptions options directory = second.packageOptions options other := by
  unfold packageOptions
  simp only
  by_cases there : first.kind? (child directory packageFile) = some .file
  · have there' := (kind?_congr file).symm.trans there
    rw [if_pos there, if_pos there', named there]
    unfold source
    -- the sources differ in the path they are shown by, which their names do not depend on
    rw [there, there', read_congr file]
    cases second.read (child other packageFile) <;> rfl
  · rw [if_neg there, if_neg fun there' => there ((kind?_congr file).trans there')]

/-- A directory has one set of options, however it is spelled. -/
theorem packageOptions_of_same (options : DocOptions) {directory other : Text}
    (alike : same directory other = true)
    (limits : pathLimit < byteCount (child directory packageFile) ↔
      pathLimit < byteCount (child other packageFile)) :
    disk.packageOptions options directory = disk.packageOptions options other := by
  have place_eq : disk.place? (child directory packageFile) = disk.place? (child other packageFile) :=
    place?_child_of_same alike isProper_packageFile limits
  refine packageOptions_congr options ?_ fun there => ?_
  · unfold find?
    rw [place_eq]
  · have short : byteCount (child directory packageFile) ≤ pathLimit := by
      refine Nat.le_of_not_lt fun long => ?_
      obtain ⟨content, found⟩ := kind?_eq_file_iff.mp there
      unfold find? at found
      rw [place?_child directory isProper_packageFile, if_pos long] at found
      cases found
    have short' : byteCount (child other packageFile) ≤ pathLimit :=
      Nat.le_of_not_lt fun long => absurd (limits.mpr long) (Nat.not_lt.mpr short)
    exact directoryName?_of_same alike ((byteCount_le_child _ _).trans short)
      ((byteCount_le_child _ _).trans short')

theorem AgreesOff.directoryName? {names : List Text} {first second : Disk}
    (agrees : AgreesOff names first second) (path : Text) :
    first.directoryName? path = second.directoryName? path := by
  rw [directoryName?_eq, directoryName?_eq, agrees.place? path, funext agrees.directories]

theorem AgreesOff.packageOptions {names : List Text} {first second : Disk}
    (agrees : AgreesOff names first second) (other : packageFile ∉ names) (options : DocOptions)
    (directory : Text) :
    first.packageOptions options directory = second.packageOptions options directory := by
  have last : lastName (child directory packageFile) = packageFile :=
    lastName_child directory isProper_packageFile.whole
  refine packageOptions_congr options (agrees.find? ?_ ?_) fun _ => agrees.directoryName? directory
  · rw [last]
    exact isProper_packageFile
  · rwa [last]

/-! ### What is written -/

variable {run : ReferenceRun} {path : Text}

theorem agreesOff_of_page {text : Text} {written : Disk}
    (writes : disk.write (run.page path) text = .ok written) :
    AgreesOff [run.pageName path] disk written := by
  rw [← run.lastName_page path]
  exact agreesOff_of_write (run.isProper_lastName_page path) writes

/-- Documenting an input changes at most the file of its page. -/
theorem agreesOff_document (disk : Disk) (run : ReferenceRun) (options : DocOptions) (path : Text) :
    AgreesOff [run.pageName path] disk (disk.document run options path).2 := by
  unfold document
  rcases disk.referenceText run options path with halt | (error | (- | ⟨text, warnings⟩))
  · exact AgreesOff.refl _ disk
  · exact AgreesOff.refl _ disk
  · exact AgreesOff.refl _ disk
  · simp only
    cases writes : disk.write (run.page path) text with
    | error error => exact AgreesOff.refl _ disk
    | ok written => exact agreesOff_of_page writes

/-- An input is documented alike on disks that differ in pages of other inputs: with the same answer
and the same page. -/
theorem document_congr (options : DocOptions) {names : List Text} {first second : Disk}
    (agrees : AgreesOff names first second) (proper : IsProper (lastName path))
    (input : lastName path ∉ names) (page : run.pageName path ∉ names) :
    (first.document run options path).1 = (second.document run options path).1 ∧
      (first.document run options path).2.find? (run.page path) =
        (second.document run options path).2.find? (run.page path) := by
  have page_eq : first.find? (run.page path) = second.find? (run.page path) :=
    agrees.find?_page page
  have text_eq : first.referenceText run options path = second.referenceText run options path := by
    unfold referenceText
    rw [source_congr (agrees.find? proper input)]
  unfold document
  rw [text_eq]
  rcases second.referenceText run options path with halt | (error | (- | ⟨text, warnings⟩))
  · exact ⟨rfl, page_eq⟩
  · exact ⟨rfl, page_eq⟩
  · exact ⟨rfl, page_eq⟩
  · simp only
    rcases agrees.write_cases (run.page path) text with
      ⟨one, two, writes, writes'⟩ | ⟨one, two, fails, fails'⟩
    · rw [writes, writes']
      refine ⟨rfl, ?_⟩
      simp only
      rw [find?_of_write (run.isProper_lastName_page path) writes,
        find?_of_write (run.isProper_lastName_page path) writes']
    · rw [fails, fails']
      exact ⟨rfl, page_eq⟩

/-! ### What comes of one input -/

/-- The input is counted as failed: its text cannot be read, or its classes are refused. -/
def fails (disk : Disk) (strict : Bool) (path : Text) : Bool :=
  match disk.read path with
  | .error _ => true
  | .ok text =>
    match (Source.ofText path text).assemble strict with
    | .error (.refused _) => true
    | _ => false

/-- The input stops the run: a range of its lines is reversed, or it has classes and no page can be
written for them. -/
def stops (disk : Disk) (strict : Bool) (path page : Text) : Bool :=
  match disk.read path with
  | .error _ => false
  | .ok text =>
    match (Source.ofText path text).assemble strict with
    | .error .reversedRange => true
    | .ok (_ :: _) => (disk.write page []).toOption.isNone
    | _ => false

theorem strict_packageOptions (disk : Disk) (options : DocOptions) (directory : Text) :
    (disk.packageOptions options directory).strict = options.strict := by
  unfold packageOptions
  simp only
  split
  · split <;> rfl
  · rfl

/-- Whether a page can be written does not depend on what it says. -/
theorem isSome_toOption_write_congr (disk : Disk) (page content other : Text) :
    (disk.write page content).toOption.isSome = (disk.write page other).toOption.isSome := by
  rw [isSome_toOption_write, isSome_toOption_write]

/-- What the answer for an input says about it. -/
inductive Answered (disk : Disk) (strict : Bool) (path page : Text) : Except Halt Nat → Prop
  | failed (fails : disk.fails strict path = true) (goesOn : disk.stops strict path page = false) :
    Answered disk strict path page (.ok 1)
  | reversed (reads : disk.fails strict path = false) (stops : disk.stops strict path page = true) :
    Answered disk strict path page (.error .breakOff)
  | blocked (reads : disk.fails strict path = false) (stops : disk.stops strict path page = true) :
    Answered disk strict path page (.error (.fail ("failed to write ".toList ++ page)))
  | documented (reads : disk.fails strict path = false)
      (goesOn : disk.stops strict path page = false) : Answered disk strict path page (.ok 0)

/-- An input that is there is counted as failed, stops the run or does neither, and the answer for it
says which. -/
theorem answered_document (run : ReferenceRun) (options : DocOptions)
    (file : disk.kind? path = some .file) :
    Answered disk options.strict path (run.page path) (disk.document run options path).1 := by
  unfold document referenceText source
  rw [file]
  cases read : disk.read path with
  | error error =>
    refine .failed ?_ ?_
    · rw [fails, read]
    · rw [stops, read]
  | ok text =>
    have fails_eq : disk.fails options.strict path =
        match (Source.ofText path text).assemble options.strict with
        | .error (.refused _) => true
        | _ => false := by
      rw [fails, read]
    have stops_eq : disk.stops options.strict path (run.page path) =
        match (Source.ofText path text).assemble options.strict with
        | .error .reversedRange => true
        | .ok (_ :: _) => (disk.write (run.page path) []).toOption.isNone
        | _ => false := by
      rw [stops, read]
    simp only
    generalize (Source.ofText path text).assemble options.strict = assembled at fails_eq stops_eq
    rcases assembled with (error | -) | (- | ⟨first, rest⟩)
    · exact .failed fails_eq stops_eq
    · exact .reversed fails_eq stops_eq
    · exact .documented fails_eq stops_eq
    · simp only at fails_eq stops_eq ⊢
      rcases run.format.render (first :: rest) run.plan
        (options.importPath (Source.ofText path text) (first :: rest)) with ⟨shown, warnings⟩
      have writable := isSome_toOption_write_congr disk (run.page path) [] shown
      simp only
      cases writes : disk.write (run.page path) shown with
      | ok written =>
        rw [writes] at writable
        refine .documented fails_eq ?_
        rw [stops_eq, ← Option.not_isSome, writable]
        rfl
      | error error =>
        rw [writes] at writable
        refine .blocked fails_eq ?_
        rw [stops_eq, ← Option.not_isSome, writable]
        rfl

theorem Answered.eq_ok {strict : Bool} {path page : Text} {answer : Except Halt Nat}
    (answered : disk.Answered strict path page answer) (goesOn : disk.stops strict path page = false) :
    answer = .ok (disk.fails strict path).toNat := by
  cases answered with
  | failed fails _ => rw [fails]; rfl
  | reversed _ stops => rw [goesOn] at stops; cases stops
  | blocked _ stops => rw [goesOn] at stops; cases stops
  | documented reads _ => rw [reads]; rfl

theorem Answered.exists_error {strict : Bool} {path page : Text} {answer : Except Halt Nat}
    (answered : disk.Answered strict path page answer) (stops : disk.stops strict path page = true) :
    ∃ halt, answer = .error halt := by
  cases answered with
  | failed _ goesOn => rw [goesOn] at stops; cases stops
  | reversed _ _ => exact ⟨_, rfl⟩
  | blocked _ _ => exact ⟨_, rfl⟩
  | documented _ goesOn => rw [goesOn] at stops; cases stops

end Disk

end ReferencePages
