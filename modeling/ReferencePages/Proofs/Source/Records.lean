/-
**The records of a source are neat.**

The names in a record are names, its free texts are tidy, and what is shown on one line holds no
break (`ClassRecord.Neat`). A reader hands on what its finders find, so each finder is looked at by
itself (`Finder.Yields`) and `forall_mem_collect` carries its property to all that is collected:

* `yields_findClassLine`, `yields_findFunctionFrom`, `yields_findMember`: the finders;
* `unbroken_callSignatures`: calls are shown on one line;
* `neat_assemble`: **every class that is read from a text is neat**.
-/

import ReferencePages.Assembly
import ReferencePages.Proofs.Source.Blocks
import ReferencePages.Proofs.Text.Names

namespace ReferencePages

open Text Declaration

/-! ### Results -/

theorem map_eq_ok {ε α β : Type} {f : α → β} {x : Except ε α} {b : β} (same : x.map f = .ok b) :
    ∃ a, x = .ok a ∧ f a = b := by
  cases x with
  | error error => cases same
  | ok a => exact ⟨a, rfl, Except.ok.inj same⟩

theorem bind_eq_ok {ε α β : Type} {f : α → Except ε β} {x : Except ε α} {b : β}
    (same : (x >>= f) = .ok b) : ∃ a, x = .ok a ∧ f a = .ok b := by
  cases x with
  | error error => cases same
  | ok a => exact ⟨a, rfl, same⟩

theorem orFault_eq_ok {α : Type} {x : Except ScanError α} {a : α} (same : orFault x = .ok a) :
    x = .ok a := by
  cases x with
  | error error => cases same
  | ok b => exact congrArg Except.ok (Except.ok.inj same)

/-! ### Calls -/

theorem mem_consFirst {c : Char} {parts : List Text} {part : Text}
    (member : part ∈ consFirst c parts) :
    part ∈ parts ∨ ∃ tail, part = c :: tail ∧ (tail = [] ∨ tail ∈ parts) := by
  cases parts with
  | nil => exact Or.inr ⟨[], List.mem_singleton.mp member, Or.inl rfl⟩
  | cons first rest =>
    rcases List.mem_cons.mp member with rfl | inRest
    · exact Or.inr ⟨first, rfl, Or.inr List.mem_cons_self⟩
    · exact Or.inl (List.mem_cons_of_mem _ inRest)

theorem splitTopFrom_subset (separator : Char) (nesting : Nesting) (t : Text) :
    ∀ part ∈ splitTopFrom separator nesting t, part ⊆ t := by
  induction t generalizing nesting with
  | nil =>
    intro part member
    rw [List.mem_singleton.mp member]
    exact List.Subset.refl _
  | cons c rest ih =>
    intro part member
    rw [splitTopFrom] at member
    split at member
    · rcases List.mem_cons.mp member with rfl | later
      · exact List.nil_subset _
      · exact fun d inside => List.mem_cons_of_mem _ (ih _ part later inside)
    · rcases mem_consFirst member with later | ⟨tail, rfl, empty | later⟩
      · exact fun d inside => List.mem_cons_of_mem _ (ih _ part later inside)
      · rw [empty]
        exact List.cons_subset_cons c (List.nil_subset _)
      · exact List.cons_subset_cons c (ih _ tail later)

theorem cutTopFrom?_subset {mark : Char} {nesting : Nesting} {t before after : Text}
    (found : cutTopFrom? mark nesting t = some (before, after)) : before ⊆ t ∧ after ⊆ t := by
  induction t generalizing nesting before after with
  | nil => cases found
  | cons c rest ih =>
    rw [cutTopFrom?] at found
    split at found
    · cases found
      exact ⟨List.nil_subset _, List.subset_cons_self _ _⟩
    · obtain ⟨⟨inner, tail⟩, foundInner, same⟩ := Option.map_eq_some_iff.mp found
      cases same
      have inRest := ih foundInner
      exact ⟨List.cons_subset_cons c inRest.1,
        fun d inside => List.mem_cons_of_mem _ (inRest.2 inside)⟩

namespace DeclaredParam

theorem cutEntry_subset (mark : Char) (t : Text) :
    (cutEntry mark t).1 ⊆ t ∧ ∀ value ∈ (cutEntry mark t).2, value ⊆ t := by
  unfold cutEntry
  split
  · rename_i before after found
    have parts := cutTopFrom?_subset found
    refine ⟨parts.1, fun value member => ?_⟩
    rw [← Option.some.inj member]
    exact fun c inside => parts.2 (trim_subset _ inside)
  · exact ⟨List.Subset.refl _, fun value member => by cases member⟩

theorem read?_subset {entry : Text} {p : DeclaredParam} (same : read? entry = some p) :
    p.name ⊆ entry ∧ ∀ value ∈ p.default, value ⊆ entry := by
  unfold read? at same
  simp only at same
  split at same
  · cases same
  · cases same
    have outer := cutEntry_subset '=' (trim entry)
    have inner := cutEntry_subset ':' (cutEntry '=' (trim entry)).1
    refine ⟨fun c inside => ?_, fun value member c inside => ?_⟩
    · exact trim_subset _ (outer.1 (inner.1 (trim_subset _ inside)))
    · exact trim_subset _ (outer.2 value member inside)

theorem readAll_subset {params : Text} {p : DeclaredParam} (member : p ∈ readAll params) :
    p.name ⊆ params ∧ ∀ value ∈ p.default, value ⊆ params := by
  obtain ⟨entry, inside, same⟩ := List.mem_filterMap.mp member
  have inParams := splitTopFrom_subset ',' .initial params entry inside
  have parts := read?_subset same
  exact ⟨fun c inName => inParams (parts.1 inName),
    fun value inDefault c inValue => inParams (parts.2 value inDefault inValue)⟩

end DeclaredParam

theorem unbroken_callText {callee : Text} {arguments : List Text} (unbroken : '\n' ∉ callee)
    (each : ∀ argument ∈ arguments, '\n' ∉ argument) : '\n' ∉ callText callee arguments := by
  have inner : '\n' ∉ join [',', ' '] arguments := by
    intro member
    rcases mem_join member with inMark | ⟨argument, inArguments, inside⟩
    · exact absurd inMark (by decide)
    · exact each argument inArguments inside
  unfold callText
  simp [unbroken, inner]

/-- **Calls are shown on one line.** -/
theorem unbroken_callSignatures {className functionName params : Text} (style : CallStyle)
    (classUnbroken : '\n' ∉ className) (functionUnbroken : '\n' ∉ functionName)
    (paramsUnbroken : '\n' ∉ params) :
    ∀ signature ∈ callSignatures className functionName style (DeclaredParam.readAll params),
      '\n' ∉ signature := by
  have callee : '\n' ∉ style.callee className functionName := by
    cases style with
    | construct => exact classUnbroken
    | onClass => simp [CallStyle.callee, classUnbroken, functionUnbroken]
    | onObject => simp [CallStyle.callee, functionUnbroken]
  have names : ∀ p ∈ DeclaredParam.readAll params, '\n' ∉ p.name :=
    fun p member inside => paramsUnbroken ((DeclaredParam.readAll_subset member).1 inside)
  have assigned : ∀ p ∈ DeclaredParam.readAll params, '\n' ∉ p.assigned := by
    intro p member
    have named := names p member
    have defaults := (DeclaredParam.readAll_subset member).2
    unfold DeclaredParam.assigned
    split
    · rename_i default same
      have unbroken : '\n' ∉ default := fun inside => paramsUnbroken (defaults default same inside)
      simp [named, unbroken]
    · exact named
  intro signature member
  unfold callSignatures at member
  simp only at member
  rcases List.mem_cons.mp member with rfl | long
  · refine unbroken_callText callee fun argument inside => ?_
    obtain ⟨p, shown, rfl⟩ := List.mem_map.mp inside
    exact names p (List.mem_filter.mp (List.mem_filter.mp shown).1).1
  · split at long
    · rw [List.mem_singleton.mp long]
      refine unbroken_callText callee fun argument inside => ?_
      obtain ⟨p, shown, rfl⟩ := List.mem_map.mp inside
      exact assigned p (List.mem_filter.mp shown).1
    · exact absurd long List.not_mem_nil

/-! ### Neat records -/

/-- A function whose lines are lines and whose body is tidy. -/
structure FunctionRecord.Neat (f : FunctionRecord) : Prop where
  name : IsName f.name
  signatures : ∀ signature ∈ f.signatures, '\n' ∉ signature
  body : Tidy f.body
  parameters : ∀ p ∈ f.parameters, '\n' ∉ p.name
  returns : ∀ text ∈ f.returns, '\n' ∉ text ∧ trimEnd text = text

/-- A field with a name and a tidy description. -/
structure Field.Neat (f : Field) : Prop where
  name : IsName f.name
  description : Tidy f.description

/-- A class whose names are names and whose free texts are tidy. -/
structure ClassRecord.Neat (c : ClassRecord) : Prop where
  name : IsName c.name
  description : Tidy c.description
  classVariables : ∀ v ∈ c.classVariables, IsName v.name
  fields : ∀ f ∈ c.fields, f.Neat
  functions : ∀ f ∈ c.functions, f.Neat
  enumValues : ∀ v ∈ c.enumValues, IsName v.name

/-- A function header with a name, parameters on one line and a neat block. -/
structure FunctionHeader.Neat (header : FunctionHeader) : Prop where
  name : IsName header.name
  params : '\n' ∉ header.params
  doc : ∀ block ∈ header.doc, block.Neat

/-- A class header with a name and a tidy description. -/
structure ClassHeader.Neat (header : ClassHeader) : Prop where
  name : IsName header.name
  description : Tidy header.description

theorem FunctionHeader.Neat.functionRecord {className : Text} (isName : IsName className)
    {header : FunctionHeader} (neat : header.Neat) : (functionRecord className header).Neat := by
  have clean : ∀ line ∈ (header.doc.map (·.lines)).getD [], IsLine line := by
    cases same : header.doc with
    | none => exact fun line member => absurd member List.not_mem_nil
    | some block => exact (neat.doc block same).isLine
  have tags := Tags.neat_ofLines clean
  refine ⟨neat.name, ?_, tags.body, fun p member => ?_, tags.returns⟩
  · exact unbroken_callSignatures _ isName.unbroken neat.name.unbroken neat.params
  · obtain ⟨entry, inside, rfl⟩ := List.mem_map.mp member
    exact tags.params entry inside

/-! ### Finders -/

/-- Whatever the finder finds in lines without breaks has the property. -/
def Finder.Yields {α : Type} (find : Finder α) (P : α → Prop) : Prop :=
  ∀ pos ls found next, (∀ line ∈ ls, '\n' ∉ line) → find pos ls = .ok (some (found, next)) → P found

/-- **What a finder yields, all that is collected has.** -/
theorem forall_mem_collect {α : Type} {find : Finder α} {P : α → Prop} (yields : find.Yields P)
    {resume pos : Nat} {ls : List Line} {found : List (α × Nat)}
    (unbroken : ∀ line ∈ ls, '\n' ∉ line) (same : collect find resume pos ls = .ok found) :
    ∀ pair ∈ found, P pair.1 := by
  induction ls generalizing resume pos found with
  | nil =>
    cases same
    exact fun pair member => absurd member List.not_mem_nil
  | cons line rest ih =>
    have below : ∀ other ∈ rest, '\n' ∉ other :=
      fun other member => unbroken other (List.mem_cons_of_mem _ member)
    rw [collect] at same
    split at same
    · exact ih below same
    · split at same
      · cases same
      · cases same
        exact fun pair member => absurd member List.not_mem_nil
      · rename_i first next isFirst
        split at same
        · cases same
        · rename_i more isMore
          cases same
          intro pair member
          rcases List.mem_cons.mp member with rfl | later
          · exact yields pos (line :: rest) first next unbroken isFirst
          · exact ih below isMore pair later

theorem isName_of_publicClass? {line : Line} {declared : ClassLine}
    (same : publicClass? line = some declared) : IsName declared.name := by
  obtain ⟨read, -⟩ := Option.filter_eq_some_iff.mp same
  unfold ClassLine.read? at read
  obtain ⟨word, -, read⟩ := Option.bind_eq_some_iff.mp read
  obtain ⟨⟨name, rest⟩, isIdentifier, read⟩ := Option.bind_eq_some_iff.mp read
  obtain ⟨bases, -, read⟩ := Option.bind_eq_some_iff.mp read
  cases read
  exact isName_of_identifier? isIdentifier

theorem yields_findClass : Finder.Yields findClass ClassHeader.Neat := by
  intro pos ls header next unbroken same
  induction ls generalizing pos with
  | nil => cases same
  | cons line rest ih =>
    have below : ∀ other ∈ rest, '\n' ∉ other :=
      fun other member => unbroken other (List.mem_cons_of_mem _ member)
    rw [findClass] at same
    split at same
    · rename_i declared isClass
      obtain ⟨pair, at_, isPair⟩ := map_eq_ok same
      obtain ⟨block, isBlock, built⟩ := map_eq_ok at_
      cases isPair
      cases built
      refine ⟨isName_of_publicClass? isClass, ?_⟩
      cases block with
      | none => exact Tidy.nil
      | some block => exact (neat_plainBlockAt below isBlock block rfl).tidy
    · exact ih _ below same

theorem yields_findClassLine : Finder.Yields findClassLine fun pair => pair.1.Neat := by
  intro pos ls found next unbroken same
  obtain ⟨pair, isPair, built⟩ := map_eq_ok same
  obtain ⟨⟨header, body⟩, rfl, shown⟩ := Option.map_eq_some_iff.mp built
  cases shown
  exact yields_findClass pos ls header body unbroken isPair

theorem isName_of_functionLine {line : Line} {declared : FunctionLine}
    (same : FunctionLine.read? line = some declared) : IsName declared.name := by
  unfold FunctionLine.read? at same
  obtain ⟨word, -, same⟩ := Option.bind_eq_some_iff.mp same
  obtain ⟨⟨name, rest⟩, isIdentifier, same⟩ := Option.bind_eq_some_iff.mp same
  simp only at same
  split at same
  · cases same
    exact isName_of_identifier? isIdentifier
  · cases same

theorem neat_functionHeaderAt {markedStatic : Bool} {pos next : Nat} {declared : FunctionLine}
    {after : List Line} {header : FunctionHeader} (isName : IsName declared.name)
    (unbroken : ∀ line ∈ after, '\n' ∉ line)
    (same : functionHeaderAt markedStatic pos declared after = .ok (header, next)) :
    header.Neat := by
  unfold functionHeaderAt at same
  simp only at same
  split at same
  · cases same
    exact ⟨isName, List.not_mem_nil, fun block member => by cases member⟩
  · split at same
    · cases same
    · rename_i params line isSignature
      obtain ⟨doc, isDoc, built⟩ := map_eq_ok same
      cases built
      refine ⟨isName, ?_, ?_⟩
      · unfold readSignature at isSignature
        split at isSignature
        · cases isSignature
          exact not_mem_squeeze _
        · cases isSignature
      · exact neat_plainBlockAt (fun other member => unbroken other (List.drop_subset _ _ member)) isDoc

theorem yields_findFunctionFrom (indents : List Nat) (markedStatic : Bool) :
    Finder.Yields (findFunctionFrom indents markedStatic) FunctionHeader.Neat := by
  intro pos ls header next unbroken same
  induction ls generalizing pos markedStatic with
  | nil => cases same
  | cons line rest ih =>
    have below : ∀ other ∈ rest, '\n' ∉ other :=
      fun other member => unbroken other (List.mem_cons_of_mem _ member)
    rw [findFunctionFrom] at same
    split at same
    · exact ih _ _ below same
    · split at same
      · exact ih _ _ below same
      · rename_i declared isLine
        split at same
        · obtain ⟨pair, isPair, shown⟩ := map_eq_ok same
          cases shown
          exact neat_functionHeaderAt (isName_of_functionLine isLine) below isPair
        · exact ih _ _ below same

/-- A member is what its reader makes of a neat block and a line below it. -/
theorem yields_findMember {α : Type} {kind : MemberKind} {tag : Text}
    {read? : DocBlock → Line → Option α} {stop : Nat} {P : α → Prop}
    (reads : ∀ block line found, block.Neat → read? block line = some found → P found) :
    Finder.Yields (findMember kind tag read? stop) P := by
  intro pos ls found next unbroken same
  unfold findMember at same
  split at same
  · cases same
  · cases same
  · rename_i block isBlock
    simp only at same
    split at same
    · rename_i target isTarget
      cases same
      obtain ⟨written, -, isTarget⟩ := Option.bind_eq_some_iff.mp isTarget
      split at isTarget
      · obtain ⟨member, isMember, shown⟩ := Option.map_eq_some_iff.mp isTarget
        cases shown
        exact reads block written.text found (neat_findTagged unbroken isBlock) isMember
      · cases isTarget
    · cases same

theorem neat_fieldOf? (block : DocBlock) (line : Line) (found : Field) (neat : block.Neat)
    (same : fieldOf? block line = some found) : found.Neat := by
  obtain ⟨name, assigned, rfl⟩ := Option.map_eq_some_iff.mp same
  unfold selfAssigned? at assigned
  obtain ⟨rest, -, assigned⟩ := Option.bind_eq_some_iff.mp assigned
  obtain ⟨⟨first, after⟩, isIdentifier, assigned⟩ := Option.bind_eq_some_iff.mp assigned
  cases assigned
  exact ⟨isName_of_identifier? isIdentifier, neat.tidy⟩

theorem isName_of_assignment? {t : Text} {assigned : Assignment}
    (read : assignment? t = some assigned) : IsName assigned.name := by
  unfold assignment? at read
  obtain ⟨⟨name, rest⟩, isIdentifier, read⟩ := Option.bind_eq_some_iff.mp read
  obtain ⟨⟨declaredType, value⟩, -, read⟩ := Option.bind_eq_some_iff.mp read
  cases read
  exact isName_of_identifier? isIdentifier

theorem isName_of_classVariableOf? (block : DocBlock) (line : Line) (found : ClassVariable)
    (_ : block.Neat) (same : classVariableOf? block line = some found) : IsName found.name := by
  obtain ⟨assigned, read, rfl⟩ := Option.map_eq_some_iff.mp same
  exact isName_of_assignment? read

theorem isName_of_enumMember? {line : Line} {found : EnumValue}
    (same : enumMember? line = some found) : IsName found.name := by
  unfold enumMember? at same
  obtain ⟨⟨name, rest⟩, isIdentifier, same⟩ := Option.bind_eq_some_iff.mp same
  simp only at same
  split at same
  · cases same
    exact isName_of_identifier? isIdentifier
  · cases same

theorem isName_of_mem_enumMembers (indent : Nat) (ls : List Line) :
    ∀ v ∈ enumMembers indent ls, IsName v.name := by
  induction ls with
  | nil => exact fun v member => absurd member List.not_mem_nil
  | cons line rest ih =>
    intro v member
    rw [enumMembers] at member
    split at member
    · exact ih v member
    · split at member
      · exact absurd member List.not_mem_nil
      · rcases List.mem_append.mp member with here | later
        · exact isName_of_enumMember? (Option.mem_toList.mp here)
        · exact ih v later

/-! ### Classes -/

namespace Source

variable {source : Source}

/-- No line of the source holds a break. -/
def Unbroken (source : Source) : Prop := ∀ line ∈ source.lines, '\n' ∉ line

theorem unbroken_ofText (name text : Text) : (ofText name text).Unbroken :=
  fun _ member => not_mem_of_mem_lines member

theorem Unbroken.linesFrom (unbroken : source.Unbroken) (start : Nat) :
    ∀ line ∈ source.linesFrom start, '\n' ∉ line :=
  fun line member => unbroken line (List.drop_subset _ _ member)

theorem neat_classHeaders (unbroken : source.Unbroken) {headers : List (ClassHeader × Nat)}
    (same : source.classHeaders = .ok headers) : ∀ pair ∈ headers, pair.1.Neat := by
  obtain ⟨found, collected, rfl⟩ := map_eq_ok same
  intro pair member
  obtain ⟨outer, inside, rfl⟩ := List.mem_map.mp member
  exact forall_mem_collect yields_findClassLine unbroken collected outer inside

theorem neat_fields (unbroken : source.Unbroken) {start stop : Nat} {found : List Field}
    (same : source.fields start stop = .ok found) : ∀ f ∈ found, f.Neat := by
  obtain ⟨pairs, collected, rfl⟩ := map_eq_ok same
  intro f member
  obtain ⟨pair, inside, rfl⟩ := List.mem_map.mp member
  exact forall_mem_collect (yields_findMember neat_fieldOf?) (unbroken.linesFrom start) collected
    pair inside

theorem isName_classVariables (unbroken : source.Unbroken) {start stop : Nat}
    {found : List ClassVariable} (same : source.classVariables start stop = .ok found) :
    ∀ v ∈ found, IsName v.name := by
  obtain ⟨pairs, collected, rfl⟩ := map_eq_ok same
  intro v member
  obtain ⟨pair, inside, rfl⟩ := List.mem_map.mp member
  exact forall_mem_collect (yields_findMember isName_of_classVariableOf?) (unbroken.linesFrom start)
    collected pair inside

theorem neat_constructorFields (unbroken : source.Unbroken) {classLines : List Nat}
    {headers : List (FunctionHeader × Nat)} {found : List Field}
    (same : source.constructorFields classLines headers = .ok found) : ∀ f ∈ found, f.Neat := by
  induction headers generalizing found with
  | nil =>
    cases same
    exact fun f member => absurd member List.not_mem_nil
  | cons pair later ih =>
    obtain ⟨header, next⟩ := pair
    rw [constructorFields] at same
    split at same
    · split at same
      · cases same
      · rename_i here isHere
        obtain ⟨more, isMore, rfl⟩ := map_eq_ok same
        intro f member
        rcases List.mem_append.mp member with inHere | inMore
        · exact neat_fields unbroken isHere f inHere
        · exact ih isMore f inMore
    · exact ih same

theorem isName_membersOf {header : ClassHeader} {bodyStart spanEnd : Nat} {found : List EnumValue}
    (same : source.membersOf header bodyStart spanEnd = .ok found) :
    ∀ v ∈ found, IsName v.name := by
  unfold membersOf at same
  split at same
  · obtain ⟨ls, -, rfl⟩ := map_eq_ok same
    exact isName_of_mem_enumMembers _ ls
  · cases same
    exact fun v member => absurd member List.not_mem_nil

theorem neat_classRecord (unbroken : source.Unbroken) {header : ClassHeader} (neat : header.Neat)
    {bodyStart spanEnd : Nat} {c : ClassRecord}
    (same : source.classRecord header bodyStart spanEnd = .ok c) : c.Neat := by
  obtain ⟨documented, isDocumented, same⟩ := bind_eq_ok same
  obtain ⟨members, isMembers, same⟩ := bind_eq_ok same
  cases same
  exact
    { name := neat.name
      description := neat.description
      classVariables := isName_classVariables unbroken (orFault_eq_ok isDocumented)
      fields := fun f member => absurd member List.not_mem_nil
      functions := fun f member => absurd member List.not_mem_nil
      enumValues := isName_membersOf isMembers }

theorem neat_classRecords (unbroken : source.Unbroken) {headers : List (ClassHeader × Nat)}
    (neat : ∀ pair ∈ headers, pair.1.Neat) {classes : List ClassRecord}
    (same : source.classRecords headers = .ok classes) : ∀ c ∈ classes, c.Neat := by
  induction headers generalizing classes with
  | nil =>
    cases same
    exact fun c member => absurd member List.not_mem_nil
  | cons pair later ih =>
    obtain ⟨header, bodyStart⟩ := pair
    obtain ⟨first, isFirst, same⟩ := bind_eq_ok same
    obtain ⟨rest, isRest, same⟩ := bind_eq_ok same
    cases same
    intro c member
    rcases List.mem_cons.mp member with rfl | inRest
    · exact neat_classRecord unbroken (neat _ List.mem_cons_self) isFirst
    · exact ih (fun other inside => neat other (List.mem_cons_of_mem _ inside)) isRest c inRest

theorem neat_withFunctions (unbroken : source.Unbroken) {headers : List (ClassHeader × Nat)}
    (neatHeaders : ∀ pair ∈ headers, pair.1.Neat) {classes found : List ClassRecord}
    (neat : ∀ c ∈ classes, c.Neat) (same : source.withFunctions headers classes = .ok found) :
    ∀ c ∈ found, c.Neat := by
  cases classes with
  | nil =>
    cases same
    exact neat
  | cons first others =>
    cases headers with
    | nil =>
      cases same
      exact neat
    | cons pair later =>
      obtain ⟨owner, bodyStart⟩ := pair
      obtain ⟨functions, isFunctions, same⟩ := bind_eq_ok same
      obtain ⟨fields, isFields, same⟩ := bind_eq_ok same
      cases same
      have here := neat first List.mem_cons_self
      have ownerNeat := neatHeaders _ List.mem_cons_self
      intro c member
      rcases List.mem_cons.mp member with rfl | inOthers
      · refine { here with fields := neat_constructorFields unbroken isFields, functions := ?_ }
        intro f inFunctions
        obtain ⟨header, shown, rfl⟩ := List.mem_map.mp inFunctions
        obtain ⟨pair, inside, rfl⟩ := List.mem_map.mp (List.mem_filter.mp shown).1
        exact (forall_mem_collect (yields_findFunctionFrom _ _) (unbroken.linesFrom bodyStart)
          isFunctions pair inside).functionRecord ownerNeat.name
      · exact neat c (List.mem_cons_of_mem _ inOthers)

/-- **Every class that is read from a text is neat.** -/
theorem neat_assemble {name text : Text} {strict : Bool} {classes : List ClassRecord}
    (same : (ofText name text).assemble strict = .ok classes) : ∀ c ∈ classes, c.Neat := by
  have unbroken := unbroken_ofText name text
  obtain ⟨headers, isHeaders, same⟩ := bind_eq_ok same
  obtain ⟨-, -, same⟩ := bind_eq_ok same
  obtain ⟨records, isRecords, same⟩ := bind_eq_ok same
  have neatHeaders := neat_classHeaders unbroken (orFault_eq_ok isHeaders)
  exact neat_withFunctions unbroken neatHeaders (neat_classRecords unbroken neatHeaders isRecords)
    (orFault_eq_ok same)

end Source

end ReferencePages
