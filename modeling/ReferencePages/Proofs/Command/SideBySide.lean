/-
**Two runs side by side.**

Two actions run alike from worlds that are alike: they answer alike, or halt for the same reason, and
they leave worlds that are alike again. Worlds are alike when their disks hold the same tree and the
warnings in them correspond, one by one; other reports do not count:

* `Alike`, `RunsAlike`: the relation of worlds, and of actions run in them;
* `RunsAlike.bind`: actions that run alike one after the other;
* `LooksAlike.runsAlike`: actions that look things up;
* `runsAlike_report`, `runsAlike_writeFile`, `runsAlike_makeOutput`: **reporting, writing a file and
  making a directory run alike**.
-/

import ReferencePages.Proofs.Command.Lookups

namespace ReferencePages

open Text

/-- The warnings that have been reported, in order. -/
def World.warnings (world : World) : List Text :=
  (world.log.filter fun report => report.1 = .warn).map (·.2)

/-- The disks hold the same tree, and the warnings that have been reported correspond. -/
structure Alike (W : Text → Text → Prop) (one two : World) : Prop where
  tree : Disk.SameTree one.disk two.disk
  warnings : List.Forall₂ W one.warnings two.warnings

/-- The actions answer alike, or halt for the same reason, and leave worlds that are alike. -/
structure RunsAlike {α β : Type} (W : Text → Text → Prop) (R : α → β → Prop) (one two : World)
    (action : InMemory α) (other : InMemory β) : Prop where
  answers : AnswersAlike R (action.run.run one).1 (other.run.run two).1
  worlds : Alike W (action.run.run one).2 (other.run.run two).2

section Runs

variable {α β γ δ : Type} {W : Text → Text → Prop} {one two : World}

/-! ### One action after the other -/

theorem runsAlike_pure {R : α → β → Prop} {a : α} {b : β} (alike : Alike W one two)
    (related : R a b) : RunsAlike W R one two (pure a) (pure b) :=
  ⟨.ok related, alike⟩

theorem runsAlike_throw {R : α → β → Prop} (alike : Alike W one two) (halt : Halt) :
    RunsAlike W R one two (throw halt) (throw halt) :=
  ⟨.error halt, alike⟩

/-- After actions that run alike, the next ones start from worlds that are alike, where the first
ones have led. -/
theorem RunsAlike.bind {R : α → β → Prop} {S : γ → δ → Prop} {action : InMemory α}
    {other : InMemory β} {next : α → InMemory γ} {next' : β → InMemory δ}
    (first : RunsAlike W R one two action other)
    (later : ∀ a b one' two', action.run.run one = (.ok a, one') →
      other.run.run two = (.ok b, two') → R a b → Alike W one' two' →
      RunsAlike W S one' two' (next a) (next' b)) :
    RunsAlike W S one two (action >>= next) (other >>= next') := by
  obtain ⟨answers, worlds⟩ := first
  rcases ran : action.run.run one with ⟨answer, one'⟩
  rcases ran' : other.run.run two with ⟨answer', two'⟩
  rw [ran, ran'] at answers worlds
  cases answers with
  | ok related =>
    obtain ⟨answers, worlds⟩ := later _ _ one' two' ran ran' related worlds
    refine ⟨?_, ?_⟩ <;> rw [run_bind, run_bind, ran, ran']
    · exact answers
    · exact worlds
  | error halt =>
    refine ⟨?_, ?_⟩ <;> rw [run_bind, run_bind, ran, ran']
    · exact .error halt
    · exact worlds

/-- The first actions give the same answer. -/
theorem RunsAlike.bind_eq {S : γ → δ → Prop} {action other : InMemory α} {next : α → InMemory γ}
    {next' : α → InMemory δ} (first : RunsAlike W Eq one two action other)
    (later : ∀ a one' two', Alike W one' two' → RunsAlike W S one' two' (next a) (next' a)) :
    RunsAlike W S one two (action >>= next) (other >>= next') := by
  refine first.bind fun a b one' two' _ _ same alike => ?_
  subst same
  exact later a one' two' alike

theorem LooksAlike.runsAlike {R : α → β → Prop} {action : InMemory α} {other : InMemory β}
    (looks : LooksAlike R one two action other) (alike : Alike W one two) :
    RunsAlike W R one two action other := by
  obtain ⟨a, b, found, found', related⟩ := looks
  refine ⟨?_, ?_⟩ <;> rw [found, found']
  · exact .ok related
  · exact alike

/-! ### Reports -/

theorem warnings_quiet {level : Level} (quiet : level ≠ .warn) (world : World) (message : Text) :
    ((Host.tell level message : InMemory Unit).run.run world).2.warnings = world.warnings := by
  change ((world.log ++ [(level, tame message)]).filter _).map _ = _
  rw [List.filter_append, List.filter_cons_of_neg (by simpa using quiet), List.filter_nil,
    List.append_nil]
  rfl

/-- Reports other than warnings do not count. -/
theorem runsAlike_tell (alike : Alike W one two) {level : Level} (quiet : level ≠ .warn)
    (message message' : Text) :
    RunsAlike W Eq one two (Host.tell level message) (Host.tell level message') := by
  refine ⟨.ok rfl, alike.tree, ?_⟩
  rw [warnings_quiet quiet, warnings_quiet quiet]
  exact alike.warnings

theorem warnings_warn (world : World) (message : Text) :
    ((Host.tell .warn message : InMemory Unit).run.run world).2.warnings =
      world.warnings ++ [tame message] := by
  change ((world.log ++ [(Level.warn, tame message)]).filter _).map _ = _
  rw [List.filter_append, List.map_append]
  rfl

theorem runsAlike_report (same : ∀ warning : Warning, W (tame warning.message) (tame warning.message))
    (warnings : List Warning) (alike : Alike W one two) :
    RunsAlike W Eq one two (report warnings) (report warnings) := by
  induction warnings generalizing one two with
  | nil => exact runsAlike_pure alike rfl
  | cons warning rest ih =>
    have told : RunsAlike W Eq one two (Host.tell .warn warning.message)
        (Host.tell .warn warning.message) := by
      refine ⟨.ok rfl, alike.tree, ?_⟩
      rw [warnings_warn, warnings_warn]
      exact List.rel_append alike.warnings (.cons (same warning) .nil)
    exact told.bind_eq fun _ one' two' alike' => ih alike'

/-- Inputs that stand for nothing are not reported as warnings. -/
theorem run_reportMissing (missing : List Text) (world : World) :
    ∃ after, (reportMissing missing : InMemory Unit).run.run world = (.ok (), after) ∧
      after.disk = world.disk ∧ after.warnings = world.warnings := by
  induction missing generalizing world with
  | nil => exact ⟨world, rfl, rfl, rfl⟩
  | cons path rest ih =>
    have unheard := warnings_quiet (by decide : Level.error ≠ .warn) world
      (InputError.notFound path).message
    rcases told : (Host.tell .error (InputError.notFound path).message : InMemory Unit).run.run world
      with ⟨answer, later⟩
    obtain ⟨isOk, same⟩ := Prod.mk.inj told
    rw [told] at unheard
    obtain ⟨after, ran, sameDisk, sameWarnings⟩ := ih later
    refine ⟨after, ?_, ?_, sameWarnings.trans unheard⟩
    · rw [reportMissing, run_bind, told, ← isOk]
      exact ran
    · rw [sameDisk, ← same]

theorem runsAlike_reportMissing (alike : Alike W one two)
    (missing missing' : List Text) :
    RunsAlike W Eq one two (reportMissing missing) (reportMissing missing') := by
  obtain ⟨after, ran, disk, warnings⟩ := run_reportMissing missing one
  obtain ⟨after', ran', disk', warnings'⟩ := run_reportMissing missing' two
  refine ⟨?_, ?_⟩ <;> rw [ran, ran']
  · exact .ok rfl
  · refine ⟨?_, ?_⟩
    · rw [disk, disk']
      exact alike.tree
    · rw [warnings, warnings']
      exact alike.warnings

/-! ### Writing -/

theorem runsAlike_tryChange (alike : Alike W one two) {change change' : Disk → Except PathError Disk}
    (changes : AnswersAlike Disk.SameTree (change one.disk) (change' two.disk)) :
    RunsAlike W Eq one two (ExceptT.lift (World.tryChange change))
      (ExceptT.lift (World.tryChange change')) := by
  have ran (change : Disk → Except PathError Disk) (world : World) :
      (ExceptT.lift (World.tryChange change) : InMemory _).run.run world =
        (.ok (World.tryChange change world).1, (World.tryChange change world).2) := rfl
  refine ⟨?_, ?_⟩ <;> rw [ran, ran] <;> unfold World.tryChange <;>
    rcases result : change one.disk with error | disk <;>
    rcases result' : change' two.disk with error' | disk' <;> rw [result, result'] at changes <;>
    cases changes
  · exact .ok rfl
  · exact .ok rfl
  · exact alike
  · rename_i tree
    exact ⟨tree, alike.warnings⟩

theorem runsAlike_writeFile (alike : Alike W one two) (path content : Text) :
    RunsAlike W Eq one two (writeFile path content) (writeFile path content) := by
  have writes : RunsAlike W Eq one two (Host.write path content) (Host.write path content) :=
    runsAlike_tryChange alike (alike.tree.write path content)
  refine writes.bind_eq fun answer one' two' alike' => ?_
  cases answer with
  | ok _ => exact runsAlike_pure alike' rfl
  | error _ => exact runsAlike_throw alike' _

theorem runsAlike_ensureDirectory (alike : Alike W one two) (path : Text) :
    RunsAlike W Eq one two (ensureDirectory path) (ensureDirectory path) := by
  have makes : RunsAlike W Eq one two (Host.makeDirectory path) (Host.makeDirectory path) :=
    runsAlike_tryChange alike (alike.tree.makeDirectory path)
  refine makes.bind_eq fun answer one' two' alike' => ?_
  rcases answer with (- | -) | -
  · exact runsAlike_pure alike' rfl
  · refine ((looksAlike_isDirectory alike'.tree path).runsAlike alike').bind_eq fun there _ _ last => ?_
    cases there <;> exact runsAlike_pure last rfl
  · exact runsAlike_pure alike' rfl

theorem runsAlike_makeDirectories (alike : Alike W one two) (paths : List Text) :
    RunsAlike W Eq one two (makeDirectories paths) (makeDirectories paths) := by
  induction paths generalizing one two with
  | nil => exact runsAlike_pure alike rfl
  | cons path above ih =>
    refine (runsAlike_ensureDirectory alike path).bind_eq fun answer one' two' alike' => ?_
    rcases answer with (- | -) | -
    · refine (ih alike').bind_eq fun made one'' two'' alike'' => ?_
      cases made with
      | false => exact runsAlike_pure alike'' rfl
      | true =>
        exact (runsAlike_ensureDirectory alike'' path).bind_eq fun answer _ _ last =>
          runsAlike_pure last rfl
    · exact runsAlike_pure alike' rfl
    · exact runsAlike_pure alike' rfl

theorem runsAlike_makeOutput (alike : Alike W one two) (directory : Text) :
    RunsAlike W Eq one two (makeOutput directory) (makeOutput directory) := by
  refine (runsAlike_makeDirectories alike _).bind_eq fun made one' two' alike' => ?_
  cases made with
  | false => exact runsAlike_throw alike' _
  | true => exact runsAlike_pure alike' rfl

/-! ### Reading -/

theorem runsAlike_loadPlan (alike : Alike W one two) (plan : Option Text) :
    RunsAlike W Eq one two (loadPlan plan) (loadPlan plan) := by
  cases plan with
  | none => exact runsAlike_pure alike rfl
  | some path =>
    have reads : LooksAlike Eq one two (Host.read path) (Host.read path) :=
      ⟨_, _, rfl, rfl, Disk.read_congr (alike.tree.find? path)⟩
    refine (reads.runsAlike alike).bind_eq fun answer one' two' alike' => ?_
    cases answer with
    | error _ => exact runsAlike_throw alike' _
    | ok text =>
      simp only
      cases Plan.read text with
      | error _ => exact runsAlike_throw alike' _
      | ok plan => exact runsAlike_pure alike' rfl

theorem runsAlike_needFormat (alike : Alike W one two) (name : Text) :
    RunsAlike W Eq one two (needFormat name) (needFormat name) := by
  unfold needFormat
  cases OutputFormat.ofName? name with
  | none => exact runsAlike_throw alike _
  | some format => exact runsAlike_pure alike rfl

end Runs

end ReferencePages
