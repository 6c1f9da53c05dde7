import Underlay.Proofs.Failures.Operations

/-!
# What a failed routine leaves behind

A failed operation may touch two things: the slot, where its failure goes, and the log, which at
level `trace` may receive one warning. `Spares` says that all the rest of a scene is as before.

As a routine takes nothing back, it comes to that only if it writes behind the last step at which it
can fail. The laws below follow this order. A step that never fails is total; one that leaves the
scene as it was, when it answers, is still. What comes behind a step is free to fail if the step was
still, and free to write if it is total.
-/

namespace Underlay

/-- The observer has seen at most a warning, which reached the log only at level `trace`. -/
def Observer.Warns (before after : Observer) : Prop :=
  after = before ∨
    before.tracking = .trace ∧ ∃ event : Lifecycle.Event, event.level = .warn ∧
      after = { before with log := before.log.record event }

theorem Observer.warns_emit (o : Observer) {event : Lifecycle.Event}
    (warning : event.level = .warn) : o.Warns (o.emit event) := by
  unfold emit
  split
  · rename_i logs
    cases level : o.tracking with
    | off => simp [level, Tracking.logs] at logs
    | stats => simp [level, Tracking.logs] at logs
    | trace => exact .inr ⟨level, event, warning, by rw [level]⟩
  · exact .inl rfl

namespace Failures

variable {ε α β : Type}

namespace Scene

/-- Apart from the slot and at most one warning in the log, the scene is as before. -/
structure Spares (before after : Scene ε) : Prop where
  machine : ∃ slot observer, before.machine.observer.Warns observer ∧
    after.machine = (before.machine.observe observer).setSlot slot
  bytes : after.bytes = before.bytes
  slice : after.slice = before.slice
  elements : after.elements = before.elements

/-- Only the slot was written. -/
def Reported (before after : Scene ε) : Prop :=
  ∃ failure, after = before.report failure

theorem Reported.spares {before after : Scene ε} (reported : before.Reported after) :
    before.Spares after := by
  obtain ⟨failure, rfl⟩ := reported
  exact ⟨⟨_, before.machine.observer, .inl rfl, rfl⟩, rfl, rfl, rfl⟩

/-- Something was noted, and then a failure put into the slot. -/
theorem spares_report (scene : Scene ε) {note : Observer → Observer}
    (warns : ∀ o : Observer, o.Warns (note o)) (failure : Failure) :
    scene.Spares ((scene.withMachine
      (scene.machine.observe (note scene.machine.observer))).report failure) :=
  ⟨⟨_, _, warns scene.machine.observer, rfl⟩, rfl, rfl, rfl⟩

end Scene

namespace Routine

/-- The routine does not fail. -/
def Total (routine : Routine ε α) : Prop :=
  ∀ ⦃scene failure after⦄, routine.run scene ≠ .reached (.error failure, after)

/-- If the routine answers with `a`, it leaves the scene as it was. -/
def StillAt (routine : Routine ε α) (a : α) : Prop :=
  ∀ ⦃scene after⦄, routine.run scene = .reached (.ok a, after) → after = scene

def Still (routine : Routine ε α) : Prop :=
  ∀ a, routine.StillAt a

/-- How a routine that fails leaves the scene. -/
def FailsTo (leaves : Scene ε → Scene ε → Prop) (routine : Routine ε α) : Prop :=
  ∀ ⦃scene failure after⦄, routine.run scene = .reached (.error failure, after) →
    leaves scene after

/-- If the routine fails, it only reports. -/
abbrev Clean (routine : Routine ε α) : Prop :=
  routine.FailsTo Scene.Reported

/-- If the routine fails, it spares the scene. -/
abbrev Atomic (routine : Routine ε α) : Prop :=
  routine.FailsTo Scene.Spares

section Rules

variable {routine other : Routine ε α} {next : α → Routine ε β}
  {leaves : Scene ε → Scene ε → Prop}

/-- Where a routine that is made of two fails: in the first, or behind it in the second. -/
theorem run_bind_error {scene after : Scene ε} {failure : Failure}
    (failed : (routine >>= next).run scene = .reached (.error failure, after)) :
    routine.run scene = .reached (.error failure, after) ∨
      ∃ a middle, routine.run scene = .reached (.ok a, middle) ∧
        (next a).run middle = .reached (.error failure, after) := by
  rw [run_bind] at failed
  cases ran : routine.run scene with
  | aborted => simp [ran] at failed
  | reached step =>
      rcases step with ⟨refused | a, middle⟩
      · simp only [ran, Course.reached.injEq, Prod.mk.injEq, Except.error.injEq] at failed
        obtain ⟨rfl, rfl⟩ := failed
        exact .inl rfl
      · simp only [ran] at failed
        exact .inr ⟨a, middle, rfl, failed⟩

theorem run_bind_answered {scene after : Scene ε} {b : β}
    (answered : (routine >>= next).run scene = .reached (.ok b, after)) :
    ∃ a middle, routine.run scene = .reached (.ok a, middle) ∧
      (next a).run middle = .reached (.ok b, after) := by
  rw [run_bind] at answered
  cases ran : routine.run scene with
  | aborted => simp [ran] at answered
  | reached step =>
      rcases step with ⟨refused | a, middle⟩
      · simp [ran] at answered
      · simp only [ran] at answered
        exact ⟨a, middle, rfl, answered⟩

/-! Routines that do not fail. -/

theorem total_pure (a : α) : (pure a : Routine ε α).Total := by
  rintro scene failure after ⟨⟩

theorem total_change (write : Scene ε → Scene ε) : (change write).Total := by
  rintro scene failure after ⟨⟩

theorem total_changeMachine (write : Machine → Machine) :
    (changeMachine write : Routine ε Unit).Total :=
  total_change _

theorem total_observe (note : Observer → Observer) : (observe note : Routine ε Unit).Total :=
  total_change _

theorem total_reserve (bytes : Nat) : (reserve bytes : Routine ε Unit).Total := by
  intro scene failure after failed
  unfold reserve Machine.reserving System.reserving at failed
  dsimp only at failed
  split at failed <;> cases failed

theorem Total.bind (total : routine.Total) (later : ∀ a, (next a).Total) :
    (routine >>= next).Total := by
  intro scene failure after failed
  rcases run_bind_error failed with refused | ⟨a, middle, -, refused⟩
  · exact total refused
  · exact later a refused

theorem Total.view {read : Scene ε → α} (later : ∀ a, (next a).Total) :
    (view read >>= next).Total :=
  fun _ _ _ failed => later _ failed

theorem Total.ite {condition : Prop} [Decidable condition] (total : routine.Total)
    (total' : other.Total) : (if condition then routine else other).Total := by
  split
  · exact total
  · exact total'

/-! Routines that leave the scene as it was. -/

theorem still_pure (a : α) : (pure a : Routine ε α).Still := by
  rintro b scene after ⟨⟩
  rfl

theorem still_raise (site : Site) (failure : Failure) :
    (raise site failure : Routine ε α).Still := by
  rintro b scene after ⟨⟩

theorem still_reserve (bytes : Nat) : (reserve bytes : Routine ε Unit).Still := by
  intro _ scene after answered
  unfold reserve Machine.reserving System.reserving at answered
  dsimp only at answered
  split at answered
  · cases answered
    rfl
  · cases answered

theorem Still.bind (still : routine.Still) (later : ∀ a, (next a).Still) :
    (routine >>= next).Still := by
  intro b scene after answered
  obtain ⟨a, middle, first, second⟩ := run_bind_answered answered
  obtain rfl := still a first
  exact later a b second

theorem Still.ite {condition : Prop} [Decidable condition] (still : routine.Still)
    (still' : other.Still) : (if condition then routine else other).Still := by
  split
  · exact still
  · exact still'

/-! How routines leave the scene that fail. -/

theorem Clean.atomic (clean : routine.Clean) : routine.Atomic :=
  fun _ _ _ failed => (clean failed).spares

theorem clean_raise (site : Site) (failure : Failure) :
    (raise site failure : Routine ε α).Clean := by
  rintro scene refused after ⟨⟩
  exact ⟨failure.calledAt site, rfl⟩

theorem Total.failsTo (total : routine.Total) : routine.FailsTo leaves :=
  fun _ _ _ failed => (total failed).elim

/-- What comes behind an answer does not fail, or the scene is then as it was. -/
theorem FailsTo.bind (first : routine.FailsTo leaves)
    (later : ∀ a, (next a).Total ∨ routine.StillAt a ∧ (next a).FailsTo leaves) :
    (routine >>= next).FailsTo leaves := by
  intro scene failure after failed
  rcases run_bind_error failed with refused | ⟨a, middle, answered, refused⟩
  · exact first refused
  · rcases later a with total | ⟨still, second⟩
    · exact (total refused).elim
    · obtain rfl := still answered
      exact second refused

/-- A check in front of what may fail. -/
theorem FailsTo.bind_still (first : routine.FailsTo leaves) (still : routine.Still)
    (later : ∀ a, (next a).FailsTo leaves) : (routine >>= next).FailsTo leaves :=
  first.bind fun a => .inr ⟨still a, later a⟩

theorem FailsTo.bind_total (first : routine.FailsTo leaves) (later : ∀ a, (next a).Total) :
    (routine >>= next).FailsTo leaves :=
  first.bind fun a => .inl (later a)

theorem FailsTo.view {read : Scene ε → α} (later : ∀ a, (next a).FailsTo leaves) :
    (view read >>= next).FailsTo leaves :=
  fun _ _ _ failed => later _ failed

theorem FailsTo.ite {condition : Prop} [Decidable condition] (first : routine.FailsTo leaves)
    (second : other.FailsTo leaves) : (if condition then routine else other).FailsTo leaves := by
  split
  · exact first
  · exact second

/-- A warning in front of a failure. -/
theorem atomic_warn_raise {note : Observer → Observer} (warns : ∀ o : Observer, o.Warns (note o))
    (site : Site) (failure : Failure) :
    (observe note >>= fun _ => raise site failure : Routine ε α).Atomic := by
  rintro scene refused after ⟨⟩
  exact scene.spares_report warns _

/-- A warning behind a failure. -/
theorem Clean.onFailure (clean : routine.Clean) {note : Observer → Observer}
    (warns : ∀ o : Observer, o.Warns (note o)) :
    (routine.onFailure fun machine => machine.observe (note machine.observer)).Atomic := by
  intro scene failure after failed
  unfold Routine.onFailure at failed
  dsimp only at failed
  split at failed
  · rename_i refused middle ran
    cases failed
    obtain ⟨raised, rfl⟩ := clean ran
    exact ⟨⟨_, _, warns scene.machine.observer, rfl⟩, rfl, rfl, rfl⟩
  · exact (clean failed).spares

end Rules

end Routine

end Failures

end Underlay
