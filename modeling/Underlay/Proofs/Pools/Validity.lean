import Underlay.Proofs.Pools.Isolation

/-!
# How long a handle is honoured

A handle is honoured by the pool that issued it until that pool is reset, and by no other pool. One
direction needs numbers and epochs that never come back: a reset moves a pool to the next epoch and
nothing else moves it, and a pool that was closed is never opened again. The other direction needs
current handles to stay inside the used part, which is the invariant of `Isolation`.
-/

namespace Underlay

namespace Pool

variable {p : Pool} {h : Handle}

/-- A handle that is not honoured is refused for its value. -/
theorem check_eq_error (refused : p.check h ≠ .ok ()) :
    ∃ failure, p.check h = .error failure ∧ failure.kind = .value := by
  unfold check at refused ⊢
  cases objected : p.objection? h with
  | none => exact absurd (by rw [objected]) refused
  | some message => exact ⟨_, rfl, rfl⟩

end Pool

namespace Pools

/-- Every access through a handle is granted by a pool. -/
structure Honours (machine : Machine) (pool : Nat) (handle : Handle) : Prop where
  bytes : ∃ bytes, (machine.poolBytes pool handle).1 = .ok bytes
  write : ∀ start bytes, (machine.poolWrite pool handle start bytes).1 = .ok ()
  fill : ∀ byte, (machine.poolFill pool handle byte).1 = .ok ()
  address : (machine.poolAddress pool handle).1 = .ok handle.offset

/-- A call is refused for its value, and no pool is changed. -/
def Refused {α : Type} (machine : Machine) (call : Except Failure α × Machine) : Prop :=
  (∃ failure, call.1 = .error failure ∧ failure.kind = .value) ∧ call.2.pools = machine.pools

/-- Every access through a handle is refused by a pool. -/
structure Refuses (machine : Machine) (pool : Nat) (handle : Handle) : Prop where
  bytes : Refused machine (machine.poolBytes pool handle)
  write : ∀ start bytes, Refused machine (machine.poolWrite pool handle start bytes)
  fill : ∀ byte, Refused machine (machine.poolFill pool handle byte)
  address : Refused machine (machine.poolAddress pool handle)

section Access

variable {machine : Machine} {pool : Nat} {p : Pool} {handle : Handle}

theorem honours_of_check (found : machine.pool? pool = some p) (checked : p.check handle = .ok ()) :
    Honours machine pool handle := by
  refine ⟨⟨p.memory.read handle.offset handle.length, ?_⟩, ?_, ?_, ?_⟩
  · simp [Machine.poolBytes, Machine.onPool, found, Pool.bytes, checked, Except.map]
  · intro start bytes
    simp [Machine.poolWrite, Machine.onPool, found, Pool.write, checked, Except.map]
  · intro byte
    simp [Machine.poolFill, Machine.onPool, found, Pool.fill, checked, Except.map]
  · simp [Machine.poolAddress, Machine.onPool, found, Pool.address, checked, Except.map]

theorem refused_onPool {α : Type} (found : machine.pool? pool = some p)
    (absent : Except Failure α) {act : Pool → Observer → Except Failure (α × Pool) × Observer}
    {failure : Failure} (failed : (act p machine.observer).1 = .error failure)
    (value : failure.kind = .value) : Refused machine (machine.onPool pool absent act) := by
  rcases Machine.onPool_cases found absent act with
    ⟨raised, o, acted, equation⟩ | ⟨answer, p', o, acted, equation⟩
  · rw [acted] at failed
    obtain rfl := Except.error.inj failed
    rw [equation]
    exact ⟨⟨raised, rfl, value⟩, rfl⟩
  · rw [acted] at failed
    cases failed

theorem refuses_of_check (found : machine.pool? pool = some p)
    (checked : p.check handle ≠ .ok ()) : Refuses machine pool handle := by
  obtain ⟨failure, failed, value⟩ := Pool.check_eq_error checked
  refine ⟨?_, ?_, ?_, ?_⟩
  · exact refused_onPool found _ (by simp [Pool.bytes, failed, Except.map]) value
  · intro start bytes
    exact refused_onPool found _ (by simp [Pool.write, failed, Except.map]) value
  · intro byte
    exact refused_onPool found _ (by simp [Pool.fill, failed, Except.map]) value
  · exact refused_onPool found _ (by simp [Pool.address, failed, Except.map]) value

end Access

/-! What a step does to the epoch of one pool. -/

section Epoch

variable {before after : Machine} {history : List Event} {event : Event} {pool : Nat}
  {p p' : Pool}

theorem Change.epoch (change : Change history p event (some p')) :
    p'.epoch = p.epoch + [event].count (.reset p.id) := by
  cases change with
  | issued carved => simp [carved.epoch]
  | carved carved => simp [carved.epoch]
  | written issued honoured fitting => simp
  | reset => simp

theorem Step.poolsOpened_le (taken : Step before history event after) :
    before.session.poolsOpened ≤ after.session.poolsOpened := by
  cases taken with
  | quiet about pools counter => exact Nat.le_of_eq counter.symm
  | opened opened number empty zero pools counter => omega
  | changed about found change pools counter => exact Nat.le_of_eq counter.symm

/-- A number that was given out is not given out again. -/
theorem Step.pool?_eq_none (taken : Step before history event after)
    (given : pool ≤ before.session.poolsOpened) (absent : before.pool? pool = none) :
    after.pool? pool = none := by
  cases taken with
  | quiet about pools counter => rw [pools, absent]
  | opened opened number empty zero pools counter =>
      have distinct : opened.id ≠ pool := by omega
      simp [pools, absent, distinct]
  | changed about found change pools counter =>
      rename_i id old new
      have distinct : pool ≠ id := by
        rintro rfl
        simp [found] at absent
      rw [pools, Function.update_of_ne distinct, absent]

theorem Step.epoch (taken : Step before history event after)
    (found : before.pool? pool = some p) (found' : after.pool? pool = some p') :
    p'.epoch = p.epoch + [event].count (.reset pool) := by
  cases taken with
  | quiet about pools counter =>
      have other : event ≠ .reset pool := by
        rintro rfl
        cases about
      rw [pools, found, Option.some.injEq] at found'
      simp [found', other]
  | opened opened number empty zero pools counter =>
      rw [pools, found, Option.some_or, Option.some.injEq] at found'
      simp [found']
  | changed about there change pools counter =>
      rename_i id old new
      by_cases same : pool = id
      · subst same
        rw [pools, Function.update_self] at found'
        subst found'
        rw [found, Option.some.injEq] at there
        subst there
        rw [change.epoch, Machine.id_of_pool? found]
      · have other : event ≠ .reset pool := by
          rintro rfl
          exact same (Option.some.inj about)
        rw [pools, Function.update_of_ne same, found, Option.some.injEq] at found'
        simp [found', other]

end Epoch

section Runs

variable {run : Run Machine Event} {pool : Nat} {commands : List Command}

theorem pool?_steps_eq_none (given : pool ≤ run.state.session.poolsOpened)
    (absent : run.state.pool? pool = none) :
    (run.steps perform commands).state.pool? pool = none := by
  induction commands generalizing run with
  | nil => exact absent
  | cons command commands inductionHypothesis =>
      have taken := step_perform run command
      exact @inductionHypothesis (run.step perform command)
        (Nat.le_trans given taken.poolsOpened_le) (taken.pool?_eq_none given absent)

/-- The epoch of a pool counts its resets. -/
theorem epoch_steps {p p' : Pool} (given : pool ≤ run.state.session.poolsOpened)
    (found : run.state.pool? pool = some p)
    (found' : (run.steps perform commands).state.pool? pool = some p') :
    p'.epoch = p.epoch + (run.events perform commands).count (.reset pool) := by
  induction commands generalizing run p with
  | nil =>
      change run.state.pool? pool = some p' at found'
      rw [found, Option.some.injEq] at found'
      simp [Run.events, found']
  | cons command commands inductionHypothesis =>
      have taken := step_perform run command
      have given' := Nat.le_trans given taken.poolsOpened_le
      cases between : (perform run command).2.pool? pool with
      | none =>
          -- Its number is not given out again, so the pool is not there in the end either.
          have closed : ((run.step perform command).steps perform commands).state.pool? pool =
              none := pool?_steps_eq_none given' between
          rw [Run.steps, List.foldl_cons] at found'
          cases closed.symm.trans found'
      | some q =>
          have later := @inductionHypothesis (run.step perform command) q given' between found'
          rw [later, taken.epoch found between, Run.events, List.count_append]
          omega

end Runs

/-- A handle that a call gives out is of the pool that was asked, in its epoch. -/
theorem pool?_of_issued {run : Run Machine Event} {pool size : Nat} {handle : Handle}
    (issued : (perform run (.alloc pool size)).1 = .issued handle) :
    ∃ p, (perform run (.alloc pool size)).2.pool? pool = some p ∧
      handle.pool = pool ∧ handle.epoch = p.epoch := by
  simp only [perform, onOpen] at issued ⊢
  cases found : run.state.pool? pool with
  | none => simp [found] at issued
  | some p =>
      have named := Machine.id_of_pool? found
      simp only [found, Option.isSome_some, if_true, Machine.poolAlloc] at issued ⊢
      rcases Machine.onPool_cases found (.ok default)
          (fun pool o => pool.alloc run.state.session.system size o) with
        ⟨failure, o, -, equation⟩ | ⟨answer, p', o, done, equation⟩
      · rw [equation] at issued
        cases issued
      · rw [equation] at issued ⊢
        obtain rfl : answer = handle := Event.issued.inj issued
        obtain ⟨rfl, carved⟩ := Pool.alloc_eq_ok done
        refine ⟨p', ?_, named, carved.epoch.symm⟩
        change (run.state.setPool p').pool? pool = some p'
        rw [Machine.pool?_setPool_eq_update found (carved.id.trans named), Function.update_self]

section Later

variable {run : Run Machine Event} {pool asked : Nat} {p p' : Pool} {handle : Handle}
  {commands : List Command}

theorem Tracks.given (tracks : Tracks run) (found : run.state.pool? pool = some p) :
    pool ≤ run.state.session.poolsOpened := by
  by_contra above
  have absent := (tracks.unused pool (Nat.lt_of_not_le above)).1
  rw [found] at absent
  cases absent

/-- A handle of an earlier time passes the check of the pool that issued it as long as that pool is
not reset, and passes no other check. -/
theorem Tracks.check_eq_ok_iff (tracks : Tracks run) (issued : .issued handle ∈ run.history)
    (issuer : run.state.pool? pool = some p) (owner : handle.pool = pool)
    (epoch : handle.epoch = p.epoch)
    (found : (run.steps perform commands).state.pool? asked = some p') :
    p'.check handle = .ok () ↔ asked = pool ∧ .reset pool ∉ run.events perform commands := by
  have named := Machine.id_of_pool? found
  have later : Tracks (run.steps perform commands) :=
    Run.steps_induction perform (fun run command tracks => tracks.step (step_perform run command))
      tracks commands
  constructor
  · intro checked
    -- Number and epoch are those of the issue, and a reset would have moved the epoch on.
    obtain ⟨self, same, -⟩ := Pool.check_eq_ok.mp checked
    obtain rfl : asked = pool := by rw [← owner, self, named]
    refine ⟨rfl, fun reset => ?_⟩
    have moved := epoch_steps (tracks.given issuer) issuer found
    have counted : 0 < (run.events perform commands).count (.reset asked) :=
      List.count_pos_iff.mpr reset
    omega
  · rintro ⟨rfl, unreset⟩
    have kept := epoch_steps (tracks.given issuer) issuer found
    rw [List.count_eq_zero_of_not_mem unreset, Nat.add_zero] at kept
    have agrees := later.agrees asked
    rw [found] at agrees
    obtain ⟨-, holds⟩ := agrees
    have self : handle.pool = p'.id := owner.trans named.symm
    have mentioned : .issued handle ∈ (run.steps perform commands).history := by
      rw [Run.history_steps]
      exact List.mem_append_right _ issued
    have current := (holds.epochs handle self mentioned).2 (epoch.trans kept.symm)
    exact holds.honoured handle self current

end Later

/-- At any later time a handle is honoured by the pool that issued it, if that pool was not reset
since, and is refused by it otherwise and by every other open pool always. -/
theorem access_of_run (machine : Machine) (idle : machine.pools = []) (before after : List Command)
    (pool size : Nat) (handle : Handle)
    (issued : (perform (run machine before) (.alloc pool size)).1 = .issued handle) :
    let since := (run machine before).step perform (.alloc pool size)
    let ran := since.steps perform after
    ∀ asked p, ran.state.pool? asked = some p →
      (asked = pool ∧ .reset pool ∉ since.events perform after →
        Honours ran.state asked handle) ∧
      (¬(asked = pool ∧ .reset pool ∉ since.events perform after) →
        Refuses ran.state asked handle) := by
  intro since ran asked p found
  have tracks : Tracks since :=
    (tracks_run idle before).step (step_perform (run machine before) (.alloc pool size))
  have mentioned : .issued handle ∈ since.history := by
    rw [← issued]
    exact List.mem_cons_self
  obtain ⟨issuer, there, owner, epoch⟩ := pool?_of_issued issued
  have checks := tracks.check_eq_ok_iff mentioned there owner epoch found
  constructor
  · intro valid
    exact honours_of_check found (checks.mpr valid)
  · intro invalid
    exact refuses_of_check found fun checked => invalid (checks.mp checked)

/-- A handle outlives a growth of its pool, failures, and a reset of another pool that then closes;
a third pool refuses it though it gave out the same place. A reset of its own pool ends it. -/
theorem access_of_run_until_reset :
    let handle : Handle := { pool := 1, offset := 0, length := 5, epoch := 0 }
    let before : List Command := [.openPool (some 8), .openPool (some 16)]
    let after : List Command :=
      [.alloc 1 100, .setSystem { grants := fun _ => false }, .alloc 2 500, .openPool none,
        .setSystem {}, .reset 2, .close 2, .openPool (some 8), .alloc 3 5]
    let later : List Command := after ++ [.reset 1]
    let since := (run {} before).step perform (.alloc 1 5)
    ({} : Machine).pools = [] ∧ (perform (run {} before) (.alloc 1 5)).1 = .issued handle ∧
      Honours (since.steps perform after).state 1 handle ∧
      Refuses (since.steps perform after).state 3 handle ∧
      Refuses (since.steps perform later).state 1 handle := by
  intro handle before after later since
  have issued : (perform (run {} before) (.alloc 1 5)).1 = .issued handle := by decide +kernel
  have opened : ((since.steps perform after).state.pool? 1).isSome ∧
      ((since.steps perform after).state.pool? 3).isSome ∧
      ((since.steps perform later).state.pool? 1).isSome := by decide +kernel
  have resets : .reset 1 ∉ since.events perform after ∧
      .reset 1 ∈ since.events perform later := by decide +kernel
  obtain ⟨first, third, last⟩ := opened
  refine ⟨rfl, issued, ?_, ?_, ?_⟩
  · obtain ⟨p, found⟩ := Option.isSome_iff_exists.mp first
    exact (access_of_run {} rfl before after 1 5 handle issued 1 p found).1 ⟨rfl, resets.1⟩
  · obtain ⟨p, found⟩ := Option.isSome_iff_exists.mp third
    exact (access_of_run {} rfl before after 1 5 handle issued 3 p found).2
      fun valid => by cases valid.1
  · obtain ⟨p, found⟩ := Option.isSome_iff_exists.mp last
    exact (access_of_run {} rfl before later 1 5 handle issued 1 p found).2
      fun valid => absurd resets.2 valid.2

end Pools

end Underlay
