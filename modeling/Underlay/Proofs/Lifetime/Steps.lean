import Underlay.Proofs.Lifetime.Run
import Underlay.Proofs.Pools.Doubling
import Underlay.Proofs.Pools.Step

/-!
# What a command does to the capacity of pools

A pool is opened with a capacity that is neither zero nor more than a size, whatever was asked for,
if the session has one to fall back on. From then on its capacity stays or is at least doubled, and
each time it is doubled the growths go up by one. `Fate` says this of the pool of one number, `Step`
of all of them.
-/

namespace Underlay

theorem Pool.le_addressLimit_of_make {system : System} {id capacity : Nat} {o o' : Observer}
    {p : Pool} (done : make system id capacity o = (.ok p, o')) : capacity ≤ addressLimit := by
  by_contra above
  simp [make, refusal?, admitBuffer, above] at done

namespace Lifetime

/-- What carving can do to the buffer of a pool. -/
inductive Resized (p p' : Pool) : Prop where
  | kept (id : p'.id = p.id) (capacity : p'.capacity = p.capacity)
      (growths : p'.growths = p.growths)
  | grown (id : p'.id = p.id) (doubled : 2 * p.capacity ≤ p'.capacity)
      (below : p'.capacity < Word.limit) (growths : p'.growths = p.growths + 1)

theorem Resized.id {p p' : Pool} (resized : Resized p p') : p'.id = p.id := by
  cases resized with
  | kept id capacity growths => exact id
  | grown id doubled below growths => exact id

theorem resized_self (p : Pool) : Resized p p :=
  .kept rfl rfl rfl

theorem resized_of_alloc {p p' : Pool} {system : System} {size : Nat} {o o' : Observer}
    {handle : Handle} (done : p.alloc system size o = (.ok (handle, p'), o')) : Resized p p' := by
  have measured := Pool.measured_of_alloc done
  obtain ⟨-, -, room, rfl, ⟨fits, rfl, -⟩ | ⟨short, grows⟩⟩ := Pool.alloc_ok_cases done
  · exact .kept rfl rfl rfl
  · obtain ⟨capacity, event, enlarged, rfl, -⟩ := Pool.grow_ok_cases grows
    obtain ⟨counted, doublings, doubled, -⟩ := measured.grows short
    refine .grown rfl ?_ (Pool.lt_limit_of_enlarge short enlarged) counted
    rw [doubled, Nat.pow_succ, ← Nat.mul_assoc, Nat.mul_comm 2]
    exact Nat.mul_le_mul_right 2 (Nat.le_mul_of_pos_right _ (Nat.two_pow_pos _))

/-- What becomes of the pool of one number. -/
inductive Fate (before after : Machine) (pool : Nat) : Prop where
  | absent (gone : after.pool? pool = none)
  | opened {p : Pool} (new : before.session.poolsOpened < pool)
      (given : pool ≤ after.session.poolsOpened) (absent : before.pool? pool = none)
      (found : after.pool? pool = some p) (positive : 0 < p.capacity)
      (below : p.capacity < Word.limit) (growths : p.growths = 0)
  | resized {p p' : Pool} (found : before.pool? pool = some p)
      (found' : after.pool? pool = some p') (resized : Resized p p')

theorem Fate.same {before after : Machine} {pool : Nat}
    (same : after.pool? pool = before.pool? pool) : Fate before after pool := by
  cases found : before.pool? pool with
  | none => exact .absent (same.trans found)
  | some p => exact .resized found (same.trans found) (resized_self p)

structure Step (before after : Machine) : Prop where
  capacity : 0 < after.session.poolCapacity
  counter : before.session.poolsOpened ≤ after.session.poolsOpened
  fate (pool : Nat) : Fate before after pool

section Calls

variable {machine after : Machine} {pool : Nat} {p : Pool}

theorem step_same (capacity : 0 < after.session.poolCapacity)
    (counter : after.session.poolsOpened = machine.session.poolsOpened)
    (pools : after.pool? = machine.pool?) : Step machine after :=
  ⟨capacity, Nat.le_of_eq counter.symm, fun pool => .same (congrFun pools pool)⟩

theorem step_changed {p' : Option Pool} (capacity : 0 < after.session.poolCapacity)
    (counter : after.session.poolsOpened = machine.session.poolsOpened)
    (found : machine.pool? pool = some p)
    (pools : after.pool? = Function.update machine.pool? pool p')
    (resizes : ∀ q, p' = some q → Resized p q) : Step machine after := by
  refine ⟨capacity, Nat.le_of_eq counter.symm, fun other => ?_⟩
  by_cases same : other = pool
  · subst same
    have reached : after.pool? other = p' := by rw [pools, Function.update_self]
    cases p' with
    | none => exact .absent reached
    | some q => exact .resized found reached (resizes q rfl)
  · exact .same (by rw [pools, Function.update_of_ne same])

theorem step_onPool {α : Type} (capacity : 0 < machine.session.poolCapacity)
    (found : machine.pool? pool = some p) (absent : Except Failure α)
    {act : Pool → Observer → Except Failure (α × Pool) × Observer}
    (resizes : ∀ answer p' o, act p machine.observer = (.ok (answer, p'), o) → Resized p p') :
    Step machine (machine.onPool pool absent act).2 := by
  rcases Machine.onPool_cases found absent act with
    ⟨failure, o, -, equation⟩ | ⟨answer, p', o, done, equation⟩
  · rw [equation]
    exact step_same capacity rfl rfl
  · rw [equation]
    have resized := resizes answer p' o done
    have named : p'.id = pool := resized.id.trans (Machine.id_of_pool? found)
    refine step_changed capacity rfl found (Machine.pool?_setPool_eq_update found named) ?_
    rintro q ⟨⟩
    exact resized

/-- A new pool has the capacity that was asked for, and else the one of the session. -/
theorem step_openPool (capacity : 0 < machine.session.poolCapacity) (asked : Option Nat) :
    Step machine (machine.openPool asked).2 := by
  have positive :
      0 < if asked.getD 0 = 0 then machine.session.poolCapacity else asked.getD 0 := by
    split <;> omega
  rcases made : Pool.make machine.session.system (machine.session.poolsOpened + 1)
      (if asked.getD 0 = 0 then machine.session.poolCapacity else asked.getD 0)
      machine.session.observer with ⟨failure | p, o⟩
  · rw [Machine.openPool_of_make_error made]
    exact step_same capacity rfl rfl
  · rw [Machine.openPool_of_make_ok made]
    refine ⟨capacity, Nat.le_succ _, fun pool => ?_⟩
    have admitted := Nat.lt_of_le_of_lt (Pool.le_addressLimit_of_make made) Pool.addressLimit_lt
    have made := Pool.make_eq_ok made
    have number : p.id = machine.session.poolsOpened + 1 := by rw [made]
    have found := Machine.pool?_append machine
      { machine.session.observe o with poolsOpened := machine.session.poolsOpened + 1 } p pool
    cases before : machine.pool? pool with
    | some other =>
        rw [before, Option.some_or] at found
        exact .same (found.trans before.symm)
    | none =>
        rw [before, Option.none_or] at found
        by_cases named : p.id = pool
        · rw [if_pos named] at found
          refine .opened (by omega) (Nat.le_of_eq (named.symm.trans number)) before found ?_ ?_ ?_
          · rw [made]
            exact positive
          · rw [made]
            exact admitted
          · rw [made]
        · rw [if_neg named] at found
          exact .absent found

theorem snd_outcome {α : Type} (event : α → Pools.Event) (call : Except Failure α × Machine) :
    (Pools.outcome event call).2 = call.2 := by
  rcases call with ⟨failure | answer, machine⟩ <;> rfl

theorem step_onOpen {call : Pools.Event × Machine} (capacity : 0 < machine.session.poolCapacity)
    (answered : ∀ p, machine.pool? pool = some p → Step machine call.2) :
    Step machine (Pools.onOpen machine pool call).2 := by
  unfold Pools.onOpen
  cases found : machine.pool? pool with
  | none => exact step_same capacity rfl rfl
  | some p => exact answered p found

theorem step_alloc {size : Nat} {event : Handle → Pools.Event}
    (capacity : 0 < machine.session.poolCapacity) :
    Step machine
      (Pools.onOpen machine pool (Pools.outcome event (machine.poolAlloc pool size))).2 := by
  apply step_onOpen capacity
  intro p found
  rw [snd_outcome]
  apply step_onPool capacity found
  intro handle p' o done
  exact resized_of_alloc done

/-- Access through a handle leaves the buffer of the pool as large as it is. -/
theorem step_withIssued {α : Type} {run : Run Machine Pools.Event} {handle : Handle}
    {event : α → Pools.Event} {absent : Except Failure α}
    {access : Pool → Except Failure (α × Pool)} (capacity : 0 < run.state.session.poolCapacity)
    (keeps : ∀ p answer p', access p = .ok (answer, p') → Resized p p') :
    Step run.state
      (Pools.withIssued run pool handle
        (Pools.outcome event (run.state.onPool pool absent fun p o => (access p, o)))).2 := by
  unfold Pools.withIssued
  split
  · apply step_onOpen capacity
    intro p found
    rw [snd_outcome]
    apply step_onPool capacity found
    intro answer p' o done
    exact keeps p answer p' (Prod.mk.inj done).1
  · exact step_same capacity rfl rfl

theorem exists_of_map {α β : Type} {result : Except Failure α} {f : α → β} {b : β}
    (done : result.map f = .ok b) : ∃ a, result = .ok a ∧ f a = b := by
  cases result with
  | error failure => cases done
  | ok a => exact ⟨a, rfl, Except.ok.inj done⟩

theorem resized_of_bytes {p p' : Pool} {handle : Handle} {answer : List UInt8}
    (done : (p.bytes handle).map (fun bytes => (bytes, p)) = .ok (answer, p')) :
    Resized p p' := by
  obtain ⟨bytes, -, ⟨⟩⟩ := exists_of_map done
  exact resized_self p

theorem resized_of_write {p p' : Pool} {handle : Handle} {start : Nat} {bytes : List UInt8}
    {answer : Unit}
    (done : (p.write handle start bytes).map (fun p => ((), p)) = .ok (answer, p')) :
    Resized p p' := by
  obtain ⟨written, result, ⟨⟩⟩ := exists_of_map done
  obtain ⟨-, rfl⟩ := Pool.write_eq_ok result
  exact .kept rfl rfl rfl

theorem step_resetPool (capacity : 0 < machine.session.poolCapacity)
    (found : machine.pool? pool = some p) : Step machine (machine.resetPool pool) := by
  have named := Machine.id_of_pool? found
  obtain ⟨o, equation⟩ := Machine.resetPool_of_pool? found
  rw [equation]
  refine step_changed capacity rfl found (Machine.pool?_setPool_eq_update found named) ?_
  rintro q ⟨⟩
  exact .kept rfl rfl rfl

theorem step_closePool (capacity : 0 < machine.session.poolCapacity)
    (found : machine.pool? pool = some p) : Step machine (machine.closePool pool) := by
  have setting : (machine.closePool pool).session.poolCapacity = machine.session.poolCapacity := by
    unfold Machine.closePool
    cases machine.pool? pool <;> rfl
  exact step_changed (setting ▸ capacity) (Machine.poolsOpened_closePool machine pool) found
    (Machine.pool?_closePool_eq_update machine pool) nofun

theorem step_pools {run : Run Machine Pools.Event}
    (capacity : 0 < run.state.session.poolCapacity) (command : Pools.Command) :
    Step run.state (Pools.perform run command).2 := by
  cases command with
  | openPool asked =>
      simp only [Pools.perform, snd_outcome]
      exact step_openPool capacity asked
  | alloc pool size => exact step_alloc capacity
  | allocRaw pool size => exact step_alloc capacity
  | bytes pool handle =>
      exact step_withIssued capacity fun p answer p' done => resized_of_bytes done
  | write pool handle start bytes =>
      exact step_withIssued capacity fun p answer p' done => resized_of_write done
  | fill pool handle byte =>
      refine step_withIssued capacity fun p answer p' done => ?_
      rw [Pool.fill_eq_write] at done
      exact resized_of_write done
  | reset pool => exact step_onOpen capacity fun p found => step_resetPool capacity found
  | close pool => exact step_onOpen capacity fun p found => step_closePool capacity found
  | setSystem system => exact step_same capacity rfl rfl

end Calls

end Lifetime

end Underlay
