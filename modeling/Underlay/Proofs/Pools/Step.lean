import Mathlib.Logic.Function.Basic
import Underlay.Proofs.Pools.Run

/-!
# What a command can do to pools

`Change` lists what a call can do to one open pool, with the event that tells it. `Step` says what
a command does to all pools: nothing, or a new pool behind the others, or a change of one pool.
Nothing else about the calls matters to what blocks hold.
-/

namespace Underlay

namespace Machine

theorem pool?_setPool_eq_update {machine : Machine} {p p' : Pool} {id : Nat}
    (found : machine.pool? id = some p) (named : p'.id = id) :
    (machine.setPool p').pool? = Function.update machine.pool? id (some p') := by
  subst named
  funext other
  by_cases same : other = p'.id
  · subst same
    rw [pool?_setPool_self found, Function.update_self]
  · rw [pool?_setPool_of_ne machine same, Function.update_of_ne same]

theorem pool?_closePool_eq_update (machine : Machine) (id : Nat) :
    (machine.closePool id).pool? = Function.update machine.pool? id none := by
  funext other
  rw [pool?_closePool, Function.update_apply]

end Machine

namespace Pools

def Event.pool? : Event → Option Nat
  | .opened pool | .carved pool | .reset pool | .closed pool => some pool
  | .issued handle | .written handle _ _ => some handle.pool
  | .refused _ | .idle => none

inductive Change (history : List Event) (p : Pool) : Event → Option Pool → Prop where
  | issued {size : Nat} {p' : Pool} (carved : p.Carved size p') :
      Change history p
        (.issued { pool := p.id, offset := p.used, length := size, epoch := p.epoch }) (some p')
  | carved {size : Nat} {p' : Pool} (carved : p.Carved size p') :
      Change history p (.carved p.id) (some p')
  | written {handle : Handle} {start : Nat} {bytes : List UInt8}
      (issued : .issued handle ∈ history) (honoured : p.check handle = .ok ())
      (fitting : bytes.length ≤ handle.length - start) :
      Change history p (.written handle start bytes)
        (some { p with memory := p.memory.write (handle.offset + start) bytes.toArray })
  | reset : Change history p (.reset p.id)
      (some { p with used := 0, allocations := 0, epoch := p.epoch + 1 })
  | closed : Change history p (.closed p.id) none

inductive Step (before : Machine) (history : List Event) : Event → Machine → Prop where
  | quiet {event : Event} {after : Machine} (about : event.pool? = none)
      (pools : after.pool? = before.pool?)
      (counter : after.session.poolsOpened = before.session.poolsOpened) :
      Step before history event after
  | opened {after : Machine} (p : Pool) (number : p.id = before.session.poolsOpened + 1)
      (empty : p.used = 0) (zero : ∀ i < p.capacity, p.memory i = 0)
      (pools : ∀ id, after.pool? id = (before.pool? id).or (if p.id = id then some p else none))
      (counter : after.session.poolsOpened = p.id) :
      Step before history (.opened p.id) after
  | changed {event : Event} {after : Machine} {id : Nat} {p : Pool} {p' : Option Pool}
      (about : event.pool? = some id) (found : before.pool? id = some p)
      (change : Change history p event p')
      (pools : after.pool? = Function.update before.pool? id p')
      (counter : after.session.poolsOpened = before.session.poolsOpened) :
      Step before history event after

section Calls

variable {machine : Machine} {history : List Event} {pool : Nat}

theorem step_idle (machine : Machine) (history : List Event) :
    Step machine history .idle machine :=
  .quiet rfl rfl rfl

theorem step_onOpen {call : Event × Machine}
    (answered : ∀ p, machine.pool? pool = some p → Step machine history call.1 call.2) :
    Step machine history (onOpen machine pool call).1 (onOpen machine pool call).2 := by
  unfold onOpen
  cases found : machine.pool? pool with
  | none => exact step_idle machine history
  | some p => exact answered p found

theorem step_withIssued {run : Run Machine Event} {handle : Handle} {call : Event × Machine}
    (answered : .issued handle ∈ run.history → ∀ p, run.state.pool? pool = some p →
      Step run.state run.history call.1 call.2) :
    Step run.state run.history (withIssued run pool handle call).1
      (withIssued run pool handle call).2 := by
  unfold withIssued
  split
  · rename_i issued
    exact step_onOpen (answered issued)
  · exact step_idle run.state run.history

/-- A call is a step if its success changes the pool as its event tells, or not at all. -/
theorem step_outcome {α : Type} {event : α → Event} {p : Pool}
    (found : machine.pool? pool = some p)
    {act : Pool → Observer → Except Failure (α × Pool) × Observer}
    (changes : ∀ answer p' o, act p machine.observer = (.ok (answer, p'), o) → p'.id = p.id ∧
      (((event answer).pool? = some pool ∧ Change history p (event answer) (some p')) ∨
        ((event answer).pool? = none ∧ p' = p)))
    (absent : Except Failure α) :
    Step machine history (outcome event (machine.onPool pool absent act)).1
      (outcome event (machine.onPool pool absent act)).2 := by
  rcases Machine.onPool_cases found absent act with
    ⟨failure, o, -, equation⟩ | ⟨answer, p', o, done, equation⟩
  · rw [equation]
    exact .quiet rfl rfl rfl
  · rw [equation]
    have named := Machine.id_of_pool? found
    obtain ⟨kept, ⟨about, change⟩ | ⟨quiet, same⟩⟩ := changes answer p' o done
    · exact .changed about found change
        (Machine.pool?_setPool_eq_update found (kept.trans named)) rfl
    · subst same
      refine .quiet quiet ?_ rfl
      change (machine.setPool p').pool? = machine.pool?
      rw [Machine.pool?_setPool_eq_update found named, ← found, Function.update_eq_self]

theorem step_alloc {p : Pool} {size : Nat} {event : Handle → Event}
    (found : machine.pool? pool = some p)
    (changes : ∀ p', p.Carved size p' →
      let handle : Handle :=
        { pool := p.id, offset := p.used, length := size, epoch := p.epoch }
      (event handle).pool? = some pool ∧ Change history p (event handle) (some p')) :
    Step machine history (outcome event (machine.poolAlloc pool size)).1
      (outcome event (machine.poolAlloc pool size)).2 := by
  apply step_outcome found
  intro handle p' o done
  obtain ⟨rfl, carved⟩ := Pool.alloc_eq_ok done
  exact ⟨carved.id, .inl (changes p' carved)⟩

theorem step_write {p : Pool} {handle : Handle} (found : machine.pool? pool = some p)
    (issued : .issued handle ∈ history) (start : Nat) (bytes : List UInt8) :
    let call := outcome (fun _ => .written handle start (Pool.fitting handle start bytes))
      (machine.poolWrite pool handle start bytes)
    Step machine history call.1 call.2 := by
  apply step_outcome found
  intro answer p' o done
  cases result : p.write handle start bytes with
  | error failure => simp [result, Except.map] at done
  | ok written =>
      simp only [result, Except.map, Prod.mk.injEq, Except.ok.injEq] at done
      obtain ⟨⟨-, rfl⟩, -⟩ := done
      obtain ⟨honoured, rfl⟩ := Pool.write_eq_ok result
      have owner : handle.pool = pool :=
        (Pool.check_eq_ok.mp honoured).1.trans (Machine.id_of_pool? found)
      exact ⟨rfl, .inl ⟨congrArg some owner,
        .written issued honoured (Pool.length_fitting handle start bytes)⟩⟩

end Calls

theorem step_perform (run : Run Machine Event) (command : Command) :
    Step run.state run.history (perform run command).1 (perform run command).2 := by
  cases command with
  | openPool capacity =>
      rcases run.state.openPool_cases capacity with
        ⟨failure, session, opened, counter⟩ | ⟨size, session, p, zeros, opened, counter⟩
      · rw [perform, opened]
        exact .quiet rfl rfl counter
      · rw [perform, opened]
        subst zeros
        refine .opened _ rfl rfl ?_ (Machine.pool?_append run.state session _) counter
        intro i inside
        have inside : i < size := inside
        simp [Memory.fill, inside]
  | alloc pool size =>
      apply step_onOpen
      intro p found
      apply step_alloc found
      intro p' carved
      exact ⟨congrArg some (Machine.id_of_pool? found), .issued carved⟩
  | allocRaw pool size =>
      apply step_onOpen
      intro p found
      have named := Machine.id_of_pool? found
      subst named
      apply step_alloc found
      intro p' carved
      exact ⟨rfl, .carved carved⟩
  | bytes pool handle =>
      apply step_withIssued
      intro issued p found
      apply step_outcome found
      intro answer p' o done
      cases result : p.bytes handle with
      | error failure => simp [result, Except.map] at done
      | ok bytes =>
          simp only [result, Except.map, Prod.mk.injEq, Except.ok.injEq] at done
          obtain ⟨⟨-, rfl⟩, -⟩ := done
          exact ⟨rfl, .inr ⟨rfl, rfl⟩⟩
  | write pool handle start bytes =>
      apply step_withIssued
      intro issued p found
      exact step_write found issued start bytes
  | fill pool handle byte =>
      apply step_withIssued
      intro issued p found
      have same : run.state.poolFill pool handle byte =
          run.state.poolWrite pool handle 0 (List.replicate handle.length byte) := by
        simp only [Machine.poolFill, Machine.poolWrite, Pool.fill_eq_write]
      rw [same]
      simpa [Pool.fitting] using
        step_write found issued 0 (List.replicate handle.length byte)
  | reset pool =>
      apply step_onOpen
      intro p found
      have named := Machine.id_of_pool? found
      obtain ⟨o, equation⟩ := Machine.resetPool_of_pool? found
      rw [equation]
      subst named
      exact .changed rfl found .reset (Machine.pool?_setPool_eq_update found rfl) rfl
  | close pool =>
      apply step_onOpen
      intro p found
      have named := Machine.id_of_pool? found
      subst named
      exact .changed rfl found .closed (Machine.pool?_closePool_eq_update run.state p.id)
        (Machine.poolsOpened_closePool run.state p.id)
  | setSystem system => exact .quiet rfl rfl rfl

end Pools

end Underlay
