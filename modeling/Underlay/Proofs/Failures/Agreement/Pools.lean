import Mathlib.Data.List.Nodup
import Underlay.Proofs.Failures.Agreement.Heaps

/-!
# Routines and operations agree on scopes and pools
-/

namespace Underlay

namespace Machine

variable (machine : Machine)

theorem setPool_self {machine : Machine} {id : Nat} {p : Pool}
    (distinct : (machine.pools.map Pool.id).Nodup) (found : machine.pool? id = some p) :
    machine.setPool p = machine := by
  have listed : p ∈ machine.pools := List.mem_of_find?_eq_some found
  have same : (machine.pools.map fun old => if old.id == p.id then p else old) =
      machine.pools.map fun old => old := by
    apply List.map_congr_left
    intro old known
    split
    · rename_i numbered
      exact (List.inj_on_of_nodup_map distinct known listed (by simpa using numbered)).symm
    · rfl
  unfold setPool
  rw [same, List.map_id']

/-- A pool that is set twice is as it was set last. -/
theorem setPool_setPool {p q : Pool} (same : p.id = q.id) :
    (machine.setPool p).setPool q = machine.setPool q := by
  simp only [setPool, List.map_map]
  congr 2
  funext old
  by_cases this : old.id = q.id <;> simp [this, same]

end Machine

namespace Failures.Routine

variable {ε α : Type}

/-! Scopes -/

section Scopes

variable (site : Site) (id : Nat)

/-- A machine behind a call, changed once more if the call failed. -/
def onFailed (write : Machine → Machine) (call : Except Failure α × Machine) :
    Except Failure α × Machine :=
  match call with
  | (.ok a, machine) => (.ok a, machine)
  | (.error failure, machine) => (.error failure, write machine)

theorem Performs.onFailure {routine : Routine ε α} {room : Machine → Nat}
    {call : Machine → Except Failure α × Machine} (performs : routine.Performs site room call)
    (write : Machine → Machine)
    (apart : ∀ machine slot, write (machine.setSlot slot) = (write machine).setSlot slot) :
    (routine.onFailure write).Performs site room fun machine => onFailed write (call machine) := by
  intro scene
  unfold Routine.onFailure
  dsimp only
  rw [performs scene]
  cases reserved : scene.machine.session.system.reserves (room scene.machine) with
  | false => simp [Machine.reserving, System.reserving, reserved]
  | true =>
      simp only [Machine.reserving, System.reserving, reserved, if_true]
      rcases answered : call scene.machine with ⟨failure | a, machine⟩
      · simp only [Scene.answer, onFailed, Scene.report, Scene.withMachine, apart]
      · rfl

theorem run_push (name : String) (block : BlockId) (size : Option Nat) {scene : Scene ε}
    {s : OpenScope} (found : scene.machine.scope? id = some s) :
    (push id name block size).run scene =
      let (pushed, o) := s.scope.push name block size scene.machine.observer
      .reached (.ok (), scene.withMachine ((scene.machine.setScope pushed).observe o)) := by
  obtain rfl := Machine.id_of_scope? found
  let pushed : Scope := { s.scope with owned := { block, size } :: s.scope.owned }
  have behind : (scene.machine.setScope pushed).scope? pushed.id = _ :=
    Machine.scope?_setScope_self found
  unfold push
  rw [run_changeMachine_bind, run_view_bind]
  simp only [found, Scene.machine_withMachine]
  rw [behind]
  rfl

theorem performs_own (name : String) (warned size : Nat) {request : HeapId → Routine ε BlockId}
    {room : Machine → HeapId → Nat}
    {act : Heap → Observer → Except Failure (BlockId × Heap × Observer)}
    (performs : ∀ heap, (request heap).Performs site (room · heap) (·.onHeap heap act)) :
    (own id name warned size request).Performs site (·.scopeRoom id room)
      (·.onScope id (.ok default) fun s h o =>
        match act h o with
        | .error failure => (.error failure, s.warn name warned o)
        | .ok (block, h, o) =>
            let (s, o) := s.push name block (some size) o
            (.ok (block, s, h), o)) := by
  intro scene
  unfold own Machine.scopeRoom Machine.onScope
  rw [run_view_bind]
  cases found : scene.machine.scope? id with
  | none =>
      simp only [found]
      rfl
  | some s =>
      simp only [found, Option.map_some, Option.getD_some]
      let warn (machine : Machine) := machine.observe (s.scope.warn name warned machine.observer)
      apply run_bind_answer
        ((performs s.heap).onFailure site warn (fun _ _ => rfl) scene)
      · intro block machine answered
        dsimp only [Machine.onHeap] at answered
        cases obtained : act (scene.machine.heap s.heap) scene.machine.observer with
        | error failure => simp [obtained, onFailed] at answered
        | ok granted =>
            simp only [obtained, onFailed, Prod.mk.injEq, Except.ok.injEq] at answered
            obtain ⟨rfl, rfl⟩ := answered
            have present : (scene.withMachine ((scene.machine.setHeap s.heap granted.2.1).observe
                granted.2.2)).machine.scope? id = some s := found
            rw [run_bind_of_ok (run_push id name granted.1 (some size) present)]
            rfl
      · intro failure machine answered
        dsimp only [Machine.onHeap] at answered
        cases obtained : act (scene.machine.heap s.heap) scene.machine.observer with
        | error refused =>
            simp only [obtained, onFailed, Prod.mk.injEq, Except.error.injEq] at answered
            obtain ⟨rfl, rfl⟩ := answered
            rfl
        | ok granted => simp [obtained, onFailed] at answered

theorem performs_scopeAlloc (size : Nat) :
    (scopeAlloc site id size : Routine ε _).Performs site
      (·.scopeRoom id fun machine heap => machine.requestRoom heap size)
      (·.scopeAlloc id size) :=
  performs_own site id "alloc" size size fun heap => performs_malloc site heap size

theorem performs_scopeAllocZeroed (count size : Nat) :
    (scopeAllocZeroed site id count size : Routine ε _).Performs site
      (·.scopeRoom id fun machine heap => machine.arrayRoom heap count size)
      (·.scopeAllocZeroed id count size) :=
  performs_own site id "alloc_zeroed" _ _ fun heap => performs_calloc site heap count size

theorem performs_scopeRegister (block : Option BlockId) :
    (scopeRegister site id block : Routine ε _).Performs site (fun _ => 0)
      (·.scopeRegister id block) := by
  intro scene
  unfold scopeRegister Machine.scopeRegister Machine.onScope
  rw [run_view_bind]
  cases found : scene.machine.scope? id with
  | none =>
      simp only [found]
      rfl
  | some s =>
      simp only [found]
      cases block with
      | none => rfl
      | some block =>
          dsimp only [Scope.register]
          rw [run_push id "register" block none found]
          simp only [Except.map, Machine.setHeap_heap]
          rfl

end Scopes

/-! Pools -/

section Pools

variable (site : Site)

theorem run_layout_bind (capacity : Nat) (next : Unit → Routine ε α) (scene : Scene ε) :
    (layout site capacity >>= next).run scene =
      match Pool.admitBuffer capacity with
      | .ok _ => (next ()).run scene
      | .error failure =>
          .reached (.error (failure.calledAt site), scene.report (failure.calledAt site)) := by
  unfold layout Pool.admitBuffer
  split <;> rfl

theorem performs_openPool (asked : Option Nat) :
    (openPool site asked : Routine ε _).Performs site (fun _ => 0) (·.openPool asked) := by
  intro scene
  unfold openPool
  rw [run_view_bind]
  dsimp only
  rw [run_layout_bind]
  generalize chosen : (if asked.getD 0 = 0 then scene.machine.session.poolCapacity
    else asked.getD 0) = capacity
  cases admitted : Pool.admitBuffer capacity with
  | error failure =>
      have refuses : Pool.refusal? scene.machine.session.system capacity = some failure := by
        simp only [Pool.refusal?, admitted]
      simp only [Machine.openPool, Session.openPool, Pool.make, chosen, refuses]
      rfl
  | ok =>
      dsimp only
      split
      · rename_i granted
        have refuses : Pool.refusal? scene.machine.session.system capacity = none := by
          simp only [Pool.refusal?, admitted, granted, if_true]
        simp only [Machine.openPool, Session.openPool, Pool.make, chosen, refuses]
        rfl
      · rename_i refused
        simp only [Machine.openPool, Session.openPool, Pool.make, Pool.refusal?, chosen, admitted,
          if_neg refused]
        rfl

variable (id : Nat) {scene : Scene ε} {p : Pool}

theorem run_self_bind (found : scene.machine.pool? id = some p) (next : Pool → Routine ε α) :
    (self id >>= next).run scene = (next p).run scene := by
  unfold self
  rw [run_view_bind, found]
  rfl

/-- A scene with another state of a pool, after something was noted. -/
def atPool (scene : Scene ε) (p : Pool) (o : Observer) : Scene ε :=
  scene.withMachine ((scene.machine.setPool p).observe o)

theorem pool?_atPool (found : scene.machine.pool? id = some p) {q : Pool} (same : q.id = p.id)
    (o : Observer) : (atPool scene q o).machine.pool? id = some q := by
  obtain rfl := Machine.id_of_pool? found
  rw [← same] at found ⊢
  exact Machine.pool?_setPool_self found

/-- What is written first to a pool. -/
theorem run_changePool (found : scene.machine.pool? id = some p) (write : Pool → Pool) :
    (changePool id write).run scene =
      .reached (.ok (), atPool scene (write p) scene.machine.observer) := by
  unfold changePool
  rw [run_changeMachine, found]
  rfl

theorem atPool_atPool {q q' : Pool} (same : q.id = q'.id) (o o' : Observer) :
    atPool (atPool scene q o) q' o' = atPool scene q' o' := by
  unfold atPool
  rw [← scene.machine.setPool_setPool same]
  rfl

/-- What is written to a pool later. -/
theorem run_changePool_atPool (found : scene.machine.pool? id = some p) {q : Pool}
    (same : q.id = p.id) {write : Pool → Pool} (keeps : (write q).id = q.id) (o : Observer) :
    (changePool id write).run (atPool scene q o) =
      .reached (.ok (), atPool scene (write q) o) := by
  rw [run_changePool id (pool?_atPool id found same o), atPool_atPool keeps.symm]
  rfl

theorem run_observe_atPool (scene : Scene ε) (note : Observer → Observer) (q : Pool)
    (o : Observer) :
    (observe note).run (atPool scene q o) = .reached (.ok (), atPool scene q (note o)) := rfl

/-- An answer of an act on a pool, as it is seen from the site of the call. -/
def poolAnswer (scene : Scene ε) (answered : Except Failure (α × Pool) × Observer) :
    Except Failure α × Scene ε :=
  match answered with
  | (.ok (a, p), o) => (.ok a, atPool scene p o)
  | (.error failure, o) =>
      (.error (failure.calledAt site),
        (scene.withMachine (scene.machine.observe o)).report (failure.calledAt site))

theorem run_grow (found : scene.machine.pool? id = some p) (needed : Nat) :
    (grow site id needed).run scene =
      .reached (poolAnswer site scene
        (let (grown, o) := p.grow scene.machine.session.system needed scene.machine.observer
        (grown.map fun p => ((), p), o))) := by
  unfold grow Pool.grow
  rw [run_self_bind id found]
  cases Pool.enlarge p.capacity needed with
  | none => rfl
  | some capacity =>
      dsimp only
      rw [run_layout_bind]
      cases Pool.admitBuffer capacity with
      | error failure => rfl
      | ok =>
          dsimp only
          rw [run_view_bind]
          split
          · rw [run_bind_of_ok (run_changePool id found _),
              run_bind_of_ok (run_observe_atPool scene _ _ _),
              run_bind_of_ok (run_observe_atPool scene _ _ _),
              run_bind_of_ok (run_changePool_atPool id found (by rfl) (by rfl) _),
              run_changePool_atPool id found (by rfl) (by rfl) _]
            rfl
          · rfl

theorem run_carve (found : scene.machine.pool? id = some p) (needed : Nat) :
    (carve id needed).run scene =
      .reached (.ok p.used,
        atPool scene { p with used := needed, allocations := p.allocations + 1 }
          scene.machine.observer) := by
  unfold carve
  rw [run_self_bind id found, run_bind_of_ok (run_changePool id found _),
    run_bind_of_ok (run_changePool_atPool id found (by rfl) (by rfl) _)]
  rfl

/-- The end of the used part is moved once there is room. -/
theorem run_bump (found : scene.machine.pool? id = some p) (size : Nat) :
    (bump site id size).run scene =
      .reached (poolAnswer site scene
        (let (carved, o) := p.alloc scene.machine.session.system size scene.machine.observer
        (carved.map fun carved => (carved.1.offset, carved.2), o))) := by
  unfold bump Pool.alloc
  rw [run_self_bind id found]
  cases p.demand? size with
  | none => rfl
  | some needed =>
      dsimp only
      split
      · rw [run_bind, run_grow site id found needed]
        rcases grows : p.grow scene.machine.session.system needed scene.machine.observer with
          ⟨failure | grown, o⟩
        · rfl
        · obtain ⟨capacity, event, -, rfl, -⟩ := Pool.grow_ok_cases grows
          dsimp only [poolAnswer, Except.map]
          rw [run_carve id (pool?_atPool id found (by rfl) o), atPool_atPool (by rfl)]
          rfl
      · rw [run_carve id found]
        rfl

theorem performs_onPool {routine : Routine ε α} (absent : α)
    (act : Machine → Pool → Observer → Except Failure (α × Pool) × Observer)
    (performs : ∀ scene : Scene ε, ∀ p, scene.machine.pool? id = some p →
      routine.run scene =
        .reached (poolAnswer site scene (act scene.machine p scene.machine.observer))) :
    (onPool id absent routine).Performs site (fun _ => 0) fun machine =>
      machine.onPool id (.ok absent) (act machine) := by
  intro scene
  unfold onPool Machine.onPool
  rw [run_view_bind]
  cases found : scene.machine.pool? id with
  | none =>
      simp only [found]
      rfl
  | some p =>
      simp only [found]
      rw [performs scene p found]
      rcases act scene.machine p scene.machine.observer with ⟨failure | ⟨a, p⟩, o⟩ <;> rfl

theorem performs_poolAlloc (size : Nat) :
    (poolAlloc site id size : Routine ε _).Performs site (fun _ => 0) (·.poolAlloc id size) := by
  apply performs_onPool site id _ fun machine pool o => pool.alloc machine.session.system size o
  intro scene p found
  rw [run_bind, run_bump site id found]
  rcases carved : p.alloc scene.machine.session.system size scene.machine.observer with
    ⟨failure | ⟨handle, q⟩, o⟩
  · rfl
  · obtain ⟨rfl, steps⟩ := Pool.alloc_eq_ok carved
    dsimp only [poolAnswer, Except.map]
    rw [run_self_bind id (pool?_atPool id found steps.id o), steps.id, steps.epoch]
    rfl

theorem performs_poolAllocRaw (size : Nat) :
    (poolAllocRaw site id size : Routine ε _).Performs site (fun _ => 0) fun machine =>
      let (result, after) := machine.poolAlloc id size
      (result.map Handle.offset, after) := by
  intro scene
  unfold poolAllocRaw onPool Machine.poolAlloc Machine.onPool
  rw [run_view_bind]
  cases found : scene.machine.pool? id with
  | none =>
      simp only [found]
      rfl
  | some p =>
      simp only [found]
      rw [run_bump site id found]
      rcases p.alloc scene.machine.session.system size scene.machine.observer with
        ⟨failure | ⟨handle, q⟩, o⟩ <;> rfl

theorem run_check_bind (found : scene.machine.pool? id = some p) (handle : Handle)
    (next : Unit → Routine ε α) :
    (check site id handle >>= next).run scene =
      match p.check handle with
      | .ok _ => (next ()).run scene
      | .error failure =>
          .reached (.error (failure.calledAt site), scene.report (failure.calledAt site)) := by
  unfold check Pool.check
  rw [run_bind, run_self_bind id found]
  cases p.objection? handle <;> rfl

/-- An operation that only looks at a pool. That the pool is put back changes nothing, as no two
pools have the same number. -/
theorem run_viewed (distinct : (scene.machine.pools.map Pool.id).Nodup) {routine : Routine ε α}
    (absent : α) (look : Pool → Except Failure α)
    (looks : ∀ p, scene.machine.pool? id = some p →
      routine.run scene = .reached (scene.answer site (scene.machine.attempt (look p)))) :
    (onPool id absent routine).run scene =
      .reached (scene.answer site (scene.machine.onPool id (.ok absent) fun p o =>
        ((look p).map fun a => (a, p), o))) := by
  unfold onPool Machine.onPool
  rw [run_view_bind]
  cases found : scene.machine.pool? id with
  | none => rfl
  | some p =>
      dsimp only
      rw [looks p found]
      cases look p with
      | error failure => rfl
      | ok a =>
          dsimp only [Except.map]
          rw [Machine.setPool_self distinct found]
          rfl

theorem run_poolBytes (distinct : (scene.machine.pools.map Pool.id).Nodup) (handle : Handle) :
    (poolBytes site id handle).run scene =
      .reached (scene.answer site (scene.machine.poolBytes id handle)) := by
  apply run_viewed site id distinct
  intro p found
  rw [run_check_bind site id found]
  unfold Pool.bytes
  cases p.check handle with
  | error failure => rfl
  | ok => exact run_self_bind id found _

theorem run_poolAddress (distinct : (scene.machine.pools.map Pool.id).Nodup) (handle : Handle) :
    (poolAddress site id handle).run scene =
      .reached (scene.answer site (scene.machine.poolAddress id handle)) := by
  apply run_viewed site id distinct
  intro p found
  rw [run_check_bind site id found]
  unfold Pool.address
  cases p.check handle <;> rfl

theorem performs_poolWrite (handle : Handle) (start : Nat) (bytes : List UInt8) :
    (poolWrite site id handle start bytes : Routine ε _).Performs site (fun _ => 0)
      (·.poolWrite id handle start bytes) := by
  apply performs_onPool site id _ fun _ pool o =>
    ((pool.write handle start bytes).map fun pool => ((), pool), o)
  intro scene p found
  rw [run_check_bind site id found]
  unfold Pool.write
  cases p.check handle with
  | error failure => rfl
  | ok => exact run_changePool id found _

theorem performs_poolFill (handle : Handle) (byte : UInt8) :
    (poolFill site id handle byte : Routine ε _).Performs site (fun _ => 0)
      (·.poolFill id handle byte) := by
  apply performs_onPool site id _ fun _ pool o =>
    ((pool.fill handle byte).map fun pool => ((), pool), o)
  intro scene p found
  rw [run_check_bind site id found]
  unfold Pool.fill
  cases p.check handle with
  | error failure => rfl
  | ok => exact run_changePool id found _

end Pools

end Failures.Routine

end Underlay
