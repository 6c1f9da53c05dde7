import Underlay.Machine

/-!
Operations on the open pools of a program.
-/

namespace Underlay.Machine

def pool? (machine : Machine) (id : Nat) : Option Pool :=
  machine.pools.find? fun pool => pool.id == id

def setPool (machine : Machine) (pool : Pool) : Machine :=
  { machine with pools := machine.pools.map fun old => if old.id == pool.id then pool else old }

def openPool (machine : Machine) (capacity : Option Nat) : Except Failure Nat × Machine :=
  match machine.session.openPool capacity with
  | (.ok pool, session) => (.ok pool.id, { machine with session, pools := machine.pools ++ [pool] })
  | (.error failure, session) => (.error failure, { machine with session })

def onPool {α : Type} (machine : Machine) (id : Nat) (absent : Except Failure α)
    (act : Pool → Observer → Except Failure (α × Pool) × Observer) : Except Failure α × Machine :=
  match machine.pool? id with
  | none => (absent, machine)
  | some pool =>
      match act pool machine.observer with
      | (.ok (a, pool), o) => (.ok a, (machine.setPool pool).observe o)
      | (.error failure, o) =>
          (.error failure, (machine.observe o).note (.error failure : Except Failure α))

def poolAlloc (machine : Machine) (id size : Nat) : Except Failure Handle × Machine :=
  machine.onPool id (.ok default) fun pool o => pool.alloc machine.session.system size o

def poolBytes (machine : Machine) (id : Nat) (handle : Handle) :
    Except Failure (List UInt8) × Machine :=
  machine.onPool id (.ok []) fun pool o => ((pool.bytes handle).map fun bytes => (bytes, pool), o)

def poolWrite (machine : Machine) (id : Nat) (handle : Handle) (start : Nat)
    (bytes : List UInt8) : Except Failure Unit × Machine :=
  machine.onPool id (.ok ()) fun pool o =>
    ((pool.write handle start bytes).map fun pool => ((), pool), o)

def poolFill (machine : Machine) (id : Nat) (handle : Handle) (byte : UInt8) :
    Except Failure Unit × Machine :=
  machine.onPool id (.ok ()) fun pool o => ((pool.fill handle byte).map fun pool => ((), pool), o)

def poolAddress (machine : Machine) (id : Nat) (handle : Handle) : Except Failure Nat × Machine :=
  machine.onPool id (.ok 0) fun pool o =>
    ((pool.address handle).map fun offset => (offset, pool), o)

def resetPool (machine : Machine) (id : Nat) : Machine :=
  match machine.pool? id with
  | none => machine
  | some pool =>
      let (pool, o) := pool.reset machine.observer
      (machine.setPool pool).observe o

def resetPoolTimes (machine : Machine) (id : Nat) : Nat → Machine
  | 0 => machine
  | count + 1 => (machine.resetPool id).resetPoolTimes id count

def closePool (machine : Machine) (id : Nat) : Machine :=
  match machine.pool? id with
  | none => machine
  | some pool =>
      let machine := machine.observe (pool.close machine.observer)
      { machine with pools := machine.pools.filter fun pool => pool.id != id }

theorem id_of_pool? {machine : Machine} {id : Nat} {p : Pool}
    (found : machine.pool? id = some p) : p.id = id :=
  number_of_find? Pool.id found

theorem pool?_setPool (machine : Machine) (p : Pool) (id : Nat) :
    (machine.setPool p).pool? id =
      (machine.pool? id).map fun old => if old.id == p.id then p else old := by
  apply find?_map_of_number
  intro old
  split <;> simp_all

theorem pool?_setPool_self {machine : Machine} {p old : Pool}
    (found : machine.pool? p.id = some old) : (machine.setPool p).pool? p.id = some p := by
  simp [pool?_setPool, found, id_of_pool? found]

theorem pool?_setPool_of_ne (machine : Machine) {p : Pool} {id : Nat} (distinct : id ≠ p.id) :
    (machine.setPool p).pool? id = machine.pool? id := by
  rw [pool?_setPool]
  cases found : machine.pool? id with
  | none => rfl
  | some old => simp [id_of_pool? found, distinct]

section Opening

variable {machine : Machine} {asked : Option Nat} {o : Observer}

theorem openPool_of_make_error {failure : Failure}
    (failed : Pool.make machine.session.system (machine.session.poolsOpened + 1)
      (if asked.getD 0 = 0 then machine.session.poolCapacity else asked.getD 0)
      machine.session.observer = (.error failure, o)) :
    machine.openPool asked =
      (.error failure, (machine.observe o).note (.error failure : Except Failure Nat)) := by
  simp only [openPool, Session.openPool, failed]
  rfl

theorem openPool_of_make_ok {p : Pool}
    (made : Pool.make machine.session.system (machine.session.poolsOpened + 1)
      (if asked.getD 0 = 0 then machine.session.poolCapacity else asked.getD 0)
      machine.session.observer = (.ok p, o)) :
    machine.openPool asked =
      (.ok p.id, { machine with
        session := { machine.session.observe o with poolsOpened := machine.session.poolsOpened + 1 }
        pools := machine.pools ++ [p] }) := by
  simp only [openPool, Session.openPool, made]
  rfl

end Opening

/-- Opening a pool fails and leaves the pools alone, or puts a pool of zeros behind them. -/
theorem openPool_cases (machine : Machine) (capacity : Option Nat) :
    (∃ failure session,
      machine.openPool capacity = (.error failure, { machine with session }) ∧
      session.poolsOpened = machine.session.poolsOpened) ∨
    ∃ size session, ∃ p : Pool,
      p = { id := machine.session.poolsOpened + 1, capacity := size,
            memory := machine.session.system.fresh.fill 0 size 0 } ∧
      machine.openPool capacity =
        (.ok p.id, { machine with session, pools := machine.pools ++ [p] }) ∧
      session.poolsOpened = machine.session.poolsOpened + 1 := by
  rcases made : Pool.make machine.session.system (machine.session.poolsOpened + 1)
      (if capacity.getD 0 = 0 then machine.session.poolCapacity else capacity.getD 0)
      machine.session.observer with ⟨failure | p, o⟩
  · let session := (machine.session.observe o).note (.error failure : Except Failure Nat)
    exact .inl ⟨failure, session, openPool_of_make_error made, rfl⟩
  · exact .inr ⟨_, _, p, Pool.make_eq_ok made, openPool_of_make_ok made, rfl⟩

/-- A pool put behind the others is found by its number, unless the number was taken. -/
theorem pool?_append (machine : Machine) (session : Session) (p : Pool) (id : Nat) :
    ({ machine with session, pools := machine.pools ++ [p] } : Machine).pool? id =
      (machine.pool? id).or (if p.id = id then some p else none) :=
  find?_append_of_number Pool.id machine.pools p id

theorem onPool_cases {α : Type} {machine : Machine} {id : Nat} {p : Pool}
    (found : machine.pool? id = some p) (absent : Except Failure α)
    (act : Pool → Observer → Except Failure (α × Pool) × Observer) :
    (∃ failure o,
      act p machine.observer = (.error failure, o) ∧
      machine.onPool id absent act =
        (.error failure, (machine.observe o).note (.error failure : Except Failure α))) ∨
    ∃ a p' o,
      act p machine.observer = (.ok (a, p'), o) ∧
      machine.onPool id absent act = (.ok a, (machine.setPool p').observe o) := by
  unfold onPool
  simp only [found]
  rcases act p machine.observer with ⟨failure | ⟨a, p'⟩, o⟩
  · exact .inl ⟨failure, o, rfl, rfl⟩
  · exact .inr ⟨a, p', o, rfl, rfl⟩

theorem resetPool_of_pool? {machine : Machine} {id : Nat} {p : Pool}
    (found : machine.pool? id = some p) :
    ∃ o, machine.resetPool id =
      (machine.setPool { p with used := 0, allocations := 0, epoch := p.epoch + 1 }).observe o := by
  unfold resetPool
  rw [found]
  exact ⟨_, rfl⟩

@[simp]
theorem poolsOpened_closePool (machine : Machine) (id : Nat) :
    (machine.closePool id).session.poolsOpened = machine.session.poolsOpened := by
  unfold closePool
  cases machine.pool? id <;> rfl

theorem pool?_closePool (machine : Machine) (id other : Nat) :
    (machine.closePool id).pool? other = if other = id then none else machine.pool? other := by
  unfold closePool
  cases found : machine.pool? id with
  | none =>
      by_cases same : other = id
      · rw [if_pos same, same]
        exact found
      · rw [if_neg same]
  | some p => exact find?_filter_of_number Pool.id machine.pools id other

end Underlay.Machine
