import Mathlib.Data.List.Nodup
import Mathlib.Data.List.Perm.Basic
import Underlay.Proofs.Accounting.Counting
import Underlay.Proofs.Accounting.Run

/-!
# What a command does to the ledger

The ledger lists the open scopes and pools with the bytes that they hold, in no particular order.
A command leaves it alone, or opens, fills or closes one account, and the observer is told of as
many bytes. `Step` says this once for all commands; scopes and pools differ in it by the name of
the account only.
-/

namespace Underlay

namespace Machine

/-! Things of distinct numbers, one of them put in front. -/

section Numbered

variable {α : Type} {number : α → Nat} {things : List α} {id : Nat} {a : α}

theorem perm_of_find? (distinct : (things.map number).Nodup)
    (found : things.find? (fun b => number b == id) = some a) :
    things.Perm (a :: things.filter fun b => number b != id) := by
  obtain ⟨named, front, back, rfl, passed⟩ := List.find?_eq_some_iff_append.mp found
  have named : number a = id := by simpa using named
  have behind : ∀ b ∈ back, (number b != id) = true := by
    intro b member
    simp only [List.map_append, List.map_cons, List.nodup_append, List.nodup_cons] at distinct
    have other : number b ≠ number a := fun same =>
      distinct.2.1.1 (same ▸ List.mem_map_of_mem member)
    simpa [named] using other
  have ahead : ∀ b ∈ front, (number b != id) = true := by
    intro b member
    simpa using passed b member
  rw [List.filter_append, List.filter_cons, if_neg (by simp [named]),
    List.filter_eq_self.mpr ahead, List.filter_eq_self.mpr behind]
  exact List.perm_middle

/-- A change of the thing of one number. -/
theorem perm_map_of_find? {change : α → α} (distinct : (things.map number).Nodup)
    (found : things.find? (fun b => number b == id) = some a)
    (others : ∀ b, number b ≠ id → change b = b) :
    (things.map change).Perm (change a :: things.filter fun b => number b != id) := by
  have kept : (things.filter fun b => number b != id).map change =
      things.filter fun b => number b != id := by
    conv_rhs => rw [← List.map_id (things.filter fun b => number b != id)]
    apply List.map_congr_left
    intro b member
    exact others b (by simpa using (List.mem_filter.mp member).2)
  have changed := (perm_of_find? distinct found).map change
  rwa [List.map_cons, kept] at changed

end Numbered

theorem perm_setScope {machine : Machine} {scope : Scope} {s : OpenScope}
    (distinct : (machine.scopes.map fun s => s.scope.id).Nodup)
    (found : machine.scope? scope.id = some s) :
    (machine.setScope scope).scopes.Perm
      ({ s with scope } :: machine.scopes.filter fun s => s.scope.id != scope.id) := by
  let change (t : OpenScope) : OpenScope :=
    if t.scope.id == scope.id then { t with scope } else t
  have others : ∀ t : OpenScope, t.scope.id ≠ scope.id → change t = t :=
    fun t other => if_neg (by simpa using other)
  have changed : change s = { s with scope } := if_pos (by simpa using id_of_scope? found)
  rw [← changed]
  exact perm_map_of_find? distinct found others

theorem perm_setPool {machine : Machine} {p old : Pool}
    (distinct : (machine.pools.map Pool.id).Nodup) (found : machine.pool? p.id = some old) :
    (machine.setPool p).pools.Perm (p :: machine.pools.filter fun q => q.id != p.id) := by
  let change (q : Pool) : Pool := if q.id == p.id then p else q
  have others : ∀ q : Pool, q.id ≠ p.id → change q = q :=
    fun q other => if_neg (by simpa using other)
  have changed : change old = p := if_pos (by simpa using id_of_pool? found)
  have moved := perm_map_of_find? distinct found others
  rwa [changed] at moved

end Machine

namespace Accounting

def scopeEntry (s : OpenScope) : Account × Nat :=
  (.scope s.scope.id, s.scope.bytes)

def poolEntry (p : Pool) : Account × Nat :=
  (.pool p.id, p.capacity)

/-- The open scopes and pools with what they hold. -/
def ledger (machine : Machine) : List (Account × Nat) :=
  machine.scopes.map scopeEntry ++ machine.pools.map poolEntry

/-- The number of a scope or pool that is yet to be opened. -/
def Account.Unused (machine : Machine) : Account → Prop
  | .scope id => machine.session.scopesOpened < id
  | .pool id => machine.session.poolsOpened < id

/-- The event by which an account gains so many bytes. -/
inductive Gain (account : Account) : Event → Nat → Prop where
  | told {bytes : Nat} (positive : 0 < bytes) : Gain account (.obtained account bytes) bytes
  | idle : Gain account .idle 0

inductive Entry (before : Machine) : Event → Machine → Prop where
  | kept {after : Machine} (same : (ledger after).Perm (ledger before))
      (tells : before.observer.Tells after.observer 0 0) : Entry before .idle after
  | opened {account : Account} {event : Event} {bytes : Nat} {after : Machine}
      (gain : Gain account event bytes) (unused : account.Unused before)
      (used : ¬account.Unused after) (solid : ∀ id, account = .pool id → 0 < bytes)
      (entered : (ledger after).Perm ((account, bytes) :: ledger before))
      (tells : before.observer.Tells after.observer bytes 0) : Entry before event after
  | filled {account : Account} {event : Event} {held bytes : Nat} {rest : List (Account × Nat)}
      {after : Machine} (gain : Gain account event bytes)
      (holding : (ledger before).Perm ((account, held) :: rest))
      (entered : (ledger after).Perm ((account, held + bytes) :: rest))
      (tells : before.observer.Tells after.observer bytes 0) : Entry before event after
  | closed {account : Account} {held : Nat} {after : Machine}
      (struck : (ledger before).Perm ((account, held) :: ledger after))
      (tells : before.observer.Tells after.observer 0 held) : Entry before .idle after

structure Step (before : Machine) (event : Event) (after : Machine) : Prop where
  entry : Entry before event after
  numbers : ∀ account : Account, account.Unused after → account.Unused before
  capacity : 0 < after.session.poolCapacity

/-- What a step may rely on. -/
structure Regular (machine : Machine) : Prop where
  distinct : ((ledger machine).map Prod.fst).Nodup
  unused : ∀ account : Account, account.Unused machine → account ∉ (ledger machine).map Prod.fst
  capacity : 0 < machine.session.poolCapacity

section Calls

variable {machine : Machine}

theorem Regular.scopes (regular : Regular machine) :
    (machine.scopes.map fun s => s.scope.id).Nodup := by
  have distinct := regular.distinct
  simp only [ledger, List.map_append, List.map_map] at distinct
  have scopes := (List.nodup_append.mp distinct).1
  apply List.Nodup.of_map Account.scope
  rwa [List.map_map]

theorem Regular.pools (regular : Regular machine) : (machine.pools.map Pool.id).Nodup := by
  have distinct := regular.distinct
  simp only [ledger, List.map_append, List.map_map] at distinct
  have pools := (List.nodup_append.mp distinct).2.1
  apply List.Nodup.of_map Account.pool
  rwa [List.map_map]

theorem unused_of_same {after : Machine}
    (scopes : after.session.scopesOpened = machine.session.scopesOpened)
    (pools : after.session.poolsOpened = machine.session.poolsOpened) (account : Account)
    (unused : account.Unused after) : account.Unused machine := by
  cases account with
  | scope id => exact Nat.lt_of_le_of_lt (Nat.le_of_eq scopes.symm) unused
  | pool id => exact Nat.lt_of_le_of_lt (Nat.le_of_eq pools.symm) unused

/-- A step that neither opens nor closes anything, and that nothing is told of. -/
theorem step_kept {after : Machine} (scopes : after.scopes = machine.scopes)
    (pools : after.pools = machine.pools)
    (openedScopes : after.session.scopesOpened = machine.session.scopesOpened)
    (openedPools : after.session.poolsOpened = machine.session.poolsOpened)
    (capacity : 0 < after.session.poolCapacity)
    (tells : machine.observer.Tells after.observer 0 0) : Step machine .idle after := by
  refine ⟨.kept ?_ tells, unused_of_same openedScopes openedPools, capacity⟩
  rw [ledger, ledger, scopes, pools]

theorem step_self (regular : Regular machine) : Step machine .idle machine :=
  step_kept rfl rfl rfl rfl regular.capacity machine.observer.tells_self

/-! Scopes. -/

theorem step_openScope (regular : Regular machine) (heap : HeapId) :
    Step machine .idle (machine.openScope heap).2 := by
  have gain : Gain (.scope (machine.session.scopesOpened + 1)) .idle 0 := .idle
  refine ⟨.opened gain (Nat.lt_succ_self _) (Nat.lt_irrefl _) (fun id other => by cases other) ?_
    (machine.observer.tells_emit _), ?_, regular.capacity⟩
  · simp only [ledger, Machine.openScope, Session.openScope, Scope.make, List.map_append,
      List.map_cons, List.map_nil, List.append_assoc]
    exact List.perm_middle
  · rintro (id | id) unused
    · exact Nat.lt_of_succ_lt unused
    · exact unused

theorem ledger_of_scope? {s : OpenScope} {scope : Nat} (regular : Regular machine)
    (found : machine.scope? scope = some s) :
    (ledger machine).Perm
      ((.scope scope, s.scope.bytes) ::
        ((machine.scopes.filter fun s => s.scope.id != scope).map scopeEntry ++
          machine.pools.map poolEntry)) := by
  have named := Machine.id_of_scope? found
  subst named
  exact ((Machine.perm_of_find? regular.scopes found).map scopeEntry).append_right _

theorem step_outcome {α : Type} {s : OpenScope} {scope : Nat} {size : Option Nat}
    (regular : Regular machine) (found : machine.scope? scope = some s)
    {act : Scope → Heap → Observer → Except Failure (α × Scope × Heap) × Observer}
    (registers : s.scope.Registers machine.observer size
      (act s.scope (machine.heap s.heap) machine.observer))
    (absent : Except Failure α) :
    Step machine (outcome scope size (machine.onScope scope absent act)).1
      (outcome scope size (machine.onScope scope absent act)).2 := by
  rcases Machine.onScope_cases found absent act with
    ⟨failure, o, acted, equation⟩ | ⟨answer, filled, h, o, acted, equation⟩
  · rw [acted] at registers
    cases registers with
    | failed failure tells =>
        rw [equation]
        exact step_kept rfl rfl rfl rfl regular.capacity tells
  · rw [acted] at registers
    cases registers with
    | registered answer block h nonempty tells =>
        rw [equation]
        have named := Machine.id_of_scope? found
        have gain : Gain (.scope scope) ((size.map (Event.obtained (.scope scope))).getD .idle)
            (size.getD 0) := by
          cases size with
          | none => exact .idle
          | some bytes => exact .told (Nat.pos_of_ne_zero fun zero => nonempty (by rw [zero]))
        refine ⟨.filled gain (ledger_of_scope? regular found) ?_ tells, unused_of_same rfl rfl,
          regular.capacity⟩
        subst named
        let filled : Scope := { s.scope with owned := { block, size } :: s.scope.owned }
        have same : machine.scope? filled.id = some s := found
        have changed := Machine.perm_setScope regular.scopes same
        have held : filled.bytes = s.scope.bytes + size.getD 0 := by
          simp [Scope.bytes, filled, Nat.add_comm]
        have entered := (changed.map scopeEntry).append_right (machine.pools.map poolEntry)
        rw [List.map_cons, scopeEntry, held] at entered
        exact entered

theorem step_onOpen {α : Type} {size : Option Nat}
    {act : Scope → Heap → Observer → Except Failure (α × Scope × Heap) × Observer}
    (regular : Regular machine) (scope : Nat) (absent : Except Failure α)
    (registers : ∀ (s : Scope) h o, s.Registers o size (act s h o)) :
    Step machine
      (onOpen machine scope (outcome scope size (machine.onScope scope absent act))).1
      (onOpen machine scope (outcome scope size (machine.onScope scope absent act))).2 := by
  unfold onOpen
  cases found : machine.scope? scope with
  | none => exact step_self regular
  | some s => exact step_outcome regular found (registers _ _ _) absent

theorem step_closeScope (regular : Regular machine) (scope : Nat) :
    Step machine .idle (machine.closeScope scope) := by
  unfold Machine.closeScope
  cases found : machine.scope? scope with
  | none => exact step_self regular
  | some s =>
      exact ⟨.closed (ledger_of_scope? regular found) (s.scope.tells_close _ _),
        unused_of_same rfl rfl, regular.capacity⟩

/-! Pools. -/

theorem ledger_of_pool? {p : Pool} {pool : Nat} (regular : Regular machine)
    (found : machine.pool? pool = some p) :
    (ledger machine).Perm
      ((.pool pool, p.capacity) ::
        (machine.scopes.map scopeEntry ++
          (machine.pools.filter fun p => p.id != pool).map poolEntry)) := by
  have named := Machine.id_of_pool? found
  subst named
  exact (((Machine.perm_of_find? regular.pools found).map poolEntry).append_left _).trans
    List.perm_middle

theorem ledger_setPool {p p' : Pool} {pool : Nat} (regular : Regular machine)
    (found : machine.pool? pool = some p) (same : p'.id = pool) :
    (ledger (machine.setPool p')).Perm
      ((.pool pool, p'.capacity) ::
        (machine.scopes.map scopeEntry ++
          (machine.pools.filter fun p => p.id != pool).map poolEntry)) := by
  subst same
  exact (((Machine.perm_setPool regular.pools found).map poolEntry).append_left _).trans
    List.perm_middle

theorem Regular.pool?_eq_none (regular : Regular machine) :
    machine.pool? (machine.session.poolsOpened + 1) = none := by
  have unused := regular.unused (.pool (machine.session.poolsOpened + 1)) (Nat.lt_succ_self _)
  apply List.find?_eq_none.mpr
  intro p member same
  have named : p.id = machine.session.poolsOpened + 1 := by simpa using same
  apply unused
  rw [← named, ledger, List.map_append, List.map_map, List.map_map]
  exact List.mem_append_right _ (List.mem_map.mpr ⟨p, member, rfl⟩)

theorem step_openPool (regular : Regular machine) (asked : Option Nat) :
    Step machine (perform machine (.openPool asked)).1 (perform machine (.openPool asked)).2 := by
  let size := if asked.getD 0 = 0 then machine.session.poolCapacity else asked.getD 0
  have positive : 0 < size := by
    have := regular.capacity
    simp only [size]
    split <;> omega
  rcases made : Pool.make machine.session.system (machine.session.poolsOpened + 1) size
      machine.session.observer with ⟨failure | p, o⟩
  · have tells := Pool.tells_make_error made
    simp only [perform, Machine.openPool_of_make_error made]
    exact step_kept rfl rfl rfl rfl regular.capacity tells
  · have tells := Pool.tells_make_ok made
    have number : p.id = machine.session.poolsOpened + 1 := by rw [Pool.make_eq_ok made]
    have room : p.capacity = size := by rw [Pool.make_eq_ok made]
    let session : Session :=
      { machine.session.observe o with poolsOpened := machine.session.poolsOpened + 1 }
    let after : Machine := { machine with session, pools := machine.pools ++ [p] }
    have opened : machine.openPool asked = (.ok p.id, after) := Machine.openPool_of_make_ok made
    have found : capacity after p.id = size := by
      have there : after.pool? p.id = some p := by
        rw [Machine.pool?_append, number, regular.pool?_eq_none, Option.none_or, if_pos rfl]
      simp [capacity, there, room]
    simp only [perform, opened, found]
    have gain : Gain (.pool p.id) (.obtained (.pool p.id) size) size := .told positive
    refine ⟨.opened gain ?_ ?_ (fun _ _ => positive) ?_ tells, ?_, regular.capacity⟩
    · exact Nat.lt_of_succ_le (Nat.le_of_eq number.symm)
    · exact Nat.not_lt_of_le (Nat.le_of_eq number)
    · have entry : poolEntry p = (.pool p.id, size) := by rw [poolEntry, room]
      simp only [ledger, after, List.map_append, List.map_cons, List.map_nil, entry]
      rw [← List.append_assoc]
      exact List.perm_append_singleton _ _
    · rintro (id | id) unused
      · exact unused
      · exact Nat.lt_of_succ_lt unused

theorem gain_growth {after : Machine} {pool bytes : Nat}
    (larger : capacity after pool = capacity machine pool + bytes) :
    Gain (.pool pool) (growth machine after pool) bytes := by
  unfold growth
  rw [larger, Nat.add_sub_cancel_left]
  split
  · exact .told (by omega)
  · obtain rfl : bytes = 0 := by omega
    exact .idle

theorem step_carve (regular : Regular machine) (pool size : Nat) :
    Step machine (perform machine (.carve pool size)).1 (perform machine (.carve pool size)).2 := by
  have idle (after : Machine) (same : after.pools = machine.pools) :
      growth machine after pool = .idle := by
    simp [growth, capacity, Machine.pool?, same]
  simp only [perform]
  cases found : machine.pool? pool with
  | none =>
      have absent : (machine.poolAlloc pool size).2 = machine := by
        simp [Machine.poolAlloc, Machine.onPool, found]
      rw [absent, idle machine rfl]
      exact step_self regular
  | some p =>
      unfold Machine.poolAlloc
      rcases Machine.onPool_cases found (.ok default)
          (fun pool o => pool.alloc machine.session.system size o) with
        ⟨failure, o, failed, equation⟩ | ⟨handle, p', o, done, equation⟩
      · rw [equation, idle ((machine.observe o).note _) rfl]
        exact step_kept rfl rfl rfl rfl regular.capacity (Pool.tells_alloc_error failed)
      · obtain ⟨-, carved⟩ := Pool.alloc_eq_ok done
        have named := carved.id.trans (Machine.id_of_pool? found)
        have tells := Pool.tells_alloc_ok done
        have entered := ledger_setPool regular found named
        -- The pool may have grown by nothing; then no event tells of it.
        obtain ⟨bytes, larger⟩ := Nat.exists_eq_add_of_le carved.grown
        rw [larger] at entered
        rw [larger, Nat.add_sub_cancel_left] at tells
        have found' : ((machine.setPool p').observe o).pool? pool = some p' := by
          subst named
          exact Machine.pool?_setPool_self found
        rw [equation]
        refine ⟨.filled (gain_growth ?_) (ledger_of_pool? regular found) entered tells,
          unused_of_same rfl rfl, regular.capacity⟩
        simp [capacity, found, found', larger]

theorem step_resetPool (regular : Regular machine) (pool : Nat) :
    Step machine .idle (machine.resetPool pool) := by
  unfold Machine.resetPool
  cases found : machine.pool? pool with
  | none => exact step_self regular
  | some p =>
      have named := Machine.id_of_pool? found
      exact ⟨.filled .idle (ledger_of_pool? regular found)
        (ledger_setPool regular found named) (machine.observer.tells_emit _), unused_of_same rfl rfl,
        regular.capacity⟩

theorem step_closePool (regular : Regular machine) (pool : Nat) :
    Step machine .idle (machine.closePool pool) := by
  unfold Machine.closePool
  cases found : machine.pool? pool with
  | none => exact step_self regular
  | some p =>
      exact ⟨.closed (ledger_of_pool? regular found) (p.tells_close _), unused_of_same rfl rfl,
        regular.capacity⟩

end Calls

theorem step_perform {machine : Machine} (regular : Regular machine) (command : Command) :
    Step machine (perform machine command).1 (perform machine command).2 := by
  cases command with
  | openScope heap => exact step_openScope regular heap
  | alloc scope size =>
      exact step_onOpen regular scope _ fun s h o => s.registers_alloc h size o
  | allocZeroed scope count size =>
      exact step_onOpen regular scope _ fun s h o => s.registers_allocZeroed h count size o
  | register scope block =>
      exact step_onOpen regular scope _ fun s h o => s.registers_register h block o
  | closeScope scope => exact step_closeScope regular scope
  | openPool asked => exact step_openPool regular asked
  | carve pool size => exact step_carve regular pool size
  | resetPool pool => exact step_resetPool regular pool
  | closePool pool => exact step_closePool regular pool
  | keepRecords on =>
      refine step_kept rfl rfl rfl rfl regular.capacity ?_
      intro obtained returned counted room enough
      refine ⟨?_, counted.allocated, counted.freed, counted.current⟩
      cases on <;> rfl
  | setPoolCapacity capacity =>
      refine step_kept rfl rfl rfl rfl ?_ machine.observer.tells_self
      change 0 < PoolCapacity.accept capacity
      unfold PoolCapacity.accept
      split
      · decide
      · omega
  | setSystem system =>
      exact step_kept rfl rfl rfl rfl regular.capacity machine.observer.tells_self
  | setSource heap source =>
      exact step_kept rfl rfl rfl rfl regular.capacity machine.observer.tells_self

end Accounting

end Underlay
