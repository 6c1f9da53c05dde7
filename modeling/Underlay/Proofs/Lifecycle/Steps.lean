import Mathlib.Algebra.BigOperators.Group.List.Basic
import Underlay.Proofs.Lifecycle.Trail

/-!
# What a step records

The records that were made are compared with the state and with the history, for objects, scopes
and registries apart. A step touches one of the three and records only about that one, so the
other two have nothing to say about it.
-/

namespace Underlay.Trail

open Lifecycle (tally tally_append tally_eq_zero)

variable {state next : State} {machine : Machine} {history : List Event}
  {records more : List Lifecycle.Event} {event : Event}

/-! ## Objects -/

/-- The objects of both stores together are what the records count. -/
structure Census (state : State) (records : List Lifecycle.Event) : Prop where
  objects : state.machine.objects.Counted state.handles
  cells : state.machine.cells.Counted state.cellHandles
  holders : tally "refcount" "new" records + tally "refcount" "retain" records =
    state.machine.objects.holders + state.machine.cells.holders +
      tally "refcount" "release" records + tally "refcount" "destroy" records
  living : tally "refcount" "new" records = state.living + tally "refcount" "destroy" records
  /-- Whoever is counted as a holder is outside or is a live object. -/
  outside : state.machine.objects.holders + state.machine.cells.holders = state.holders

namespace Census

theorem of_objects (census : Census state records)
    (shift : state.machine.objects.Shift next.machine.objects state.handles next.handles more)
    (cells : next.machine.cells = state.machine.cells)
    (others : next.cellHandles = state.cellHandles) : Census next (records ++ more) := by
  obtain ⟨-, counted, holders, living, outside⟩ := census
  obtain ⟨counted', holders', living', outside'⟩ := shift
  simp only [State.living, State.holders] at living outside
  refine ⟨counted', cells ▸ others ▸ counted, ?_, ?_, ?_⟩ <;>
    simp only [tally_append, State.living, State.holders, cells, others] <;> omega

theorem of_cells (census : Census state records)
    (shift : state.machine.cells.Shift next.machine.cells state.cellHandles next.cellHandles more)
    (objects : next.machine.objects = state.machine.objects)
    (others : next.handles = state.handles) : Census next (records ++ more) := by
  obtain ⟨counted, -, holders, living, outside⟩ := census
  obtain ⟨counted', holders', living', outside'⟩ := shift
  simp only [State.living, State.holders] at living outside
  refine ⟨objects ▸ others ▸ counted, counted', ?_, ?_, ?_⟩ <;>
    simp only [tally_append, State.living, State.holders, objects, others] <;> omega

/-- Neither objects nor holders changed, though the holders may stand in another order. -/
theorem aside (census : Census state records)
    (objects : next.machine.objects = state.machine.objects)
    (cells : next.machine.cells = state.machine.cells)
    (handles : state.handles.Perm next.handles)
    (cellHandles : state.cellHandles.Perm next.cellHandles)
    (others : ∀ record ∈ more, record.component ≠ "refcount") :
    Census next (records ++ more) := by
  obtain ⟨counted, countedCells, holders, living, outside⟩ := census
  have none := tally_eq_zero others
  refine ⟨objects ▸ counted.of_perm handles, cells ▸ countedCells.of_perm cellHandles, ?_, ?_, ?_⟩
  · simpa only [tally_append, none, objects, cells, Nat.add_zero] using holders
  · simpa only [tally_append, none, State.living, objects, cells, Nat.add_zero] using living
  · simpa only [State.holders, objects, cells, handles.length_eq, cellHandles.length_eq]
      using outside

end Census

/-! ## Scopes -/

/-- The records of every scope tell its past, and scopes to come have none. -/
structure ScopesTell (machine : Machine) (history : List Event) (records : List Lifecycle.Event) :
    Prop where
  told : ∀ scope, Scope.Told scope records
    ((machine.scope? scope).map fun s => s.scope.owned.length) (past scope history)
  fresh : ∀ scope, machine.session.scopesOpened < scope →
    machine.scope? scope = none ∧ past scope history = {}

theorem past_cons (scope : Nat) (event : Event) (history : List Event) :
    past scope (event :: history) = event.tell scope (past scope history) :=
  rfl

/-- An event that tells nothing of scopes. -/
def Event.Silent (event : Event) : Prop :=
  ∀ scope earlier, event.tell scope earlier = earlier

theorem silent_idle : Event.idle.Silent :=
  fun _ _ => rfl

namespace ScopesTell

variable {records more : List Lifecycle.Event} {record : Lifecycle.Event} {next : Machine}
  {s : OpenScope}

theorem aside (tells : ScopesTell machine history records) (silent : event.Silent)
    (scopes : next.scopes = machine.scopes)
    (opened : next.session.scopesOpened = machine.session.scopesOpened)
    (others : ∀ record ∈ more, record.component ≠ "scope") :
    ScopesTell next (event :: history) (records ++ more) := by
  have same (scope : Nat) : next.scope? scope = machine.scope? scope := by
    rw [Machine.scope?, scopes, Machine.scope?]
  refine ⟨fun scope => ?_, fun scope above => ?_⟩
  · rw [same, past_cons, silent]
    refine (tells.told scope).apart fun record listed => Bool.eq_false_iff.mpr fun ours => ?_
    exact others record listed (Lifecycle.Event.component_of_isOf ours)
  · rw [same, past_cons, silent]
    exact tells.fresh scope (opened ▸ above)

/-- A command on one scope leaves the other ones as they were. -/
theorem at_scope (tells : ScopesTell machine history records) {id : Nat}
    (found : machine.scope? id = some s)
    (opened : next.session.scopesOpened = machine.session.scopesOpened)
    (ours : ∀ scope, record.isOf scope = decide (id = scope))
    (elsewhere : ∀ other ≠ id, next.scope? other = machine.scope? other ∧
      ∀ earlier, event.tell other earlier = earlier)
    (here : Scope.Told id (records ++ [record])
      ((next.scope? id).map fun s => s.scope.owned.length) (event.tell id (past id history))) :
    ScopesTell next (event :: history) (records ++ [record]) := by
  refine ⟨fun scope => ?_, fun scope above => ?_⟩
  · by_cases same : scope = id
    · exact same ▸ here
    · obtain ⟨finds, silent⟩ := elsewhere scope same
      rw [finds, past_cons, silent]
      refine (tells.told scope).apart (List.forall_mem_singleton.mpr ?_)
      exact (ours scope).trans (decide_eq_false (Ne.symm same))
  · obtain ⟨absent, unknown⟩ := tells.fresh scope (opened ▸ above)
    have distinct : scope ≠ id := by
      rintro rfl
      cases absent.symm.trans found
    obtain ⟨finds, silent⟩ := elsewhere scope distinct
    rw [finds, past_cons, silent]
    exact ⟨absent, unknown⟩

theorem step_open (tells : ScopesTell machine history records) (heap : HeapId) :
    ScopesTell (machine.openScope heap).2 (.idle :: history)
      (records ++ [({ id := machine.session.scopesOpened + 1 } : Scope).event "open"]) := by
  let number := machine.session.scopesOpened + 1
  refine ⟨fun scope => ?_, fun scope above => ?_⟩
  · have told := tells.told scope
    rw [Machine.scope?_openScope, past_cons, silent_idle]
    by_cases new : number = scope
    -- The number was not taken, so it finds the new scope.
    · obtain ⟨absent, unknown⟩ := tells.fresh number (Nat.lt_succ_self _)
      subst new
      rw [absent, unknown] at told
      rw [absent, unknown, if_pos rfl]
      exact told.opens
    · rw [if_neg new, Option.or_none]
      exact told.apart (List.forall_mem_singleton.mpr (by simpa using new))
  · have above : number < scope := above
    obtain ⟨absent, unknown⟩ := tells.fresh scope (Nat.lt_of_succ_lt above)
    rw [Machine.scope?_openScope, absent, if_neg (Nat.ne_of_lt above), past_cons, silent_idle]
    exact ⟨rfl, unknown⟩

theorem step_register (tells : ScopesTell machine history records)
    (found : machine.scope? s.scope.id = some s) {call : String}
    (registers : call ∈ ["alloc", "alloc_zeroed", "register"]) (block : BlockId)
    (size : Option Nat) (heap : Heap) (o : Observer) :
    ScopesTell
      (((machine.setHeap s.heap heap).setScope
        { s.scope with owned := { block, size } :: s.scope.owned }).observe o)
      (.registered s.scope.id call :: history)
      (records ++ [s.scope.registration call block size]) := by
  have told := tells.told s.scope.id
  rw [found] at told
  refine tells.at_scope found rfl (s.scope.isOf_registration call block size) ?_ ?_
  · intro other distinct
    exact ⟨Machine.scope?_setScope_of_ne (machine.setHeap s.heap heap) distinct,
      fun _ => if_neg (Ne.symm distinct)⟩
  · have finds : ((machine.setHeap s.heap heap).setScope
          { s.scope with owned := { block, size } :: s.scope.owned }).scope? s.scope.id = _ :=
      Machine.scope?_setScope_self found
    have longer : _ = some (s.scope.owned.length + 1) :=
      congrArg (Option.map fun s => s.scope.owned.length) finds
    rw [Event.tell, if_pos rfl]
    exact longer ▸ told.registers registers block size

theorem step_refuse (tells : ScopesTell machine history records)
    (found : machine.scope? s.scope.id = some s) {call : String} (opens : call ≠ "close")
    (size : Nat) (scopes : next.scopes = machine.scopes)
    (opened : next.session.scopesOpened = machine.session.scopesOpened) :
    ScopesTell next (.refused s.scope.id call size :: history)
      (records ++ [s.scope.refusal call size]) := by
  have same (scope : Nat) : next.scope? scope = machine.scope? scope := by
    rw [Machine.scope?, scopes, Machine.scope?]
  refine tells.at_scope found opened (s.scope.isOf_refusal call size) ?_ ?_
  · intro other distinct
    exact ⟨same other, fun _ => if_neg (Ne.symm distinct)⟩
  · rw [same, Event.tell, if_pos rfl]
    exact (tells.told s.scope.id).refuses opens size

theorem step_close (tells : ScopesTell machine history records)
    (found : machine.scope? s.scope.id = some s) :
    ScopesTell (machine.closeScope s.scope.id) (.closed s.scope.id :: history)
      (records ++ [s.scope.closing]) := by
  have told := tells.told s.scope.id
  rw [found] at told
  refine tells.at_scope found (Machine.scopesOpened_closeScope machine _) s.scope.isOf_closing ?_ ?_
  · intro other distinct
    exact ⟨Machine.scope?_closeScope_of_ne machine distinct, fun _ => if_neg (Ne.symm distinct)⟩
  · rw [Machine.scope?_closeScope_self, Event.tell, if_pos rfl]
    exact told.closes

end ScopesTell

/-! ## Registries -/

/-- What was registered was taken out or is pending. -/
def Entered (state : State) (records : List Lifecycle.Event) : Prop :=
  tally "registry" "register" records = tally "registry" "cleanup" records + state.pending

theorem sum_set_add {sizes : List Nat} {place : Nat} (inside : place < sizes.length) (size : Nat) :
    (sizes.set place size).sum + sizes[place] = sizes.sum + size := by
  have after := List.sum_set sizes place size
  have before := List.sum_set sizes place sizes[place]
  rw [List.set_getElem_self, if_pos inside] at before
  rw [if_pos inside] at after
  omega

theorem pending_setRegistry {id : RegistryId} (present : id < state.machine.registries.size)
    (registry : Registry) :
    ({ state with machine := state.machine.setRegistry id registry } : State).pending +
        (state.machine.registry id).pending.length = state.pending + registry.length := by
  have inside : id < (state.machine.registries.toList.map Registry.length).length := by
    simpa using present
  have moved := sum_set_add inside registry.length
  simpa [State.pending, Machine.setRegistry, Machine.registry, present, List.map_set,
    Registry.length] using moved

namespace Entered

theorem aside (entered : Entered state records)
    (same : next.machine.registries = state.machine.registries)
    (others : ∀ record ∈ more, record.component ≠ "registry") :
    Entered next (records ++ more) := by
  have none := tally_eq_zero others
  simpa only [Entered, tally_append, none, State.pending, same, Nat.add_zero] using entered

theorem step_register (entered : Entered state records) {id : RegistryId}
    (present : id < state.machine.registries.size) (entry : Registry.Entry) :
    Entered { state with machine := state.machine.register id entry }
      (records ++ [(state.machine.registry id).entering entry]) := by
  let registry : Registry := { pending := entry :: (state.machine.registry id).pending }
  have moved : ({ state with machine := state.machine.register id entry } : State).pending +
      (state.machine.registry id).pending.length =
        state.pending + ((state.machine.registry id).pending.length + 1) :=
    pending_setRegistry present registry
  have entered : _ = _ := entered
  have registers : tally "registry" "register"
      [(state.machine.registry id).entering entry] = 1 := rfl
  have cleans : tally "registry" "cleanup"
      [(state.machine.registry id).entering entry] = 0 := rfl
  rw [Entered, tally_append, tally_append, registers, cleans]
  omega

/-- An entry that is taken out is no longer pending, before anything of it is run. -/
theorem step_takeEntry (entered : Entered state records) {id : RegistryId}
    {entry : Registry.Entry} {pending : List Registry.Entry}
    (newest : (state.machine.registry id).pending = entry :: pending) (o : Observer) :
    Entered
      { state with machine := (state.machine.setRegistry id { pending }).observe o }
      (records ++ [entry.announcement]) := by
  have present : id < state.machine.registries.size := by
    by_cases inside : id < state.machine.registries.size
    · exact inside
    · simp [Machine.registry, inside] at newest
  have moved := pending_setRegistry present { pending }
  rw [newest, List.length_cons] at moved
  have entered : _ = _ := entered
  have registers : tally "registry" "register" [entry.announcement] = 0 := rfl
  have cleans : tally "registry" "cleanup" [entry.announcement] = 1 := rfl
  have same : ({ state with
      machine := (state.machine.setRegistry id { pending }).observe o } : State).pending =
      ({ state with machine := state.machine.setRegistry id { pending } } : State).pending :=
    rfl
  have length : ({ pending } : Registry).length = pending.length := rfl
  rw [Entered, tally_append, tally_append, registers, cleans, same]
  omega

end Entered

end Underlay.Trail
