import Underlay.Machine.Heaps

/-!
Operations on the open scopes of a program.
-/

namespace Underlay.Machine

def scope? (machine : Machine) (id : Nat) : Option OpenScope :=
  machine.scopes.find? fun s => s.scope.id == id

def setScope (machine : Machine) (scope : Scope) : Machine :=
  { machine with scopes := machine.scopes.map fun s =>
      if s.scope.id == scope.id then { s with scope } else s }

def openScope (machine : Machine) (heap : HeapId) : Nat × Machine :=
  let (scope, session) := machine.session.openScope
  (scope.id, { machine with session, scopes := machine.scopes ++ [{ scope, heap }] })

def onScope {α : Type} (machine : Machine) (id : Nat) (absent : Except Failure α)
    (act : Scope → Heap → Observer → Except Failure (α × Scope × Heap) × Observer) :
    Except Failure α × Machine :=
  match machine.scope? id with
  | none => (absent, machine)
  | some s =>
      match act s.scope (machine.heap s.heap) machine.observer with
      | (.ok (a, scope, heap), o) =>
          (.ok a, ((machine.setHeap s.heap heap).setScope scope).observe o)
      | (.error failure, o) =>
          (.error failure, (machine.observe o).note (.error failure : Except Failure α))

/-- The bytes that the program reserves to serve a request of a scope to its heap. -/
def scopeRoom (machine : Machine) (id : Nat) (room : Machine → HeapId → Nat) : Nat :=
  ((machine.scope? id).map fun s => room machine s.heap).getD 0

def scopeAlloc (machine : Machine) (id size : Nat) : Except Failure BlockId × Machine :=
  machine.onScope id (.ok default) fun scope heap o => scope.alloc heap size o

def scopeAllocZeroed (machine : Machine) (id count size : Nat) : Except Failure BlockId × Machine :=
  machine.onScope id (.ok default) fun scope heap o => scope.allocZeroed heap count size o

def scopeRegister (machine : Machine) (id : Nat) (block : Option BlockId) :
    Except Failure Unit × Machine :=
  machine.onScope id (.ok ()) fun scope heap o =>
    let (result, o) := scope.register block o
    (result.map fun scope => ((), scope, heap), o)

def scopeSize (machine : Machine) (id : Nat) : Nat :=
  ((machine.scope? id).map fun s => s.scope.owned.length).getD 0

/-- Close a scope: everything that it owns is released. -/
def closeScope (machine : Machine) (id : Nat) : Machine :=
  match machine.scope? id with
  | none => machine
  | some s =>
      let (heap, o) := s.scope.close (machine.heap s.heap) machine.observer
      let machine := (machine.setHeap s.heap heap).observe o
      { machine with scopes := machine.scopes.filter fun s => s.scope.id != id }

theorem id_of_scope? {machine : Machine} {id : Nat} {s : OpenScope}
    (found : machine.scope? id = some s) : s.scope.id = id :=
  number_of_find? (fun s : OpenScope => s.scope.id) found

theorem scope?_setScope (machine : Machine) (scope : Scope) (id : Nat) :
    (machine.setScope scope).scope? id =
      (machine.scope? id).map fun s =>
        if s.scope.id == scope.id then { s with scope } else s := by
  apply find?_map_of_number
  intro s
  split <;> simp_all

theorem scope?_setScope_self {machine : Machine} {scope : Scope} {s : OpenScope}
    (found : machine.scope? scope.id = some s) :
    (machine.setScope scope).scope? scope.id = some { s with scope } := by
  simp [scope?_setScope, found, id_of_scope? found]

theorem scope?_setScope_of_ne (machine : Machine) {scope : Scope} {id : Nat}
    (distinct : id ≠ scope.id) : (machine.setScope scope).scope? id = machine.scope? id := by
  rw [scope?_setScope]
  cases found : machine.scope? id with
  | none => rfl
  | some s => simp [id_of_scope? found, distinct]

/-- Behind the opening of a scope its number finds it, unless the number was taken. -/
theorem scope?_openScope (machine : Machine) (heap : HeapId) (id : Nat) :
    (machine.openScope heap).2.scope? id =
      (machine.scope? id).or
        (if machine.session.scopesOpened + 1 = id then
          some { scope := { id := machine.session.scopesOpened + 1 }, heap }
        else none) := by
  exact find?_append_of_number (fun s : OpenScope => s.scope.id) machine.scopes _ id

theorem onScope_cases {α : Type} {machine : Machine} {id : Nat} {s : OpenScope}
    (found : machine.scope? id = some s) (absent : Except Failure α)
    (act : Scope → Heap → Observer → Except Failure (α × Scope × Heap) × Observer) :
    (∃ failure o,
      act s.scope (machine.heap s.heap) machine.observer = (.error failure, o) ∧
      machine.onScope id absent act =
        (.error failure, (machine.observe o).note (.error failure : Except Failure α))) ∨
    ∃ a scope heap o,
      act s.scope (machine.heap s.heap) machine.observer = (.ok (a, scope, heap), o) ∧
      machine.onScope id absent act =
        (.ok a, ((machine.setHeap s.heap heap).setScope scope).observe o) := by
  unfold onScope
  simp only [found]
  rcases act s.scope (machine.heap s.heap) machine.observer with ⟨failure | ⟨a, scope, heap⟩, o⟩
  · exact .inl ⟨failure, o, rfl, rfl⟩
  · exact .inr ⟨a, scope, heap, o, rfl, rfl⟩

@[simp]
theorem heaps_size_closeScope (machine : Machine) (id : Nat) :
    (machine.closeScope id).heaps.size = machine.heaps.size := by
  unfold closeScope
  cases machine.scope? id with
  | none => rfl
  | some s => exact heaps_size_setHeap machine s.heap _

@[simp]
theorem scopesOpened_closeScope (machine : Machine) (id : Nat) :
    (machine.closeScope id).session.scopesOpened = machine.session.scopesOpened := by
  unfold closeScope
  cases machine.scope? id <;> rfl

/-- Closing a scope logs the release of every registration on its heap, the newest first. -/
theorem releases_closeScope {machine : Machine} {id : Nat} {s : OpenScope}
    (found : machine.scope? id = some s) (present : s.heap < machine.heaps.size) :
    ((machine.closeScope id).heap s.heap).releases =
      (machine.heap s.heap).releases ++ s.scope.owned.map Registration.block := by
  unfold closeScope
  rw [found, ← Scope.releases_of_close s.scope (machine.heap s.heap) machine.observer]
  exact congrArg Heap.releases (heap_setHeap_self _ present)

theorem scope?_closeScope (machine : Machine) (id other : Nat) :
    (machine.closeScope id).scope? other = if other = id then none else machine.scope? other := by
  unfold closeScope
  cases found : machine.scope? id with
  | none =>
      by_cases same : other = id
      · rw [if_pos same, same]
        exact found
      · rw [if_neg same]
  | some s => exact find?_filter_of_number (fun s : OpenScope => s.scope.id) machine.scopes id other

theorem scope?_closeScope_self (machine : Machine) (id : Nat) :
    (machine.closeScope id).scope? id = none := by
  rw [scope?_closeScope, if_pos rfl]

theorem scope?_closeScope_of_ne (machine : Machine) {id other : Nat} (distinct : other ≠ id) :
    (machine.closeScope id).scope? other = machine.scope? other := by
  rw [scope?_closeScope, if_neg distinct]

end Underlay.Machine
