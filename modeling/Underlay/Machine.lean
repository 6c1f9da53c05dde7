import Underlay.Registry
import Underlay.Session
import Underlay.Shared

/-!
The whole state of a running program: the session, the heaps, the open scopes and pools, the
shared objects and the registries. Heaps, objects and registries are known by the order in which
they were made, scopes and pools by their numbers. The system heap is the first heap.

An operation on a scope, a pool or a registry that is not there does nothing; callers hold on to
the numbers of those that are.
-/

namespace Underlay

abbrev RegistryId := Nat

/-- A scope with the heap that it takes its blocks from. -/
structure OpenScope where
  scope : Scope
  heap : HeapId
deriving DecidableEq, Repr, Inhabited

structure Machine where
  session : Session := {}
  heaps : Array Heap := #[{}]
  scopes : List OpenScope := []
  pools : List Pool := []
  objects : Objects String := {}
  /-- Objects whose payload is a block of bytes. -/
  cells : Objects Block := {}
  registries : Array Registry := #[]
deriving Inhabited

namespace Machine

/-- The system heap. -/
def systemHeap : HeapId := 0

def observer (machine : Machine) : Observer :=
  machine.session.observer

def slot (machine : Machine) : Slot :=
  machine.session.slot

def observe (machine : Machine) (observer : Observer) : Machine :=
  { machine with session := machine.session.observe observer }

/-- Let the slot see a result. -/
def note {α : Type} (machine : Machine) (result : Except Failure α) : Machine :=
  { machine with session := machine.session.note result }

/-- Report a result that nothing of the state took part in. -/
def attempt {α : Type} (machine : Machine) (result : Except Failure α) :
    Except Failure α × Machine :=
  (result, machine.note result)

def setSlot (machine : Machine) (slot : Slot) : Machine :=
  { machine with session := { machine.session with slot } }

/-- The counters, and with them everything that was counted, start anew. -/
def resetCounters (machine : Machine) : Machine :=
  machine.observe { machine.observer with counters := {} }

/-- Take the records out of the lifecycle log. -/
def drainLog (machine : Machine) : List Lifecycle.Record × Machine :=
  let (records, log) := machine.observer.log.drain
  (records, machine.observe { machine.observer with log })

/-! Things that are found by their numbers. -/

section Numbered

variable {α : Type} (number : α → Nat)

theorem number_of_find? {things : List α} {id : Nat} {a : α}
    (found : things.find? (fun a => number a == id) = some a) : number a = id := by
  simpa using List.find?_some found

variable {number} in
/-- A change that keeps the number of each thing commutes with the look-up by number. -/
theorem find?_map_of_number {change : α → α} (keeps : ∀ a, number (change a) = number a)
    (things : List α) (id : Nat) :
    (things.map change).find? (fun a => number a == id) =
      (things.find? fun a => number a == id).map change := by
  rw [List.find?_map]
  congr 2
  funext a
  simp only [Function.comp, keeps]

theorem find?_append_of_number (things : List α) (a : α) (id : Nat) :
    (things ++ [a]).find? (fun a => number a == id) =
      (things.find? fun a => number a == id).or (if number a = id then some a else none) := by
  rw [List.find?_append]
  congr 1
  by_cases same : number a = id <;> simp [same]

theorem find?_filter_of_number (things : List α) (id other : Nat) :
    (things.filter fun a => number a != id).find? (fun a => number a == other) =
      if other = id then none else things.find? fun a => number a == other := by
  rw [List.find?_filter]
  split
  · rename_i same
    simp [same]
  · rename_i distinct
    congr 1
    funext a
    by_cases same : number a = other <;> simp [same, distinct]

end Numbered

end Machine

end Underlay
