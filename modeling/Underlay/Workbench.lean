import Underlay.Conformance.Instant
import Underlay.Json.Value
import Underlay.Names
import Underlay.Machine.Heaps

/-!
A workbench: a running program whose objects are known by names, together with a clock and with
values that stand for themselves. An operation names what it works on and answers with a view of
what came out. A new object under an old name takes the name over; the old object is closed behind
it, if it is of a sort that can be closed. An operation on a name that is not known is refused, and
changes nothing.
-/

namespace Underlay

/-- A block with the size that was asked for. -/
structure NamedBlock where
  block : BlockId
  size : Nat
deriving DecidableEq, Repr, Inhabited

/-- A pool behind a handle. What was carved last is known by its offset and by the capacity at
that time. -/
structure NamedPool where
  id : Nat
  last : Option (Nat × Nat) := none
deriving DecidableEq, Repr, Inhabited

/-- How far a block is from the one carved before it. A pool that has grown since has moved. -/
def NamedPool.distance (pool : NamedPool) (offset capacity : Nat) : Option Int := do
  let (before, capacityBefore) ← pool.last
  if capacityBefore == capacity then some ((offset : Int) - before) else none

structure Workbench where
  machine : Machine := {}
  now : Instant := {}
  recorders : Names HeapId := []
  blocks : Names NamedBlock := []
  /-- The names under which blocks were given out, the newest first. -/
  issued : List (BlockId × String) := []
  scopes : Names Nat := []
  pools : Names Nat := []
  handles : Names Handle := []
  holders : Names ObjectId := []
  addresses : Names ObjectId := []
  registries : Names RegistryId := []
  contexts : Names Slot := []
  trackers : Names Counters := []
  logs : Names Lifecycle.Log := []
  /-- Pools and shared objects of generated code. -/
  handlePools : Names NamedPool := []
  handleObjects : Names ObjectId := []
deriving Inhabited

/-- Why an operation on a workbench has no answer. -/
inductive Halt where
  /-- It is not understood, and changes nothing. -/
  | refused (reason : String)
  /-- The program ended for want of room. -/
  | aborted
deriving DecidableEq, Repr, Inhabited

abbrev Bench := StateT Workbench (Except Halt)

abbrev Answer := List (String × Json)

namespace Workbench

def known {α : Type} (what : Workbench → Names α) (name : String) : Bench α := do
  match (what (← get)).get? name with
  | some a => return a
  | none => throw (.refused ("unknown name " ++ name))

/-- The thing that a name stands for, if one is given. -/
def known? {α : Type} (what : Workbench → Names α) (name : Option String) : Bench (Option α) :=
  name.mapM (known what)

def run {α : Type} (act : Machine → α × Machine) : Bench α :=
  modifyGet fun w =>
    let (a, machine) := act w.machine
    (a, { w with machine })

/-- Go on where the program can, with what it has come to. -/
def reach {α : Type} : Course α → Bench α
  | .reached a => pure a
  | .aborted => throw .aborted

/-- Reserve so many bytes for the program itself. -/
def reserve (bytes : Machine → Nat) : Bench Unit := do
  let machine := (← get).machine
  reach (machine.reserving (bytes machine) ())

def update (act : Machine → Machine) : Bench Unit :=
  modify fun w => { w with machine := act w.machine }

def machine' : Bench Machine := do
  return (← get).machine

def ok (value : Json) (more : Answer := []) : Answer :=
  ("ok", value) :: more

def failed (failure : Failure) (more : Answer := []) : Answer :=
  [("error", .string failure.kind.name), ("message", .string failure.message)] ++
    (failure.location.toList.map fun location => ("function", .string location.function)) ++ more

def answered {α : Type} (result : Except Failure α) (view : α → Json) (more : Answer := []) :
    Answer :=
  match result with
  | .ok a => ok (view a) more
  | .error failure => failed failure more

def noted {α : Type} (result : Except Failure α) (view : α → Json) (more : Answer := []) :
    Bench Answer := do
  return answered (← run (·.attempt result)) view more

end Workbench

end Underlay
