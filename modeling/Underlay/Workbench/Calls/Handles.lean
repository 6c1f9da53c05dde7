import Underlay.Boundary.Handles
import Underlay.Workbench.Calls.Memory
import Underlay.Workbench.Holders
import Underlay.Workbench.Scopes

/-!
Calls of entry points on handles. No name stands for a null handle.
-/

namespace Underlay.Workbench

/-! Scopes -/

def callNewScope (name : String) : Bench Answer := do
  let id ← run Boundary.newScope
  modify fun w => { w with scopes := w.scopes.set name id }
  called .null

def callScopeAlloc (name : Option String) (label : String) (size : Nat) : Bench Answer := do
  let scope ← known? Workbench.scopes name
  callGranted label size (← run (Boundary.scopeAlloc scope size))

def callScopeAllocZeroed (name : Option String) (label : String) (count size : Nat) :
    Bench Answer := do
  let scope ← known? Workbench.scopes name
  callGranted label (count * size) (← run (Boundary.scopeAllocZeroed scope count size))

def callScopeRegister (name block : Option String) : Bench Answer := do
  let scope ← known? Workbench.scopes name
  called (.nat (← run (Boundary.scopeRegister scope (← blockOf block))))

def callScopeSize (name : Option String) : Bench Answer := do
  called (.nat (Boundary.scopeSize (← known? Workbench.scopes name) (← machine')))

def callFreeScope (name : Option String) : Bench Answer := do
  update (Boundary.freeScope (← known? Workbench.scopes name))
  modify fun w => { w with scopes := (name.map w.scopes.erase).getD w.scopes }
  called .null

/-! Pools -/

def callNewPool (name : String) (capacity : Nat) : Bench Answer := do
  let pool ← run (Boundary.newPool capacity)
  match pool with
  | some id => modify fun w => { w with handlePools := w.handlePools.set name { id } }
  | none => pure ()
  called (.bool pool.isSome)

def handlePoolView (pool : Option Nat) : Bench Json := do
  let machine ← machine'
  return .object [("used", .nat (Boundary.poolUsed pool machine)),
    ("capacity", .nat (Boundary.poolCapacity pool machine))]

def callPoolAlloc (name : Option String) (size : Nat) : Bench Answer := do
  let pool ← known? Workbench.handlePools name
  let id := pool.map NamedPool.id
  let offset ← run (Boundary.poolAlloc id size)
  let capacity := Boundary.poolCapacity id (← machine')
  match name, pool, offset with
  | some name, some pool, some offset =>
      let pool := { pool with last := some (offset, capacity) }
      modify fun w => { w with handlePools := w.handlePools.set name pool }
  | _, _, _ => pure ()
  called (.object [("null", .bool offset.isNone), ("mod16", aligned (offset.getD 0)),
    ("delta", Json.ofOption Json.integer (do (← pool).distance (← offset) capacity)),
    ("state", ← handlePoolView id)])

def handlePool (name : Option String) : Bench (Option Nat) := do
  return (← known? Workbench.handlePools name).map NamedPool.id

def callPoolState (name : Option String) : Bench Answer := do
  called (← handlePoolView (← handlePool name))

def callResetPool (name : Option String) : Bench Answer := do
  update (Boundary.resetPool (← handlePool name))
  callPoolState name

def callFreePool (name : Option String) : Bench Answer := do
  update (Boundary.freePool (← handlePool name))
  modify fun w => { w with handlePools := (name.map w.handlePools.erase).getD w.handlePools }
  called .null

/-! Shared objects -/

/-- What happened to objects of generated code: a destructor tells the first byte of the
payload. -/
def cellEvents (happenings : List (Happening Block) := []) : Answer :=
  [("events", View.strings (happenings.filterMap fun happening =>
    match happening with
    | .destructed _ _ payload _ => some ("dtor:" ++ toString (payload.memory 0).toNat)
    | .released .. | .dropped .. => none))]

def callNewObject (name : String) (size : Nat) (destructor : Bool) : Bench Answer := do
  let destructor : Option (Destructor Block) := if destructor then some { tag := "" } else none
  let object ← run (Boundary.newObject size destructor)
  match object with
  | some id => modify fun w => { w with handleObjects := w.handleObjects.set name id }
  | none => pure ()
  called (.bool object.isSome) cellEvents

def callRetain (name : Option String) : Bench Answer := do
  let object ← known? Workbench.handleObjects name
  let again ← run (Boundary.retain object)
  called (.object [("same", .bool (again == object)), ("null", .bool again.isNone)]) cellEvents

def callRelease (name : Option String) : Bench Answer := do
  let object ← known? Workbench.handleObjects name
  let (destroyed, happenings) ← run fun machine =>
    let (destroyed, happenings, machine) := Boundary.release object machine
    ((destroyed, happenings), machine)
  called (.integer (if destroyed then 1 else 0)) (cellEvents happenings)

def callHolders (name : Option String) : Bench Answer := do
  called (.nat (Boundary.holders (← known? Workbench.handleObjects name) (← machine')))
    cellEvents

/-- The payload of an object after a write to its front; payloads are aligned. -/
def callPayload (name : Option String) (written : List UInt8) : Bench Answer := do
  let object ← known? Workbench.handleObjects name
  let payload ← run (Boundary.payload object written)
  let view (bytes : List UInt8) : Json :=
    .object [("mod16", aligned 0), ("payload", View.hex bytes)]
  called (Json.ofOption view payload) cellEvents

/-! Registries -/

def callNewRegistry (name : String) : Bench Answer := do
  newRegistry name
  called .null

def callRegister (name : Option String) (resource : Option Nat) (cleanup : Bool)
    (label : Option (List UInt8)) : Bench Answer := do
  let registry ← known? Workbench.registries name
  called (.nat (← run (Boundary.register registry resource cleanup label))) cleaned

def callCleanUp (name : Option String) : Bench Answer := do
  let ran ← run (Boundary.cleanUp (← known? Workbench.registries name))
  called (.nat ran.length) (cleaned ran)

def callRegistrySize (name : Option String) : Bench Answer := do
  called (.nat (Boundary.registrySize (← known? Workbench.registries name) (← machine'))) cleaned

def callFreeRegistry (name : Option String) : Bench Answer := do
  let ran ← run (Boundary.cleanUp (← known? Workbench.registries name))
  modify fun w => { w with registries := (name.map w.registries.erase).getD w.registries }
  called .null (cleaned ran)

end Underlay.Workbench
