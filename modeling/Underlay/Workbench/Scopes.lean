import Underlay.Machine.Pools
import Underlay.Machine.Scopes
import Underlay.Workbench.Heaps

/-!
Operations of a workbench on scopes and pools.
-/

namespace Underlay.Workbench

/-- Give a name to a new thing, and close the thing that had the name. -/
def takeOver {α : Type} (old : Option α) (close : α → Machine → Machine) : Bench Unit :=
  match old with
  | some old => update (close old)
  | none => pure ()

def openScope (name : String) (heapName : Option String) : Bench Answer := do
  let heap ← heap heapName
  let id ← run (·.openScope heap)
  let old := (← get).scopes.get? name
  modify fun w => { w with scopes := w.scopes.set name id }
  takeOver old fun old machine => machine.closeScope old
  return ok (.object [("id", .nat id)])

def scopeAlloc (name label : String) (size : Nat) : Bench Answer := do
  let id ← known Workbench.scopes name
  reserve (·.scopeRoom id fun machine heap => machine.requestRoom heap size)
  granted label size (← run (·.scopeAlloc id size))

def scopeAllocZeroed (name label : String) (count size : Nat) : Bench Answer := do
  let id ← known Workbench.scopes name
  reserve (·.scopeRoom id fun machine heap => machine.arrayRoom heap count size)
  granted label (count * size) (← run (·.scopeAllocZeroed id count size))

def scopeRegister (name : String) (block : Option String) : Bench Answer := do
  let id ← known Workbench.scopes name
  let b ← known? Workbench.blocks block
  return answered (← run (·.scopeRegister id (b.map NamedBlock.block))) View.nothing

def scopeSize (name : String) : Bench Answer := do
  return ok (View.size ((← get).machine.scopeSize (← known Workbench.scopes name)))

def closeScope (name : String) : Bench Answer := do
  let id ← known Workbench.scopes name
  update (·.closeScope id)
  modify fun w => { w with scopes := w.scopes.erase name }
  return ok .null

def poolView (id : Nat) : Bench Json := do
  return Json.ofOption View.pool ((← get).machine.pool? id)

def poolState (name : String) : Bench Answer := do
  return ok (← poolView (← known Workbench.pools name))

def openPool (name : String) (capacity : Option Nat) : Bench Answer := do
  match ← run (·.openPool capacity) with
  | .error failure => return failed failure
  | .ok id =>
      let old := (← get).pools.get? name
      modify fun w => { w with pools := w.pools.set name id }
      takeOver old fun old machine => machine.closePool old
      return ok (.object [("id", .nat id), ("state", ← poolView id)])

/-- Carve a block, and name its handle if a name is given. -/
def poolAlloc (name : String) (label : Option String) (size : Nat) : Bench Answer := do
  let id ← known Workbench.pools name
  let result ← run (·.poolAlloc id size)
  let state ← poolView id
  match result with
  | .error failure => return failed failure [("state", state)]
  | .ok handle =>
      match label with
      | some label => modify fun w => { w with handles := w.handles.set label handle }
      | none => pure ()
      return ok (.object [("offset", .nat handle.offset), ("len", .nat handle.length),
        ("empty", .bool (handle.length == 0)), ("epoch", .nat handle.epoch),
        ("pool", .nat handle.pool), ("state", state)])

/-- An address in a buffer as far as the alignment of buffers tells it. -/
def aligned (offset : Nat) : Json :=
  .nat (offset % Pool.bufferAlignment)

/-- Carve a block of which only the address is told. -/
def poolAllocRaw (name : String) (size : Nat) : Bench Answer := do
  let id ← known Workbench.pools name
  let result ← run (·.poolAlloc id size)
  return answered result (fun handle => aligned handle.offset) [("state", ← poolView id)]

def onHandle {α : Type} (name label : String) (view : Handle → α → Json)
    (act : Machine → Nat → Handle → Except Failure α × Machine) : Bench Answer := do
  let id ← known Workbench.pools name
  let handle ← known Workbench.handles label
  return answered (← run fun machine => act machine id handle) (view handle)

def poolBytes (name label : String) : Bench Answer :=
  onHandle name label (fun _ => View.hex) Machine.poolBytes

def poolWrite (name label : String) (bytes : List UInt8) : Bench Answer :=
  onHandle name label (fun _ => View.nothing) fun machine id handle =>
    machine.poolWrite id handle 0 bytes

def poolFill (name label : String) (byte : UInt8) : Bench Answer :=
  onHandle name label (fun handle _ => .nat handle.length) fun machine id handle =>
    machine.poolFill id handle byte

def poolAddress (name label : String) : Bench Answer :=
  onHandle name label (fun _ => aligned) Machine.poolAddress

def resetPool (name : String) (times : Nat) : Bench Answer := do
  let id ← known Workbench.pools name
  update (·.resetPoolTimes id times)
  return ok (← poolView id)

def closePool (name : String) : Bench Answer := do
  let id ← known Workbench.pools name
  update (·.closePool id)
  modify fun w => { w with pools := w.pools.erase name }
  return ok .null

end Underlay.Workbench
