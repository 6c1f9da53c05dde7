import Underlay.Boundary.Failures
import Underlay.Boundary.Slices
import Underlay.Machine.Holders
import Underlay.Machine.Pools
import Underlay.Machine.Scopes

/-!
Entry points for generated code: scopes, pools, shared objects and registries behind handles. A
missing handle is a null pointer; where that is no failure, a null handle stands for something
empty.
-/

namespace Underlay.Boundary

/-! Scopes -/

def newScope (machine : Machine) : Nat × Machine :=
  machine.openScope Machine.systemHeap

/-- An operation on the scope behind a handle. -/
def onScope {α : Type} (scope : Option Nat) (operation : String) (machine : Machine)
    (act : Nat → Except Failure α × Machine) : Except Failure α × Machine :=
  match require scope operation "scope" with
  | .error failure => (.error failure, machine.note (.error failure : Except Failure α))
  | .ok scope => act scope

def scopeAlloc (scope : Option Nat) (size : Nat) (machine : Machine) : Option BlockId × Machine :=
  let (result, machine) := onScope scope "pyrt_scope_alloc" machine fun scope =>
    machine.scopeAlloc scope size
  (result.toOption, machine)

def scopeAllocZeroed (scope : Option Nat) (count size : Nat) (machine : Machine) :
    Option BlockId × Machine :=
  let (result, machine) := onScope scope "pyrt_scope_calloc" machine fun scope =>
    machine.scopeAllocZeroed scope count size
  (result.toOption, machine)

def scopeRegister (scope : Option Nat) (block : Option BlockId) (machine : Machine) :
    Nat × Machine :=
  let (result, machine) := onScope scope "pyrt_scope_register" machine fun scope =>
    machine.scopeRegister scope block
  (status result, machine)

def scopeSize (scope : Option Nat) (machine : Machine) : Nat :=
  (scope.map machine.scopeSize).getD 0

def freeScope (scope : Option Nat) (machine : Machine) : Machine :=
  (scope.map machine.closeScope).getD machine

/-! Pools -/

def newPool (capacity : Nat) (machine : Machine) : Option Nat × Machine :=
  let (result, machine) := machine.openPool (some capacity)
  (result.toOption, machine)

/-- Carve a block; where it begins in the buffer of the pool. -/
def poolAlloc (pool : Option Nat) (size : Nat) (machine : Machine) : Option Nat × Machine :=
  match require pool "pyrt_pool_alloc" "pool" with
  | .error failure => (none, machine.note (.error failure : Except Failure Nat))
  | .ok pool =>
      let (result, machine) := machine.poolAlloc pool size
      (result.toOption.map Handle.offset, machine)

def resetPool (pool : Option Nat) (machine : Machine) : Machine :=
  (pool.map machine.resetPool).getD machine

/-- Bytes used in a pool. -/
def poolUsed (pool : Option Nat) (machine : Machine) : Nat :=
  ((pool.bind machine.pool?).map Pool.used).getD 0

def poolCapacity (pool : Option Nat) (machine : Machine) : Nat :=
  ((pool.bind machine.pool?).map Pool.capacity).getD 0

def freePool (pool : Option Nat) (machine : Machine) : Machine :=
  (pool.map machine.closePool).getD machine

/-! Shared objects -/

/-- Payloads take a multiple of this many bytes. -/
def payloadUnit : Nat := 16

/-- The bytes that a payload takes. -/
def payloadRoom (size : Nat) : Nat :=
  Word.roundUp size payloadUnit

/-- A new object with a payload of zeros. -/
def newObject (size : Nat) (destructor : Option (Destructor Block)) (machine : Machine) :
    Option ObjectId × Machine :=
  if machine.session.system.reserves (payloadRoom size) then
    let payload : Block := { size := payloadRoom size, memory := .filled 0 }
    let (id, cells, o) := machine.cells.create payload destructor [] machine.observer
    (some id, { machine.observe o with cells })
  else
    (none, machine.note (.error (.raise .memory
      ("failed to allocate refcounted payload of " ++ toString size ++ " bytes")
      "pyrt_refcount_new") : Except Failure ObjectId))

/-- Demand the handle of an object. -/
def requireObject (object : Option ObjectId) (operation : String) : Except Failure ObjectId :=
  match object with
  | some id => .ok id
  | none => .error (.raise .value "refcounted handle is null" operation)

/-- One more holder; the handle itself is answered. -/
def retain (object : Option ObjectId) (machine : Machine) : Option ObjectId × Machine :=
  match requireObject object "pyrt_refcount_retain" with
  | .error failure => (none, machine.note (.error failure : Except Failure ObjectId))
  | .ok id =>
      let (cells, o) := machine.cells.retain id machine.observer
      (some id, { machine.observe o with cells })

/-- Give up a holder: whether it was the last, and what happened. -/
def release (object : Option ObjectId) (machine : Machine) :
    Bool × List (Happening Block) × Machine :=
  match requireObject object "pyrt_refcount_release" with
  | .error failure => (false, [], machine.note (.error failure : Except Failure ObjectId))
  | .ok id =>
      let (destroyed, cells, o, happened) := machine.cells.release id machine.observer
      (destroyed, happened, { machine.observe o with cells })

def holders (object : Option ObjectId) (machine : Machine) : Nat :=
  (object.map machine.cells.count).getD 0

/-- The payload of an object, after bytes were written to its front. -/
def payload (object : Option ObjectId) (written : List UInt8) (machine : Machine) :
    Option (List UInt8) × Machine :=
  match requireObject object "pyrt_refcount_data" with
  | .error failure => (none, machine.note (.error failure : Except Failure ObjectId))
  | .ok id =>
      match machine.cells.get? id with
      | none => (none, machine)
      | some object =>
          let memory := object.payload.memory.write 0 written.toArray
          let payload : Block := { object.payload with memory }
          (some (memory.read 0 payload.size),
            { machine with cells := machine.cells.set id (some { object with payload }) })

/-! Registries -/

/-- Register a resource with its cleanup; the answer is a status. -/
def register (registry : Option RegistryId) (resource : Option Nat) (cleanup : Bool)
    (name : Option (List UInt8)) (machine : Machine) : Nat × Machine :=
  let operation := "pyrt_registry_register"
  let checked : Except Failure (RegistryId × Nat) := do
    let registry ← require registry operation "registry"
    let resource ← require resource operation "resource"
    if cleanup then
      return (registry, resource)
    else
      throw (.raise .value "cleanup callback is null" operation)
  match checked with
  | .error failure => answerStatus (.error failure : Except Failure Unit) machine
  | .ok (registry, resource) =>
      (Kind.ok.code, machine.register registry
        { name := name.map textOf, cleanup := .resource (toString resource) })

def cleanUp (registry : Option RegistryId) (machine : Machine) : List Cleanup × Machine :=
  match registry with
  | some registry => machine.cleanUp registry
  | none => ([], machine)

def registrySize (registry : Option RegistryId) (machine : Machine) : Nat :=
  (registry.map fun registry => (machine.registry registry).length).getD 0

end Underlay.Boundary
