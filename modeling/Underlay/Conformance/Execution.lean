import Underlay.Conformance.Inputs
import Underlay.Conformance.Operation
import Underlay.Container.Sequence
import Underlay.Failure.System
import Underlay.Memory.Bounded
import Underlay.Progression
import Underlay.Registry
import Underlay.Session
import Underlay.Shared
import Underlay.Text.Quoted

/-!
Execution of operations. It gives a text: the result, or `error:` and the kind of the failure.
Each execution starts with an empty slot. An execution that opens a scope or a pool closes it
before it ends, also when it ends with a refusal.
-/

namespace Underlay.Conformance

namespace Execution

def listed {α : Type} [ToString α] (items : List α) : String :=
  "[" ++ ", ".intercalate (items.map toString) ++ "]"

def shownFailure (failure : Failure) : String :=
  "error:" ++ failure.kind.name

def shown (result : Except Failure String) : String :=
  match result with
  | .ok text => text
  | .error failure => shownFailure failure

def shownFlag (flag : Bool) : String :=
  if flag then "true" else "false"

def sequence (items : List String) : Sequence String :=
  .ofArray "list" items.toArray

def sliceSpec (inputs : Json) : Except Refusal SliceSpec := do
  let start ← Inputs.integer? inputs "start"
  let stop ← Inputs.integer? inputs "stop"
  let step ← Inputs.integer? inputs "step"
  return { start, stop, step }

def shownSlice (slice : Slice) : String :=
  "start=" ++ toString slice.start ++ " stop=" ++ toString slice.stop ++
    " step=" ++ toString slice.step ++ " len=" ++ toString slice.length ++
    " indices=" ++ listed slice.indices

/-- The failure that the inputs describe, with a location if they name a file. -/
def failureOf (inputs : Json) : Except Refusal Failure := do
  let kind ← Inputs.demand "kind" (Kind.ofName? (← Inputs.text inputs "kind"))
  let message ← Inputs.text inputs "message"
  match inputs.get? "file" with
  | none => return { kind, message, location := none }
  | some file =>
      let line ← Inputs.integer inputs "line"
      if 0 ≤ line ∧ line < Word.halfLimit then
        let function ← Inputs.text inputs "function"
        return { kind, message,
                 location := some { file := Inputs.textOf file, line := line.toNat, function } }
      else
        throw (.badInput "line")

def kindOfErrno (inputs : Json) : Except Refusal Kind := do
  let errno ← Inputs.integer inputs "errno"
  if -Word.halfLimit ≤ 2 * errno ∧ 2 * errno < Word.halfLimit then
    return Kind.ofErrno errno
  else
    throw (.badInput "errno")

/-- The text of an operation that needs nothing but its inputs, and the session behind it. -/
def settle (s : Session) (answer : Except Refusal (Except Failure String)) :
    Except Refusal String × Session :=
  match answer with
  | .error refusal => (.error refusal, s)
  | .ok result => (.ok (shown result), s.note result)

/-- Whether a progression contains a value. The progression is made before the value is read. -/
def runContains (inputs : Json) (s : Session) : Except Refusal String × Session :=
  let made : Except Refusal (Except Failure Progression) := do
    let start ← Inputs.integer inputs "start"
    let stop ← Inputs.integer inputs "stop"
    let step ← Inputs.integer? inputs "step"
    return Progression.make start stop (step.getD 1)
  match made with
  | .error refusal => (.error refusal, s)
  | .ok made =>
      ((Inputs.integer inputs "value").map fun value =>
        shown (made.map fun p => shownFlag (p.contains value)), s.note made)

/-- Allocate blocks of the given sizes in a scope, up to the first failure. -/
def allocateAll : List Nat → Scope → Heap → Session →
    List BlockId × Option Failure × Scope × Heap × Session
  | [], scope, heap, s => ([], none, scope, heap, s)
  | size :: rest, scope, heap, s =>
      let (result, observer) := scope.alloc heap size s.observer
      let s := (s.observe observer).note result
      match result with
      | .error failure => ([], some failure, scope, heap, s)
      | .ok (block, scope, heap) =>
          let (blocks, failure, scope, heap, s) := allocateAll rest scope heap s
          (block :: blocks, failure, scope, heap, s)

/-- What is told of blocks that were allocated and of what their heap released. -/
def scopeText (blocks : List BlockId) (failure : Option Failure) (heap : Heap) : String :=
  let suffix := match failure with
    | some failure => " error=" ++ failure.kind.name
    | none => ""
  "registered=" ++ toString blocks.length ++
    " released=" ++ toString heap.releases.length ++
    " lifo=" ++ shownFlag (heap.releases == blocks.reverse) ++ suffix

/-- The sizes that a scope is asked for, and the budget of its heap if it has one. -/
def scopeRequests (inputs : Json) : Except Refusal (List Nat × Option Nat) := do
  let sizes ← Inputs.sizes inputs "sizes"
  match ← Inputs.integer? inputs "fail_after" with
  | none => return (sizes, none)
  | some budget =>
      if 0 ≤ budget then return (sizes, some budget.toNat) else throw (.badInput "fail_after")

/-- Allocate in a scope over a recording heap, close it, and tell what was released. -/
def runScope (inputs : Json) (s : Session) : Except Refusal String × Session :=
  match scopeRequests inputs with
  | .error refusal => (.error refusal, s)
  | .ok (sizes, budget) =>
      let (scope, s) := s.openScope
      let (blocks, failure, scope, heap, s) :=
        allocateAll sizes scope { source := .recording budget } s
      let (heap, observer) := scope.close heap s.observer
      (.ok (scopeText blocks failure heap), s.observe observer)

/-- Register one block twice in a scope, close it, and count the releases of the block. -/
def runDoubleRegistration (s : Session) : Except Refusal String × Session :=
  let heap : Heap := { source := .recording none }
  let (block, heap) := ((heap.allocate 16).map fun (id, heap) => (some id, heap)).getD (none, heap)
  let (scope, s) := s.openScope
  let (first, observer) := scope.register block s.observer
  let (second, observer) := match first with
    | .ok scope => scope.register block observer
    | .error failure => (.error failure, observer)
  let s := (s.observe observer).note second
  let owner := match second with
    | .ok scope => scope
    | .error _ => scope
  let (heap, observer) := owner.close heap s.observer
  (.ok (shown (second.map fun _ =>
      "releases=" ++ toString ((block.map heap.releaseCount).getD 0))),
    s.observe observer)

/-- Carve blocks of the given sizes, up to the first failure; their offsets. -/
def carveAll : List Nat → Pool → Session → Except Failure (List Nat) × Pool × Session
  | [], pool, s => (.ok [], pool, s)
  | size :: rest, pool, s =>
      let (result, observer) := pool.alloc s.system size s.observer
      let s := (s.observe observer).note result
      match result with
      | .error failure => (.error failure, pool, s)
      | .ok (handle, pool) =>
          let (offsets, pool, s) := carveAll rest pool s
          (offsets.map (handle.offset :: ·), pool, s)

def carveListed (inputs : Json) (field : String) (pool : Pool) (s : Session) :
    Except Refusal (Except Failure (List Nat)) × Pool × Session :=
  match Inputs.sizes inputs field with
  | .error refusal => (.error refusal, pool, s)
  | .ok sizes =>
      let (offsets, pool, s) := carveAll sizes pool s
      (.ok offsets, pool, s)

/-- Use an open pool: carve, and carve again behind a reset if the inputs say so. -/
def usePool (inputs : Json) (pool : Pool) (s : Session) :
    Except Refusal String × Pool × Session :=
  match carveListed inputs "sizes" pool s with
  | (.error refusal, pool, s) => (.error refusal, pool, s)
  | (.ok (.error failure), pool, s) => (.ok (shownFailure failure), pool, s)
  | (.ok (.ok offsets), pool, s) =>
      let text := "offsets=" ++ listed offsets ++ " used=" ++ toString pool.used ++
        " growths=" ++ toString pool.growths
      if (inputs.get? "after_reset").isNone then
        (.ok text, pool, s)
      else
        let (pool, observer) := pool.reset s.observer
        match carveListed inputs "after_reset" pool (s.observe observer) with
        | (.error refusal, pool, s) => (.error refusal, pool, s)
        | (.ok (.error failure), pool, s) => (.ok (shownFailure failure), pool, s)
        | (.ok (.ok offsets), pool, s) =>
            (.ok (text ++ " after_reset=" ++ listed offsets), pool, s)

def runPool (inputs : Json) (s : Session) : Except Refusal String × Session :=
  match Inputs.size inputs "capacity" with
  | .error refusal => (.error refusal, s)
  | .ok capacity =>
      match s.openPool (some capacity) with
      | (.error failure, s) => (.ok (shownFailure failure), s)
      | (.ok pool, s) =>
          let (result, pool, s) := usePool inputs pool s
          (result, s.observe (pool.close s.observer))

def retainAll (id : ObjectId) : Nat → Objects Unit → Observer → Objects Unit × Observer
  | 0, objects, o => (objects, o)
  | count + 1, objects, o =>
      let (objects, o) := objects.retain id o
      retainAll id count objects o

/-- Release an object so many times; the number of the last release that destroyed it, and what
happened. -/
def releaseAll (id : ObjectId) (number : Nat) : Nat → Objects Unit → Observer →
    Option Nat × List (Happening Unit) × Observer
  | 0, _, o => (none, [], o)
  | count + 1, objects, o =>
      let (destroyed, objects, o, happened) := objects.release id o
      let (later, more, o) := releaseAll id (number + 1) count objects o
      (later.or (if destroyed then some number else none), happened ++ more, o)

/-- What is told of an object that was shared among so many more holders. -/
def sharedText (retains : Nat) (destroyedOn : Option Nat) (happened : List (Happening Unit)) :
    String :=
  let runs := happened.countP fun happening => happening matches .destructed ..
  "releases=" ++ toString (retains + 1) ++
    " destroyed_on=" ++ (destroyedOn.map toString).getD "-" ++
    " destructor_runs=" ++ toString runs

/-- Share an object among more holders, let each of them go, and tell when the destructor ran. -/
def runShared (inputs : Json) (s : Session) : Except Refusal String × Session :=
  match Inputs.size inputs "retains" with
  | .error refusal => (.error refusal, s)
  | .ok retains =>
      let objects : Objects Unit := {}
      let (id, objects, o) := objects.create () (some { tag := "" }) [] s.observer
      let (objects, o) := retainAll id retains objects o
      let (destroyedOn, happened, o) := releaseAll id 1 (retains + 1) objects o
      (.ok (sharedText retains destroyedOn happened), s.observe o)

/-- What is told of the cleanups that ran. -/
def registryText (ran : List Cleanup) : String :=
  let order := ran.filterMap fun cleanup =>
    match cleanup with
    | .resource resource => some resource
    | .action _ => none
  "ran=" ++ toString ran.length ++ " order=" ++ listed order

/-- Register resources under their own names and clean them up. -/
def runRegistry (inputs : Json) (s : Session) : Except Refusal String × Session :=
  match Inputs.texts inputs "names" with
  | .error refusal => (.error refusal, s)
  | .ok names =>
      let (registry, o) := names.foldl (fun (registry, o) name =>
          Registry.register registry { name := some name, cleanup := .resource name } o)
        (({} : Registry), s.observer)
      let (ran, _, o) := registry.cleanup o
      (.ok (registryText ran), s.observe o)

end Execution

open Execution in
def Operation.run (operation : Operation) (inputs : Json) (s : Session) :
    Except Refusal String × Session :=
  match operation with
  | resolveIndex => settle s do
      let index ← Inputs.integer inputs "index"
      let length ← Inputs.size inputs "length"
      return (Underlay.resolveIndex index length).map toString
  | resolveSlice => settle s do
      let length ← Inputs.size inputs "length"
      let spec ← sliceSpec inputs
      return (spec.resolve length).map shownSlice
  | progression => settle s do
      let start ← Inputs.integer? inputs "start"
      let step ← Inputs.integer? inputs "step"
      let stop ← Inputs.integer inputs "stop"
      return (Progression.make (start.getD 0) stop (step.getD 1)).map fun p => listed p.values
  | progressionContains => runContains inputs s
  | element => settle s do
      let items ← Inputs.texts inputs "items"
      let index ← Inputs.integer inputs "index"
      return ((sequence items).element index).1
  | lookup => settle s do
      let entries ← Inputs.dict inputs "map"
      let key ← Inputs.text inputs "key"
      return ((entries.mapping Text.quote).lookup key).1
  | membership => settle s do
      let items ← Inputs.texts inputs "items"
      let needle ← Inputs.text inputs "needle"
      let members := (Dict.ofList (items.map fun item => (item, ()))).membership
      return .ok (shownFlag (members.contains needle))
  | search => settle s do
      let items ← Inputs.texts inputs "items"
      let needle ← Inputs.text inputs "needle"
      return .ok (shownFlag ((sequence items).contains (· == ·) needle).1)
  | slice => settle s do
      let items ← Inputs.texts inputs "items"
      let spec ← sliceSpec inputs
      return ((sequence items).slice spec).1.map listed
  | enumerate => settle s do
      let items ← Inputs.texts inputs "items"
      let parts := (sequence items).enumerate.1.map fun (i, item) => toString i ++ ":" ++ item
      return .ok (" ".intercalate parts)
  | equal => settle s do
      let left ← Inputs.texts inputs "left"
      let right ← Inputs.texts inputs "right"
      return .ok (shownFlag ((sequence left).equal (sequence right) (· == ·)).1)
  | scope => runScope inputs s
  | doubleRegistration => runDoubleRegistration s
  | pool => runPool inputs s
  | shared => runShared inputs s
  | registry => runRegistry inputs s
  | render => settle s do
      return .ok (← failureOf inputs).render
  | errno => settle s do
      return .ok (← kindOfErrno inputs).name
  | copy => settle s do
      let capacity ← Inputs.size inputs "dest_size"
      let source ← Inputs.text inputs "src"
      return (Bounded.checkFit capacity source.utf8ByteSize).map fun _ => source

def execute (function : String) (inputs : Json) (s : Session) :
    Except Refusal String × Session :=
  let s := { s with slot := .clear }
  match Operation.ofName? function with
  | none => (.error (.unknownFunction function), s)
  | some operation => operation.run inputs s

end Underlay.Conformance
