import Underlay.Boundary.Containers
import Underlay.Boundary.Handles
import Underlay.Boundary.Memory
import Underlay.Proofs.Observation.Blindness

/-!
# Operations and their answers

All that a program can ask for, in three families: the core, which works on its arguments and at
most leaves a failure in the slot, the operations on memory with what can be looked up of it, and
the entry points for generated code. The type of an operation is the type of its answer. A few
operations read what the observer has noted; all others are blind.
-/

namespace Underlay.Observation

section

variable (γ ε κ υ : Type)

/-- Operations of the core on sequences of elements `ε` and mappings from keys `κ` to values `υ`.
Those on containers answer with the calls that they made as well. -/
inductive Core : Type → Type where
  | resolveIndex (index : Int) (length : Nat) : Core (Except Failure Nat)
  | resolveSlice (spec : SliceSpec) (length : Nat) : Core (Except Failure Slice)
  | indices (slice : Slice) : Core (List Nat)
  | progression (start stop step : Int) : Core (Except Failure Progression)
  | advance (p : Progression) (count : Nat) : Core (List (Option Int) × Progression)
  | progressionContains (p : Progression) (value : Int) : Core Bool
  | element (s : Sequence ε) (index : Int) : Core (Except Failure ε × List (Sequence.Call ε))
  | slice (s : Sequence ε) (spec : SliceSpec) :
      Core (Except Failure (List ε) × List (Sequence.Call ε))
  | sequenceContains (s : Sequence ε) (equal : ε → ε → Bool) (target : ε) :
      Core (Bool × List (Sequence.Call ε))
  | enumerate (s : Sequence ε) : Core (List (Nat × ε) × List (Sequence.Call ε))
  | equal (a b : Sequence ε) (equal : ε → ε → Bool) : Core (Bool × List (Sequence.Call ε))
  | render (s : Sequence ε) (element : ε → String) : Core (String × List (Sequence.Call ε))
  | lookup (m : Mapping κ υ) (key : κ) : Core (Except Failure υ × List (Mapping.Call κ υ))
  | contains (m : Mapping κ υ) (key : κ) : Core Bool
  | items (m : Mapping κ υ) : Core (List (κ × υ) × List (Mapping.Call κ υ))
  | mapEqual (a b : Mapping κ υ) (equal : υ → υ → Bool) : Core (Bool × List (Mapping.Call κ υ))
  | mapRender (m : Mapping κ υ) (key : κ → String) (value : υ → String) : Core String
  | setFailure (code : Kind) (message : String) (location : Option Location) : Core Unit
  | recordFailure (failure : Failure) : Core Unit
  | clearFailure : Core Unit
  | lastFailure : Core (Option Failure)

/-- Operations on memory, and what can be looked up of it: heaps with their blocks, budgets and
releases, scopes, pools with their buffers, objects and registries. -/
inductive Membrane : Type → Type where
  | addRecorder (budget : Option Nat) : Membrane HeapId
  | allocateRaw (heap : HeapId) (size : Nat) (zeroed : Bool) : Membrane (Option BlockId)
  | malloc (heap : HeapId) (size : Nat) : Membrane (Except Failure BlockId)
  | calloc (heap : HeapId) (count size : Nat) : Membrane (Except Failure BlockId)
  | realloc (heap : HeapId) (old : Option BlockId) (size : Nat) :
      Membrane (Except Failure (Option BlockId))
  | free (heap : HeapId) (block : Option BlockId) (size : Option Nat) : Membrane Unit
  | copyText (text : List UInt8) : Membrane (Except Failure BlockId)
  | copyTerminated (text : Option (List UInt8)) : Membrane (Except Failure BlockId)
  | modifyBlock (block : BlockId) (change : Memory → Memory) : Membrane Unit
  | readBlock (block : BlockId) (offset count : Nat) : Membrane (List UInt8)
  | heap (heap : HeapId) : Membrane Heap
  | copy (dest src : List UInt8) : Membrane (Except Failure (List UInt8))
  | move (buffer : List UInt8) (src dest count : Nat) : Membrane (Except Failure (List UInt8))
  | fill (dest : List UInt8) (byte : UInt8) (count : Nat) : Membrane (Except Failure (List UInt8))
  | copyRegion (dest src : Option (List UInt8)) (destSize srcSize : Nat) (overlapping : Bool) :
      Membrane (Except Failure (List UInt8))
  | moveRegion (buffer : List UInt8) (src dest count destSize : Nat) :
      Membrane (Except Failure (List UInt8))
  | fillRegion (dest : Option (List UInt8)) (destSize : Nat) (byte : UInt8) (count : Nat) :
      Membrane (Except Failure (List UInt8))
  | openScope (heap : HeapId) : Membrane Nat
  | scopeAlloc (scope size : Nat) : Membrane (Except Failure BlockId)
  | scopeAllocZeroed (scope count size : Nat) : Membrane (Except Failure BlockId)
  | scopeRegister (scope : Nat) (block : Option BlockId) : Membrane (Except Failure Unit)
  | scope (scope : Nat) : Membrane (Option OpenScope)
  | closeScope (scope : Nat) : Membrane Unit
  | openPool (capacity : Option Nat) : Membrane (Except Failure Nat)
  | poolAlloc (pool size : Nat) : Membrane (Except Failure Handle)
  | poolBytes (pool : Nat) (handle : Handle) : Membrane (Except Failure (List UInt8))
  | poolWrite (pool : Nat) (handle : Handle) (start : Nat) (bytes : List UInt8) :
      Membrane (Except Failure Unit)
  | poolFill (pool : Nat) (handle : Handle) (byte : UInt8) : Membrane (Except Failure Unit)
  | poolAddress (pool : Nat) (handle : Handle) : Membrane (Except Failure Nat)
  | pool (pool : Nat) : Membrane (Option Pool)
  | resetPool (pool : Nat) : Membrane Unit
  | closePool (pool : Nat) : Membrane Unit
  | share (payload : String) (destructor : Option (Destructor String))
      (children : List ObjectId) : Membrane ObjectId
  | retain (object : ObjectId) : Membrane Unit
  | release (object : ObjectId) : Membrane (Bool × List (Happening String))
  | object (object : ObjectId) : Membrane (Option (Object String))
  | addRegistry : Membrane RegistryId
  | register (registry : RegistryId) (entry : Registry.Entry) : Membrane Unit
  | cleanUp (registry : RegistryId) : Membrane (List Cleanup)
  | registry (registry : RegistryId) : Membrane Registry
  | setTracking (tracking : Tracking) : Membrane Unit
  | setPoolCapacity (capacity : Nat) : Membrane Unit
  | poolCapacity : Membrane Nat
  | setSystem (system : System) : Membrane Unit
  | resetCounters : Membrane Unit
  | tracking : Membrane Tracking
  | counters : Membrane Counters
  | hasLeaks : Membrane Bool
  | records : Membrane (List Lifecycle.Record)
  | drainLog : Membrane (List Lifecycle.Record)

/-- Entry points for generated code, on containers of the type `γ`. -/
inductive Entry : Type → Type where
  | normalizeIndex (index : Int) (length : Nat) : Entry Int
  | normalizeSlice (slice : Option Boundary.WrittenSlice) (length : Nat) (out : Option Slice) :
      Entry (Nat × Option Slice)
  | progressionLength (start stop step : Int) : Entry Int
  | progressionContains (start stop step value : Int) : Entry Int
  | slicePosition (slice : Option Slice) (place : Nat) : Entry Int
  | length (container : Option γ) (size : Option (γ → Nat)) : Entry Nat
  | truthy (container : Option γ) (size : Option (γ → Nat)) : Entry Int
  | element (table : Option (Boundary.SequenceTable γ ε)) (container : Option γ) (index : Int) :
      Entry (Option ε × List (Sequence.Call ε))
  | lookup (table : Option (Boundary.MapTable γ κ υ)) (container : Option γ) (key : Option κ) :
      Entry (Option υ × List (Mapping.Call κ υ))
  | contains (table : Option (Boundary.MapTable γ κ υ)) (container : Option γ) (key : Option κ) :
      Entry (Int × List (Mapping.Call κ υ))
  | sequenceContains (table : Option (Boundary.SequenceTable γ ε)) (container : Option γ)
      (target : Option ε) (equal : Option (ε → ε → Int)) : Entry (Int × List (Sequence.Call ε))
  | enumerate (table : Option (Boundary.SequenceTable γ ε)) (container : Option γ)
      (visitor : Bool) : Entry (Int × List (Sequence.Call ε))
  | items (table : Option (Boundary.MapTable γ κ υ)) (container : Option γ) (visitor : Bool) :
      Entry (Nat × List (Mapping.Call κ υ))
  | equal (table : Option (Boundary.SequenceTable γ ε)) (a b : Option γ)
      (equal : Option (ε → ε → Int)) : Entry (Int × List (Sequence.Call ε))
  | mapEqual (table : Option (Boundary.MapTable γ κ υ)) (a b : Option γ)
      (equal : Option (υ → υ → Int)) : Entry (Int × List (Mapping.Call κ υ))
  | writeSlice (table : Option (Boundary.SequenceTable γ ε)) (container : Option γ)
      (spec : Option Boundary.WrittenSlice) (out : Option (List (Option ε))) (capacity : Nat) :
      Entry (Int × Option (List (Option ε)))
  | malloc (size : Nat) : Entry (Option BlockId)
  | calloc (count size : Nat) : Entry (Option BlockId)
  | realloc (block : Option BlockId) (size : Nat) : Entry (Option BlockId)
  | free (block : Option BlockId) : Entry Unit
  | copy (dest : Option Boundary.Place) (destSize : Nat) (src : Option Boundary.Place)
      (srcSize : Nat) (overlapping : Bool) : Entry Nat
  | fill (dest : Option BlockId) (value : Int) (count destSize : Nat) : Entry Nat
  | copyText (text : Option (List UInt8)) : Entry (Option BlockId)
  | setTracking (level : Int) : Entry Unit
  | counters (out : Bool) : Entry (Nat × Counters)
  | resetCounters : Entry Unit
  | hasLeaks : Entry Int
  | newScope : Entry Nat
  | scopeAlloc (scope : Option Nat) (size : Nat) : Entry (Option BlockId)
  | scopeAllocZeroed (scope : Option Nat) (count size : Nat) : Entry (Option BlockId)
  | scopeRegister (scope : Option Nat) (block : Option BlockId) : Entry Nat
  | scopeSize (scope : Option Nat) : Entry Nat
  | freeScope (scope : Option Nat) : Entry Unit
  | newPool (capacity : Nat) : Entry (Option Nat)
  | poolAlloc (pool : Option Nat) (size : Nat) : Entry (Option Nat)
  | resetPool (pool : Option Nat) : Entry Unit
  | poolUsed (pool : Option Nat) : Entry Nat
  | poolCapacity (pool : Option Nat) : Entry Nat
  | freePool (pool : Option Nat) : Entry Unit
  | newObject (size : Nat) (destructor : Option (Destructor Block)) : Entry (Option ObjectId)
  | retain (object : Option ObjectId) : Entry (Option ObjectId)
  | release (object : Option ObjectId) : Entry (Bool × List (Happening Block))
  | holders (object : Option ObjectId) : Entry Nat
  | payload (object : Option ObjectId) (written : List UInt8) : Entry (Option (List UInt8))
  | newRegistry : Entry RegistryId
  | register (registry : Option RegistryId) (resource : Option Nat) (cleanup : Bool)
      (name : Option (List UInt8)) : Entry Nat
  | cleanUp (registry : Option RegistryId) : Entry (List Cleanup)
  | registrySize (registry : Option RegistryId) : Entry Nat
  | setFailure (code : Int) (message : Option (List UInt8)) (location : Option Location) :
      Entry Unit
  | code : Entry Nat
  | message : Entry String
  | hasFailure : Entry Nat
  /-- What is printed of the slot. -/
  | print : Entry (Option String)

end

variable {γ ε κ υ α : Type}

def Core.perform (machine : Machine) : Core ε κ υ α → α × Machine
  | .resolveIndex index length => machine.attempt (Underlay.resolveIndex index length)
  | .resolveSlice spec length => machine.attempt (spec.resolve length)
  | .indices s => (s.indices, machine)
  | .progression start stop step => machine.attempt (Progression.make start stop step)
  | .advance p count => (p.advance count, machine)
  | .progressionContains p value => (p.contains value, machine)
  | .element s index => (s.element index, machine.note (s.element index).1)
  | .slice s spec => (s.slice spec, machine.note (s.slice spec).1)
  | .sequenceContains s same target => (s.contains same target, machine)
  | .enumerate s => (s.enumerate, machine)
  | .equal a b same => (a.equal b same, machine)
  | .render s text => (s.render text, machine)
  | .lookup m key => (m.lookup key, machine.note (m.lookup key).1)
  | .contains m key => (m.contains key, machine)
  | .items m => (m.items, machine)
  | .mapEqual a b same => (a.equal b same, machine)
  | .mapRender m key value => (m.render key value, machine)
  | .setFailure code message location => ((), machine.setSlot (.set code message location))
  | .recordFailure failure => ((), machine.note (.error failure : Except Failure Unit))
  | .clearFailure => ((), machine.setSlot .clear)
  | .lastFailure => (machine.slot.failure?, machine)

def Membrane.perform (machine : Machine) : Membrane α → α × Machine
  | .addRecorder budget => machine.addRecorder budget
  | .allocateRaw id size zeroed => machine.allocateRaw id size zeroed
  | .malloc id size => machine.malloc id size
  | .calloc id count size => machine.calloc id count size
  | .realloc id old size => machine.realloc id old size
  | .free id block size => ((), machine.free id block size)
  | .copyText text => machine.copyText text
  | .copyTerminated text => machine.copyTerminated text
  | .modifyBlock block change => ((), machine.modifyBlock block change)
  | .readBlock block offset count => (machine.readBlock block offset count, machine)
  | .heap id => (machine.heap id, machine)
  | .copy dest src => machine.attempt (Bounded.copy dest src)
  | .move buffer src dest count => machine.attempt (Bounded.move buffer src dest count)
  | .fill dest byte count => machine.attempt (Bounded.fill dest byte count)
  | .copyRegion dest src destSize srcSize overlapping =>
      machine.attempt (Bounded.copyRegion dest src destSize srcSize overlapping)
  | .moveRegion buffer src dest count destSize =>
      machine.attempt (Bounded.moveRegion buffer src dest count destSize)
  | .fillRegion dest destSize byte count =>
      machine.attempt (Bounded.fillRegion dest destSize byte count)
  | .openScope id => machine.openScope id
  | .scopeAlloc id size => machine.scopeAlloc id size
  | .scopeAllocZeroed id count size => machine.scopeAllocZeroed id count size
  | .scopeRegister id block => machine.scopeRegister id block
  | .scope id => (machine.scope? id, machine)
  | .closeScope id => ((), machine.closeScope id)
  | .openPool capacity => machine.openPool capacity
  | .poolAlloc id size => machine.poolAlloc id size
  | .poolBytes id handle => machine.poolBytes id handle
  | .poolWrite id handle start bytes => machine.poolWrite id handle start bytes
  | .poolFill id handle byte => machine.poolFill id handle byte
  | .poolAddress id handle => machine.poolAddress id handle
  | .pool id => (machine.pool? id, machine)
  | .resetPool id => ((), machine.resetPool id)
  | .closePool id => ((), machine.closePool id)
  | .share payload destructor children => machine.share payload destructor children
  | .retain id => ((), machine.retain id)
  | .release id =>
      let (destroyed, happened, after) := machine.release id
      ((destroyed, happened), after)
  | .object id => (machine.objects.get? id, machine)
  | .addRegistry => machine.addRegistry
  | .register id entry => ((), machine.register id entry)
  | .cleanUp id => machine.cleanUp id
  | .registry id => (machine.registry id, machine)
  | .setTracking level => ((), { machine with session := machine.session.setTracking level })
  | .setPoolCapacity capacity =>
      ((), { machine with session := machine.session.setPoolCapacity capacity })
  | .poolCapacity => (machine.session.poolCapacity, machine)
  | .setSystem system => ((), { machine with session := { machine.session with system } })
  | .resetCounters => ((), machine.resetCounters)
  | .tracking => (machine.observer.tracking, machine)
  | .counters => (machine.observer.counters, machine)
  | .hasLeaks => (machine.observer.counters.hasLeaks, machine)
  | .records => (machine.observer.log.toList, machine)
  | .drainLog => machine.drainLog

def Entry.perform (machine : Machine) : Entry γ ε κ υ α → α × Machine
  | .normalizeIndex index n => Boundary.normalizeIndex index n machine
  | .normalizeSlice slice n out =>
      let (status, out, after) := Boundary.normalizeSlice slice n out machine
      ((status, out), after)
  | .progressionLength start stop step => Boundary.progressionLength start stop step machine
  | .progressionContains start stop step value =>
      Boundary.progressionContains start stop step value machine
  | .slicePosition slice place => Boundary.slicePosition slice place machine
  | .length container size => Boundary.length container size machine
  | .truthy container size => Boundary.truthy container size machine
  | .element table container index =>
      let (result, calls) := Boundary.element table container index
      let (answer, after) := Boundary.answerPointer result machine
      ((answer, calls), after)
  | .lookup table container key =>
      let (result, calls) := Boundary.lookup table container key
      let (answer, after) := Boundary.answerPointer result machine
      ((answer, calls), after)
  | .contains table container key =>
      let (result, calls) := Boundary.contains table container key
      let (answer, after) := Boundary.answer 0 result machine
      ((answer, calls), after)
  | .sequenceContains table container target same =>
      let (result, calls) := Boundary.sequenceContains table container target same
      let (answer, after) := Boundary.answer 0 result machine
      ((answer, calls), after)
  | .enumerate table container visitor =>
      let (result, calls) := Boundary.enumerate table container visitor
      let (answer, after) := Boundary.answerCount result machine
      ((answer, calls), after)
  | .items table container visitor =>
      let (result, calls) := Boundary.items table container visitor
      let (status, after) := Boundary.answerStatus result machine
      ((status, calls), after)
  | .equal table a b same =>
      let (result, calls) := Boundary.equal table a b same
      let (answer, after) := Boundary.answer 0 result machine
      ((answer, calls), after)
  | .mapEqual table a b same =>
      let (result, calls) := Boundary.mapEqual table a b same
      let (answer, after) := Boundary.answer 0 result machine
      ((answer, calls), after)
  | .writeSlice table container spec out capacity =>
      let (count, out, after) := Boundary.writeSlice table container spec out capacity machine
      ((count, out), after)
  | .malloc size => Boundary.malloc size machine
  | .calloc count size => Boundary.calloc count size machine
  | .realloc block size => Boundary.realloc block size machine
  | .free block => ((), Boundary.free block machine)
  | .copy dest destSize src srcSize overlapping =>
      Boundary.copy dest destSize src srcSize overlapping machine
  | .fill dest value count destSize => Boundary.fill dest value count destSize machine
  | .copyText text => Boundary.copyText text machine
  | .setTracking level => ((), Boundary.setTracking level machine)
  | .counters out =>
      let (status, seen, after) := Boundary.counters out machine
      ((status, seen), after)
  | .resetCounters => ((), machine.resetCounters)
  | .hasLeaks => (Boundary.flag machine.observer.counters.hasLeaks, machine)
  | .newScope => Boundary.newScope machine
  | .scopeAlloc id size => Boundary.scopeAlloc id size machine
  | .scopeAllocZeroed id count size => Boundary.scopeAllocZeroed id count size machine
  | .scopeRegister id block => Boundary.scopeRegister id block machine
  | .scopeSize id => (Boundary.scopeSize id machine, machine)
  | .freeScope id => ((), Boundary.freeScope id machine)
  | .newPool capacity => Boundary.newPool capacity machine
  | .poolAlloc id size => Boundary.poolAlloc id size machine
  | .resetPool id => ((), Boundary.resetPool id machine)
  | .poolUsed id => (Boundary.poolUsed id machine, machine)
  | .poolCapacity id => (Boundary.poolCapacity id machine, machine)
  | .freePool id => ((), Boundary.freePool id machine)
  | .newObject size destructor => Boundary.newObject size destructor machine
  | .retain id => Boundary.retain id machine
  | .release id =>
      let (destroyed, happened, after) := Boundary.release id machine
      ((destroyed, happened), after)
  | .holders id => (Boundary.holders id machine, machine)
  | .payload id written => Boundary.payload id written machine
  | .newRegistry => machine.addRegistry
  | .register id resource cleanup name => Boundary.register id resource cleanup name machine
  | .cleanUp id => Boundary.cleanUp id machine
  | .registrySize id => (Boundary.registrySize id machine, machine)
  | .setFailure number text location =>
      ((), Boundary.setFailure number text location machine)
  | .code => (machine.slot.code.code, machine)
  | .message => (Boundary.message machine, machine)
  | .hasFailure => (Boundary.hasFailure machine, machine)
  | .print => (machine.slot.render?, machine)

/-- Whether the answer is about what the observer has noted, or about its level. -/
def Membrane.reads : Membrane α → Bool
  | .tracking | .counters | .hasLeaks | .records | .drainLog => true
  | _ => false

/-- The same for an entry point; without a slot for them no counters are read. -/
def Entry.reads : Entry γ ε κ υ α → Bool
  | .counters out => out
  | .hasLeaks => true
  | _ => false

end Underlay.Observation
