import Underlay.Proofs.Failures.Operations
import Underlay.Proofs.Run

/-!
# Runs of operations that can fail

Every operation that can fail is called in any order and from any site, on whatever scopes, pools
and blocks there are. Between the calls other things are done that cannot fail, the caller hands
over other bytes, and the slot of the last failure may be overwritten and emptied. Every command
leaves one event: how an operation ended, or what was done to the slot. A run ends at the first
operation that finds no room for what it reserves.
-/

namespace Underlay.Failures

open Machine (systemHeap)

section

variable (ε κ υ : Type)

/-- Operations on sequences of elements `ε` and mappings from keys `κ` to values `υ`. The bytes that
they copy to, move in or fill are those of the scene. -/
inductive Operation where
  | resolveIndex (index : Int) (length : Nat)
  | resolveSlice (spec : SliceSpec) (length : Nat)
  | progression (start stop step : Int)
  | element (s : Sequence ε) (index : Int)
  | lookup (m : Mapping κ υ) (key : κ)
  | slice (s : Sequence ε) (spec : SliceSpec)
  | malloc (heap : HeapId) (size : Nat)
  | calloc (heap : HeapId) (count size : Nat)
  | realloc (heap : HeapId) (old : Option BlockId) (size : Nat)
  | copyText (text : List UInt8)
  | copyTerminated (text : Option (List UInt8))
  | copy (src : List UInt8)
  | move (src dest count : Nat)
  | fill (byte : UInt8) (count : Nat)
  | copyRegion (dest : Bool) (src : Option (List UInt8)) (destSize srcSize : Nat)
      (overlapping : Bool)
  | moveRegion (src dest count destSize : Nat)
  | fillRegion (dest : Bool) (destSize : Nat) (byte : UInt8) (count : Nat)
  | scopeAlloc (scope size : Nat)
  | scopeAllocZeroed (scope count size : Nat)
  | scopeRegister (scope : Nat) (block : Option BlockId)
  | openPool (capacity : Option Nat)
  | poolAlloc (pool size : Nat)
  | poolAllocRaw (pool size : Nat)
  | poolBytes (pool : Nat) (handle : Handle)
  | poolWrite (pool : Nat) (handle : Handle) (start : Nat) (bytes : List UInt8)
  | poolFill (pool : Nat) (handle : Handle) (byte : UInt8)
  | poolAddress (pool : Nat) (handle : Handle)

/-- What cannot fail. -/
inductive Deed where
  | free (heap : HeapId) (block : Option BlockId) (size : Option Nat)
  | openScope (heap : HeapId)
  | closeScope (scope : Nat)
  | resetPool (pool : Nat)
  | closePool (pool : Nat)
  | setSystem (system : System)
  | handOver (bytes : List UInt8)

inductive Command where
  | call (site : Site) (operation : Operation ε κ υ)
  | deed (deed : Deed)
  | setFailure (code : Kind) (message : String) (location : Option Location)
  | clearFailure

end

inductive Event where
  | ended (result : Except Failure Unit)
  | done
  | set (code : Kind) (message : String) (location : Option Location)
  | cleared

variable {ε κ υ : Type}

namespace Operation

/-- The steps of an operation that is called at a site. Of its answer only counts that it is no
failure. -/
def routine (site : Site) : Operation ε κ υ → Routine ε Unit
  | .resolveIndex index length => discard (Routine.resolveIndex site index length)
  | .resolveSlice spec length => discard (Routine.resolveSlice site spec length)
  | .progression start stop step => discard (Routine.progression site start stop step)
  | .element s index => discard (Routine.element site s index)
  | .lookup m key => discard (Routine.lookup site m key)
  | .slice s spec => discard (Routine.slice site s spec)
  | .malloc heap size => discard (Routine.malloc site heap size)
  | .calloc heap count size => discard (Routine.calloc site heap count size)
  | .realloc heap old size => discard (Routine.realloc site heap old size)
  | .copyText text => discard (Routine.copyText site text)
  | .copyTerminated text => discard (Routine.copyTerminated site text)
  | .copy src => Routine.copy site src
  | .move src dest count => Routine.move site src dest count
  | .fill byte count => Routine.fill site byte count
  | .copyRegion dest src destSize srcSize overlapping =>
      Routine.copyRegion site dest src destSize srcSize overlapping
  | .moveRegion src dest count destSize => Routine.moveRegion site src dest count destSize
  | .fillRegion dest destSize byte count => Routine.fillRegion site dest destSize byte count
  | .scopeAlloc scope size => discard (Routine.scopeAlloc site scope size)
  | .scopeAllocZeroed scope count size => discard (Routine.scopeAllocZeroed site scope count size)
  | .scopeRegister scope block => Routine.scopeRegister site scope block
  | .openPool capacity => discard (Routine.openPool site capacity)
  | .poolAlloc pool size => discard (Routine.poolAlloc site pool size)
  | .poolAllocRaw pool size => discard (Routine.poolAllocRaw site pool size)
  | .poolBytes pool handle => discard (Routine.poolBytes site pool handle)
  | .poolWrite pool handle start bytes => Routine.poolWrite site pool handle start bytes
  | .poolFill pool handle byte => Routine.poolFill site pool handle byte
  | .poolAddress pool handle => discard (Routine.poolAddress site pool handle)

/-- The bytes that the program reserves to serve an operation. -/
def room (machine : Machine) : Operation ε κ υ → Nat
  | .slice s spec => s.sliceRoom spec
  | .malloc heap size | .realloc heap _ size => machine.requestRoom heap size
  | .calloc heap count size => machine.arrayRoom heap count size
  | .copyText text => machine.requestRoom systemHeap (text.length + 1)
  | .copyTerminated text =>
      machine.requestRoom systemHeap (text.elim 0 fun text => (Text.terminated text).length + 1)
  | .scopeAlloc scope size =>
      machine.scopeRoom scope fun machine heap => machine.requestRoom heap size
  | .scopeAllocZeroed scope count size =>
      machine.scopeRoom scope fun machine heap => machine.arrayRoom heap count size
  | _ => 0

end Operation

def Deed.act (scene : Scene ε) : Deed → Scene ε
  | .free heap block size => scene.withMachine (scene.machine.free heap block size)
  | .openScope heap => scene.withMachine (scene.machine.openScope heap).2
  | .closeScope scope => scene.withMachine (scene.machine.closeScope scope)
  | .resetPool pool => scene.withMachine (scene.machine.resetPool pool)
  | .closePool pool => scene.withMachine (scene.machine.closePool pool)
  | .setSystem system =>
      scene.withMachine
        { scene.machine with session := { scene.machine.session with system } }
  | .handOver bytes => { scene with bytes }

def Command.room (machine : Machine) : Command ε κ υ → Nat
  | .call _ operation => operation.room machine
  | _ => 0

/-- The event of an operation that comes to its end. -/
def ended : Course (Except Failure Unit × Scene ε) → Course (Event × Scene ε)
  | .reached (result, after) => .reached (.ended result, after)
  | .aborted => .aborted

def perform (scene : Scene ε) : Command ε κ υ → Course (Event × Scene ε)
  | .call site operation => ended ((operation.routine site).run scene)
  | .deed deed => .reached (.done, deed.act scene)
  | .setFailure code message location =>
      .reached (.set code message location,
        scene.withMachine (scene.machine.setSlot (.set code message location)))
  | .clearFailure => .reached (.cleared, scene.withMachine (scene.machine.setSlot .clear))

def run (ran : Run (Scene ε) Event) : List (Command ε κ υ) → Course (Run (Scene ε) Event)
  | [] => .reached ran
  | command :: commands =>
      match perform ran.state command with
      | .reached (event, state) => run { state, history := event :: ran.history } commands
      | .aborted => .aborted

/-! What a history tells. -/

/-- What a history leaves in a slot: the last failure or what was set behind it, unless the slot
was emptied since. -/
def pending (slot : Slot) : List Event → Slot
  | [] => slot
  | .ended (.ok _) :: past | .done :: past => pending slot past
  | .ended (.error failure) :: _ => .ofFailure failure
  | .set code message location :: _ => .set code message location
  | .cleared :: _ => .clear

/-- The failures of a history, the newest first. -/
def failures : List Event → List Failure
  | [] => []
  | .ended (.error failure) :: past => failure :: failures past
  | _ :: past => failures past

/-- What every command preserves holds wherever a run comes. -/
theorem run_induction (Invariant : Run (Scene ε) Event → Prop)
    (preserved : ∀ (ran : Run (Scene ε) Event) (command : Command ε κ υ) event state,
      Invariant ran → perform ran.state command = .reached (event, state) →
        Invariant { state, history := event :: ran.history })
    {start ran : Run (Scene ε) Event} (holds : Invariant start) (commands : List (Command ε κ υ))
    (reached : run start commands = .reached ran) : Invariant ran := by
  induction commands generalizing start with
  | nil =>
      obtain rfl := Course.reached.inj reached
      exact holds
  | cons command commands inductionHypothesis =>
      cases performed : perform start.state command with
      | aborted => simp [run, performed] at reached
      | reached step =>
          simp only [run, performed] at reached
          exact inductionHypothesis (preserved start command step.1 step.2 holds performed) reached

end Underlay.Failures
