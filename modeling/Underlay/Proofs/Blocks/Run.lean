import Underlay.Machine.Scopes
import Underlay.Proofs.Run

/-!
# Runs of heaps and scopes

Blocks are asked for, resized and released on any heap, texts are copied to the system heap, scopes
over any heap are opened, filled and closed, blocks are written to, and the system may change its
mind about memory. Every command leaves one event. A request that is turned down before it reaches
a heap is none; one that reaches a heap is granted or refused there.

In an orderly run a block is resized, released or registered only while it is there and no scope
owns it; a command that would do otherwise does nothing.
-/

namespace Underlay.Blocks

open Machine (systemHeap)

inductive Command where
  | malloc (heap : HeapId) (size : Nat)
  | calloc (heap : HeapId) (count size : Nat)
  | realloc (heap : HeapId) (block : Option BlockId) (size : Nat)
  | free (heap : HeapId) (block : Option BlockId) (size : Option Nat)
  | copyText (text : List UInt8)
  | copyTerminated (text : Option (List UInt8))
  /-- Ask a heap past all checks. -/
  | allocateRaw (heap : HeapId) (size : Nat) (zeroed : Bool)
  | write (block : BlockId) (change : Memory → Memory)
  | openScope (heap : HeapId)
  | scopeAlloc (scope size : Nat)
  | scopeAllocZeroed (scope count size : Nat)
  | scopeRegister (scope : Nat) (block : Option BlockId)
  | closeScope (scope : Nat)
  /-- Track at `trace`, or else at `stats`. -/
  | keepRecords (on : Bool)
  | setSystem (system : System)

inductive Event where
  /-- A heap granted a block, to a scope if it has an owner. -/
  | granted (heap : HeapId) (owner : Option Nat) (block : BlockId)
  | resized (heap : HeapId) (old new : BlockId)
  /-- A heap granted a block past all checks, and nobody counts it. -/
  | taken (heap : HeapId) (block : BlockId)
  | refused (heap : HeapId)
  | released (block : BlockId)
  | registered (scope : Nat) (block : BlockId)
  | closed (scope : Nat)
  | idle
deriving DecidableEq, Repr

/-! What a command does. -/

/-- The event of a request for a block. -/
def asked (heap : HeapId) (owner : Option Nat) (reaches : Bool) :
    Except Failure BlockId × Machine → Event × Machine
  | (.ok block, machine) => (.granted heap owner block, machine)
  | (.error _, machine) => (if reaches then .refused heap else .idle, machine)

/-- The event of a request to resize a block. Without a block it asks for one, and size zero
releases the block instead. -/
def resized (heap : HeapId) (old : Option BlockId) (size : Nat) :
    Except Failure (Option BlockId) × Machine → Event × Machine
  | (.ok (some new), machine) =>
      ((old.map fun old => Event.resized heap old new).getD (.granted heap none new), machine)
  | (.ok none, machine) => ((old.map Event.released).getD .idle, machine)
  | (.error _, machine) => (if 0 < size then .refused heap else .idle, machine)

def registered (scope : Nat) (block : Option BlockId) :
    Except Failure Unit × Machine → Event × Machine
  | (.ok _, machine) => ((block.map (Event.registered scope)).getD .idle, machine)
  | (.error _, machine) => (.idle, machine)

/-- A call on a heap, which has to be there. -/
def onHeap (machine : Machine) (heap : HeapId) (call : Event × Machine) : Event × Machine :=
  if heap < machine.heaps.size then call else (.idle, machine)

/-- A call on a scope, which has to be open over a heap that is there. -/
def onScope (machine : Machine) (scope : Nat) (call : HeapId → Event × Machine) : Event × Machine :=
  match machine.scope? scope with
  | some s => onHeap machine s.heap (call s.heap)
  | none => (.idle, machine)

/-- Whether a number of bytes may be asked for at all. -/
def askable (size : Nat) : Bool :=
  decide (0 < size ∧ size < Word.limit)

/-- Give the system heap another system behind it. -/
def setSystem (system : System) (machine : Machine) : Machine :=
  let heap := machine.heap systemHeap
  match heap.source with
  | .system _ => machine.setHeap systemHeap { heap with source := .system system }
  | .recording _ => machine

def perform (machine : Machine) : Command → Event × Machine
  | .malloc heap size =>
      onHeap machine heap (asked heap none (decide (0 < size)) (machine.malloc heap size))
  | .calloc heap count size =>
      onHeap machine heap (asked heap none (askable (count * size)) (machine.calloc heap count size))
  | .realloc heap block size =>
      onHeap machine heap (resized heap block size (machine.realloc heap block size))
  | .free heap block size =>
      onHeap machine heap
        ((block.map Event.released).getD .idle, machine.free heap block size)
  | .copyText text =>
      onHeap machine systemHeap (asked systemHeap none true (machine.copyText text))
  | .copyTerminated text =>
      onHeap machine systemHeap (asked systemHeap none text.isSome (machine.copyTerminated text))
  | .allocateRaw heap size zeroed =>
      let (block, after) := machine.allocateRaw heap size zeroed
      onHeap machine heap ((block.map (Event.taken heap)).getD (.refused heap), after)
  | .write block change => (.idle, machine.modifyBlock block change)
  | .openScope heap => (.idle, (machine.openScope heap).2)
  | .scopeAlloc scope size =>
      onScope machine scope fun heap =>
        asked heap (some scope) (decide (0 < size)) (machine.scopeAlloc scope size)
  | .scopeAllocZeroed scope count size =>
      onScope machine scope fun heap =>
        asked heap (some scope) (askable (count * size)) (machine.scopeAllocZeroed scope count size)
  | .scopeRegister scope block =>
      onScope machine scope fun _ => registered scope block (machine.scopeRegister scope block)
  | .closeScope scope => (.closed scope, machine.closeScope scope)
  | .keepRecords on =>
      (.idle, { machine with session := machine.session.setTracking (if on then .trace else .stats) })
  | .setSystem system => (.idle, setSystem system machine)

def run (machine : Machine) (commands : List Command) : Run Machine Event :=
  Run.steps (fun run => perform run.state) { state := machine } commands

/-- The bytes that the program reserves to serve a command. -/
def Command.room (machine : Machine) : Command → Nat
  | .malloc heap size | .realloc heap _ size => machine.requestRoom heap size
  | .calloc heap count size => machine.arrayRoom heap count size
  | .copyText text => machine.requestRoom systemHeap (text.length + 1)
  | .copyTerminated text =>
      (text.map fun text =>
        machine.requestRoom systemHeap ((Text.terminated text).length + 1)).getD 0
  | .allocateRaw heap size _ => (machine.heap heap).source.reserved size
  | .scopeAlloc scope size =>
      machine.scopeRoom scope fun machine heap => machine.requestRoom heap size
  | .scopeAllocZeroed scope count size =>
      machine.scopeRoom scope fun machine heap => machine.arrayRoom heap count size
  | _ => 0

/-- Whether there is room for what the program reserves along the run of the commands. It ends at
the first command for which there is none. -/
def hasRoom (machine : Machine) : List Command → Bool
  | [] => true
  | command :: commands =>
      machine.session.system.reserves (command.room machine) &&
        hasRoom (perform machine command).2 commands

/-! What a history tells. -/

/-- What a heap answered, if it was asked: a block, or none. -/
def Event.answer (heap : HeapId) : Event → Option (Option BlockId)
  | .granted asked _ block | .resized asked _ block | .taken asked block =>
      if asked = heap then some (some block) else none
  | .refused asked => if asked = heap then some none else none
  | .released _ | .registered _ _ | .closed _ | .idle => none

/-- Whether the requests that reached a heap were granted, in their order. -/
def outcomes (heap : HeapId) (history : List Event) : List Bool :=
  ((history.filterMap (Event.answer heap)).map Option.isSome).reverse

/-- How many blocks were granted, those in the place of resized ones apart. -/
def grants : List Event → Nat
  | [] => 0
  | .granted _ _ _ :: past => grants past + 1
  | _ :: past => grants past

/-- The blocks that checked requests were granted and that are there, each with the scope that owns
it, if one does. Resizing a block puts another in its place. -/
def live : List Event → List (BlockId × Option Nat)
  | [] => []
  | .granted _ owner block :: past => (block, owner) :: live past
  | .resized _ old new :: past => (new, none) :: (live past).erase (old, none)
  | .released block :: past => (live past).erase (block, none)
  | .registered scope block :: past => (block, some scope) :: (live past).erase (block, none)
  | .closed scope :: past => (live past).filter fun entry => entry.2 != some scope
  | .taken _ _ :: past | .refused _ :: past | .idle :: past => live past

/-! Orderly runs. -/

/-- The block that a command resizes, releases or registers. -/
def Command.block? : Command → Option BlockId
  | .realloc _ block _ | .free _ block _ | .scopeRegister _ block => block
  | _ => none

/-- Whether a command keeps the order: the block that it names is there and not owned. -/
def permits (history : List Event) (command : Command) : Bool :=
  command.block?.all fun block => decide ((block, none) ∈ live history)

def performOrderly (run : Run Machine Event) (command : Command) : Event × Machine :=
  if permits run.history command then perform run.state command else (.idle, run.state)

def orderly (machine : Machine) (commands : List Command) : Run Machine Event :=
  Run.steps performOrderly { state := machine } commands

end Underlay.Blocks
