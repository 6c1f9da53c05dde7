import Underlay.Boundary.Containers
import Underlay.Boundary.Memory
import Underlay.Proofs.Run

/-!
# Runs of blocks of the system heap

Generated code asks for blocks, resizes them and releases them in any order, and the system may
change its mind about memory at any time. Memory is counted all the time, with records or without
them. What a run has released it has given up, and does not name again: a command that does so does
nothing. Every command leaves one event.
-/

namespace Underlay.Leaks

inductive Command where
  | malloc (size : Nat)
  | calloc (count size : Nat)
  | copyText (text : Option (List UInt8))
  | realloc (block : Option BlockId) (size : Nat)
  | free (block : Option BlockId)
  | track (level : Int)
  | setSource (source : Source)

inductive Event where
  | obtained (block : BlockId) (bytes : Nat)
  | resized (old new : BlockId)
  | released (block : BlockId)
  | idle
deriving DecidableEq, Repr

/-! What a history tells. -/

/-- The blocks that were asked for and granted, the newest first. -/
def obtained : List Event → List BlockId
  | [] => []
  | .obtained block _ :: past => block :: obtained past
  | _ :: past => obtained past

/-- The bytes of the blocks that were asked for and granted. -/
def obtainedBytes : List Event → Nat
  | [] => 0
  | .obtained _ bytes :: past => obtainedBytes past + bytes
  | _ :: past => obtainedBytes past

def released : List Event → List BlockId
  | [] => []
  | .resized old _ :: past => old :: released past
  | .released block :: past => block :: released past
  | _ :: past => released past

/-- The blocks of the run that are still there. Resizing one of them puts another in its place. -/
def live : List Event → List BlockId
  | [] => []
  | .obtained block _ :: past => block :: live past
  | .resized old new :: past => if old ∈ live past then new :: (live past).erase old else live past
  | .released block :: past => (live past).erase block
  | .idle :: past => live past

/-! What a command does. -/

/-- The event of a call that asks for a block. -/
def grant (bytes : Nat) : Option BlockId × Machine → Event × Machine
  | (some block, machine) => (.obtained block bytes, machine)
  | (none, machine) => (.idle, machine)

/-- The event of a call that resizes a block; size zero releases it. -/
def resize (old : BlockId) (size : Nat) : Option BlockId × Machine → Event × Machine
  | (some new, machine) => (.resized old new, machine)
  | (none, machine) => (if size = 0 then .released old else .idle, machine)

def onHeld (run : Run Machine Event) (block : BlockId) (call : Event × Machine) : Event × Machine :=
  if block ∈ released run.history then (.idle, run.state) else call

/-- Track at a level at which something is counted. -/
def track (level : Int) (machine : Machine) : Machine :=
  if 0 < level then Boundary.setTracking level machine else machine

def perform (run : Run Machine Event) : Command → Event × Machine
  | .malloc size => grant size (Boundary.malloc size run.state)
  | .calloc count size => grant (count * size) (Boundary.calloc count size run.state)
  | .copyText text =>
      grant ((Text.terminated (text.getD [])).length + 1) (Boundary.copyText text run.state)
  | .realloc none size => grant size (Boundary.realloc none size run.state)
  | .realloc (some old) size =>
      onHeld run old (resize old size (Boundary.realloc (some old) size run.state))
  | .free none => (.idle, Boundary.free none run.state)
  | .free (some block) => onHeld run block (.released block, Boundary.free (some block) run.state)
  | .track level => (.idle, track level run.state)
  | .setSource source =>
      (.idle, run.state.setHeap Machine.systemHeap
        { run.state.heap Machine.systemHeap with source })

def run (machine : Machine) (commands : List Command) : Run Machine Event :=
  Run.steps perform { state := machine } commands

end Underlay.Leaks
