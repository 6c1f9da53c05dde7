import Underlay.Machine.Pools
import Underlay.Proofs.Run

/-!
# Runs of pools

Pools are opened, filled, written to, reset and closed in any order, and the system may change its
mind about memory at any time. A command names its pool by number; a command that names no open
pool does nothing, for nobody holds such a pool. A handle comes from an earlier call and from
nowhere else, but it may be shown to any pool, and long after its block was forgotten. Every
command leaves one event, told by what the call answered.
-/

namespace Underlay.Pools

inductive Command where
  | openPool (capacity : Option Nat)
  | alloc (pool size : Nat)
  /-- Carve a block of which only the address is told. -/
  | allocRaw (pool size : Nat)
  | bytes (pool : Nat) (handle : Handle)
  | write (pool : Nat) (handle : Handle) (start : Nat) (bytes : List UInt8)
  | fill (pool : Nat) (handle : Handle) (byte : UInt8)
  | reset (pool : Nat)
  | close (pool : Nat)
  | setSystem (system : System)

inductive Event where
  | opened (pool : Nat)
  | issued (handle : Handle)
  | carved (pool : Nat)
  /-- Bytes were put into a block, from a start inside it on. -/
  | written (handle : Handle) (start : Nat) (bytes : List UInt8)
  | reset (pool : Nat)
  | closed (pool : Nat)
  | refused (failure : Failure)
  /-- Nothing was asked of a pool, or only what a block holds. -/
  | idle
deriving DecidableEq, Repr

def outcome {α : Type} (event : α → Event) : Except Failure α × Machine → Event × Machine
  | (.ok answer, machine) => (event answer, machine)
  | (.error failure, machine) => (.refused failure, machine)

def onOpen (machine : Machine) (pool : Nat) (call : Event × Machine) : Event × Machine :=
  if (machine.pool? pool).isSome then call else (.idle, machine)

/-- A call with a handle, if a call gave it out. -/
def withIssued (run : Run Machine Event) (pool : Nat) (handle : Handle)
    (call : Event × Machine) : Event × Machine :=
  if .issued handle ∈ run.history then onOpen run.state pool call else (.idle, run.state)

def perform (run : Run Machine Event) : Command → Event × Machine
  | .openPool capacity => outcome .opened (run.state.openPool capacity)
  | .alloc pool size => onOpen run.state pool (outcome .issued (run.state.poolAlloc pool size))
  | .allocRaw pool size =>
      onOpen run.state pool (outcome (fun _ => .carved pool) (run.state.poolAlloc pool size))
  | .bytes pool handle =>
      withIssued run pool handle (outcome (fun _ => .idle) (run.state.poolBytes pool handle))
  | .write pool handle start bytes =>
      withIssued run pool handle
        (outcome (fun _ => .written handle start (Pool.fitting handle start bytes))
          (run.state.poolWrite pool handle start bytes))
  | .fill pool handle byte =>
      withIssued run pool handle
        (outcome (fun _ => .written handle 0 (List.replicate handle.length byte))
          (run.state.poolFill pool handle byte))
  | .reset pool => onOpen run.state pool (.reset pool, run.state.resetPool pool)
  | .close pool => onOpen run.state pool (.closed pool, run.state.closePool pool)
  | .setSystem system =>
      (.idle, { run.state with session := { run.state.session with system } })

def run (machine : Machine) (commands : List Command) : Run Machine Event :=
  Run.steps perform { state := machine } commands

/-! What a history tells. -/

/-- Whether a handle was issued, and its pool neither reset nor closed since. -/
def isCurrent (handle : Handle) : List Event → Bool
  | [] => false
  | .issued other :: past => other == handle || isCurrent handle past
  | .reset pool :: past => pool != handle.pool && isCurrent handle past
  | .closed pool :: past => pool != handle.pool && isCurrent handle past
  | _ :: past => isCurrent handle past

/-- What was written to a pool through any handle since it was opened, and zero elsewhere. -/
def written (pool : Nat) : List Event → Memory
  | [] => .filled 0
  | .opened other :: past => if other = pool then .filled 0 else written pool past
  | .written handle start bytes :: past =>
      if handle.pool = pool then
        (written pool past).write (handle.offset + start) bytes.toArray
      else
        written pool past
  | _ :: past => written pool past

/-- What was written through one handle, over what its pool held when the block was carved. -/
def content (handle : Handle) : List Event → Memory
  | [] => .filled 0
  | .issued other :: past =>
      if other = handle then written handle.pool past else content handle past
  | .written other start bytes :: past =>
      if other = handle then
        (content handle past).write (handle.offset + start) bytes.toArray
      else
        content handle past
  | _ :: past => content handle past

/-- Whether an event may change what a handle is promised. -/
def disturbs (handle : Handle) : Event → Bool
  | .reset pool | .closed pool => pool == handle.pool
  | .written other _ _ => other == handle
  | _ => false

end Underlay.Pools
