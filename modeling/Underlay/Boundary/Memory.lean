import Underlay.Boundary.Slices
import Underlay.Memory.Bounded
import Underlay.Machine.Heaps

/-!
Entry points for generated code: blocks of the system heap, bounded copies between them, and the
counters. A missing block is a null pointer.
-/

namespace Underlay.Boundary

/-- A place inside a block. -/
structure Place where
  block : BlockId
  offset : Nat := 0
deriving DecidableEq, Repr, Inhabited

def malloc (size : Nat) (machine : Machine) : Option BlockId × Machine :=
  let (result, machine) := machine.malloc Machine.systemHeap size
  (result.toOption, machine)

def calloc (count size : Nat) (machine : Machine) : Option BlockId × Machine :=
  let (result, machine) := machine.calloc Machine.systemHeap count size
  (result.toOption, machine)

/-- The resized block; nothing if there was a failure, or if the block was released. -/
def realloc (block : Option BlockId) (size : Nat) (machine : Machine) : Option BlockId × Machine :=
  let (result, machine) := machine.realloc Machine.systemHeap block size
  (result.toOption.join, machine)

def free (block : Option BlockId) (machine : Machine) : Machine :=
  machine.free Machine.systemHeap block none

/-- Copy between places, which may overlap if that is said; the answer is a status. -/
def copy (dest : Option Place) (destSize : Nat) (src : Option Place) (srcSize : Nat)
    (overlapping : Bool) (machine : Machine) : Nat × Machine :=
  let result := Bounded.admitCopy dest.isSome src.isSome destSize srcSize overlapping
  match result, dest, src with
  | .ok _, some dest, some src =>
      let bytes := machine.readBlock src.block src.offset srcSize
      (status result, machine.modifyBlock dest.block fun m =>
        m.write dest.offset bytes.toArray)
  | _, _, _ => answerStatus result machine

/-- Set bytes of a block; of the value only the lowest byte counts. -/
def fill (dest : Option BlockId) (value : Int) (count destSize : Nat) (machine : Machine) :
    Nat × Machine :=
  let result := Bounded.admitFill dest.isSome destSize count
  match result, dest with
  | .ok _, some dest =>
      (status result, machine.modifyBlock dest fun m =>
        m.fill 0 count (UInt8.ofNat (value % 256).toNat))
  | _, _ => answerStatus result machine

/-- A block with a copy of a zero-terminated text. -/
def copyText (text : Option (List UInt8)) (machine : Machine) : Option BlockId × Machine :=
  let (result, machine) := machine.copyTerminated text
  (result.toOption, machine)

/-- The bytes of a copy of a zero-terminated text, which is released behind. -/
def duplicate (text : Option (List UInt8)) (machine : Machine) : Option (List UInt8) × Machine :=
  let (result, machine) := machine.duplicateTerminated text
  (result.toOption, machine)

def setTracking (level : Int) (machine : Machine) : Machine :=
  { machine with session := machine.session.setTracking (.ofNumber level) }

/-- Write the counters into an output slot, which may be missing; the answer is a status. -/
def counters (out : Bool) (machine : Machine) : Nat × Counters × Machine :=
  let result := require (if out then some () else none) "pyrt_memory_stats" "output slot"
  let (code, noted) := answerStatus result machine
  (code, if out then machine.observer.counters else {}, noted)

end Underlay.Boundary
