import Underlay.Boundary.Memory
import Underlay.Workbench.Calls
import Underlay.Workbench.Heaps

/-!
Calls of entry points on blocks of the system heap and on the counters.
-/

namespace Underlay.Workbench

/-- A call that answers with the name of a new block, or with null. -/
def callGranted (label : String) (size : Nat) (block : Option BlockId) : Bench Answer := do
  called (← nameBlock? label size block)

def callMalloc (label : String) (size : Nat) : Bench Answer := do
  callGranted label size (← run (Boundary.malloc size))

def callCalloc (label : String) (count size : Nat) : Bench Answer := do
  callGranted label (count * size) (← run (Boundary.calloc count size))

/-- The block that a name stands for, if one is given. -/
def blockOf (label : Option String) : Bench (Option BlockId) := do
  return (← known? Workbench.blocks label).map NamedBlock.block

/-- Resize a block; its old name is gone unless this fails. -/
def callRealloc (block : Option String) (label : String) (size : Nat) : Bench Answer := do
  let new ← run (Boundary.realloc (← blockOf block) size)
  if new.isSome || size == 0 then forgetBlock block
  callGranted label size new

def callFree (block : Option String) : Bench Answer := do
  update (Boundary.free (← blockOf block))
  forgetBlock block
  called .null

def place (label : Option String) (offset : Nat) : Bench (Option Boundary.Place) := do
  return (← blockOf label).map fun block => { block, offset }

def callCopy (dest : Option Boundary.Place) (destSize : Nat) (src : Option Boundary.Place)
    (srcSize : Nat) (overlapping : Bool) : Bench Answer := do
  called (.nat (← run (Boundary.copy dest destSize src srcSize overlapping)))

def callFill (dest : Option String) (value : Int) (count destSize : Nat) : Bench Answer := do
  called (.nat (← run (Boundary.fill (← blockOf dest) value count destSize)))

def callDuplicate (text : Option (List UInt8)) : Bench Answer := do
  called (Json.ofOption View.hex (← run (Boundary.duplicate text)))

def callSetTracking (level : Int) : Bench Answer := do
  update (Boundary.setTracking level)
  called (.string (← machine').observer.tracking.name)

/-- Read the counters; the slot for them may be missing. -/
def callCounters (slot : Bool) : Bench Answer := do
  let (code, counters) ← run fun machine =>
    let (code, counters, machine) := Boundary.counters slot machine
    ((code, counters), machine)
  called (.nat code) [("stats", View.counters counters)]

def callHasLeaks : Bench Answer := do
  called (.integer (if (← counters).hasLeaks then 1 else 0))

end Underlay.Workbench
