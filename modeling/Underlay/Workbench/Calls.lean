import Underlay.Boundary.Failures
import Underlay.Boundary.Slices
import Underlay.Workbench.Views

/-!
Calls of entry points on a workbench. Beside its value, the answer of a call tells what generated
code reads from the slot afterwards: the number of the kind, the message, and the operation that
failed.
-/

namespace Underlay.Workbench

def called (value : Json) (more : Answer := []) : Bench Answer := do
  let machine ← machine'
  return ok value (more ++ [("code", .nat machine.slot.code.code),
    ("message", .string (Boundary.message machine)),
    ("function", Json.ofOption (fun l => .string (Location.function l)) machine.slot.location)])

/-! The slot -/

def callSetFailure (code : Int) (message : Option (List UInt8)) (location : Option Location) :
    Bench Answer := do
  update (Boundary.setFailure code message location)
  called .null [("slot", View.slot (← machine').slot)]

def callHasFailure : Bench Answer := do
  called (.object [("has", .nat (Boundary.hasFailure (← machine')))])

def callClearFailure : Bench Answer := do
  update (·.setSlot .clear)
  callHasFailure

/-! Positions, slices and progressions -/

def callNumber (act : Machine → Int × Machine) : Bench Answer := do
  called (.integer (← run act))

/-- What stands in an output slot before a slice is written to it. -/
def unwritten : Slice :=
  { start := 11, stop := 22, step := 33, length := 44 }

/-- Resolve a slice; the slot for it may be missing. -/
def callResolve (slice : Option Boundary.WrittenSlice) (length : Nat) (slot : Bool) :
    Bench Answer := do
  let (code, out) ← run fun machine =>
    let (code, out, machine) :=
      Boundary.normalizeSlice slice length (if slot then some unwritten else none) machine
    ((code, out), machine)
  called (.nat code) [("out", View.bounds (out.getD unwritten))]

end Underlay.Workbench
