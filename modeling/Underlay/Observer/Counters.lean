import Underlay.Word

/-!
Memory counters: bytes and calls, each way, with the bytes outstanding and their peak. A release
of unknown size moves only the count of releases. Totals wrap at the machine word; the bytes
outstanding stop at zero.
-/

namespace Underlay

structure Counters where
  totalAllocated : Nat := 0
  totalFreed : Nat := 0
  current : Nat := 0
  peak : Nat := 0
  allocations : Nat := 0
  frees : Nat := 0
deriving DecidableEq, Repr, Inhabited

namespace Counters

def onAlloc (c : Counters) (size : Nat) : Counters :=
  let current := Word.wrap (c.current + size)
  { c with
    totalAllocated := Word.wrap (c.totalAllocated + size)
    allocations := Word.wrap (c.allocations + 1)
    current
    peak := max c.peak current }

def onFree (c : Counters) (size : Option Nat) : Counters :=
  match size with
  | none => { c with frees := Word.wrap (c.frees + 1) }
  | some size =>
      { c with
        frees := Word.wrap (c.frees + 1)
        totalFreed := Word.wrap (c.totalFreed + size)
        current := c.current - size }

def hasLeaks (c : Counters) : Bool :=
  decide (0 < c.current)

/-- The counters as a row, in the order in which they are reported. -/
def row (c : Counters) : List Nat :=
  [c.totalAllocated, c.totalFreed, c.current, c.peak, c.allocations, c.frees]

end Counters

end Underlay
