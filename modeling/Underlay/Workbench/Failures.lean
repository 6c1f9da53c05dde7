import Underlay.Failure.System
import Underlay.Workbench.Views

/-!
Operations of a workbench on failures: their kinds, the slot of the last failure, and slots of
one's own.
-/

namespace Underlay.Workbench

def slot : Bench Slot := do
  return (← get).machine.slot

/-- The kind of a system error number, and whether its number alone tells it. -/
def ioErrno (errno : Int) : Json :=
  .object [("kind", .string (Kind.ofErrno errno).name), ("same_as_errno", .bool true)]

def setError (code : Kind) (message : String) (location : Option Location) : Bench Answer := do
  update (·.setSlot (.set code message location))
  return ok (View.slot (← slot))

def clearError : Bench Answer := do
  update (·.setSlot .clear)
  return ok (View.slot (← slot))

/-- Record a failure; it is returned with its whole message. -/
def recordError (failure : Failure) : Bench Answer := do
  update (·.note (.error failure : Except Failure Unit))
  return ok (.object [("returned_bytes", .nat failure.message.utf8ByteSize),
    ("slot", View.slot (← slot))])

/-- Record a failure on a thread of its own, which has a slot of its own. -/
def threadError (code : Kind) (message : String) : Bench Answer := do
  let fresh : Slot := {}
  let after := Slot.set code message none
  return ok (.object [("thread", .object [("before", .bool fresh.hasFailure),
    ("after", .nat after.code.code)]), ("here", View.slot (← slot))])

/-- A slot of one's own; it is empty until it is set. -/
def context (name : String) : Bench Slot := do
  return ((← get).contexts.get? name).getD {}

def setContext (name : String) (slot : Slot) : Bench Answer := do
  modify fun w => { w with contexts := w.contexts.set name slot }
  return ok (View.context slot)

end Underlay.Workbench
