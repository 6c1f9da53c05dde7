import Underlay.Failure.Slot
import Underlay.Memory.Pool
import Underlay.Memory.Scope
import Underlay.Settings

/-!
What operations share: the slot of the last failure, the observer, the capacity of pools opened
without one, the system, and how many pools and scopes have been opened. Pools and scopes are
numbered from one in the order in which they are opened; a pool that cannot be opened takes no
number.
-/

namespace Underlay

structure Session where
  slot : Slot := {}
  observer : Observer := {}
  poolCapacity : Nat := PoolCapacity.default
  /-- Where buffers and payloads come from. -/
  system : System := {}
  poolsOpened : Nat := 0
  scopesOpened : Nat := 0
deriving Inhabited

namespace Session

/-- Let the slot see a result. -/
def note {α : Type} (s : Session) (result : Except Failure α) : Session :=
  { s with slot := s.slot.after result }

def observe (s : Session) (observer : Observer) : Session :=
  { s with observer }

def settings (s : Session) : Settings :=
  { tracking := s.observer.tracking, poolCapacity := s.poolCapacity }

def setTracking (s : Session) (tracking : Tracking) : Session :=
  { s with observer := { s.observer with tracking } }

def setPoolCapacity (s : Session) (capacity : Nat) : Session :=
  { s with poolCapacity := PoolCapacity.accept capacity }

/-- Open a pool; no capacity and capacity zero both mean the one of the settings. -/
def openPool (s : Session) (capacity : Option Nat) : Except Failure Pool × Session :=
  let asked := capacity.getD 0
  let id := s.poolsOpened + 1
  let (result, observer) :=
    Pool.make s.system id (if asked = 0 then s.poolCapacity else asked) s.observer
  let s := (s.observe observer).note result
  (result, if result matches .ok _ then { s with poolsOpened := id } else s)

def openScope (s : Session) : Scope × Session :=
  let id := s.scopesOpened + 1
  let (scope, observer) := Scope.make id s.observer
  (scope, { s.observe observer with scopesOpened := id })

end Session

end Underlay
