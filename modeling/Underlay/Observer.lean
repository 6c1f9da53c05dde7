import Underlay.Observer.Counters
import Underlay.Observer.Lifecycle

/-!
The observer of memory operations. At tracking level `off` it sees nothing, at `stats` it counts,
and at `trace` it also keeps a lifecycle log. No operation reads it: it only receives notes.
-/

namespace Underlay

/-- How much bookkeeping goes with a memory operation. -/
inductive Tracking where
  | off
  | stats
  | trace
deriving DecidableEq, Repr, Inhabited

namespace Tracking

def name : Tracking → String
  | off => "off"
  | stats => "stats"
  | trace => "trace"

def counts : Tracking → Bool
  | off => false
  | stats | trace => true

def logs : Tracking → Bool
  | off | stats => false
  | trace => true

/-- The level that generated code asks for by a number. -/
def ofNumber (level : Int) : Tracking :=
  if level ≤ 0 then off else if level = 1 then stats else trace

theorem counts_ofNumber {level : Int} (positive : 0 < level) : (ofNumber level).counts = true := by
  unfold ofNumber
  rw [if_neg (Int.not_le.mpr positive)]
  split <;> rfl

end Tracking

structure Observer where
  tracking : Tracking := .off
  counters : Counters := {}
  log : Lifecycle.Log := {}
deriving Repr, Inhabited

namespace Observer

def noteAlloc (o : Observer) (size : Nat) : Observer :=
  if o.tracking.counts then { o with counters := o.counters.onAlloc size } else o

def noteFree (o : Observer) (size : Option Nat) : Observer :=
  if o.tracking.counts then { o with counters := o.counters.onFree size } else o

def emit (o : Observer) (event : Lifecycle.Event) : Observer :=
  if o.tracking.logs then { o with log := o.log.record event } else o

end Observer

end Underlay
