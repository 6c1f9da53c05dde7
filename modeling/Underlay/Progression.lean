import Underlay.Slice

/-!
Arithmetic progressions `start`, `start + step`, … before `stop`, over the signed range. A
progression is also a walk: it remembers the value that comes next, and forgets it for good once
that value reaches `stop` or leaves the signed range.
-/

namespace Underlay

structure Progression where
  start : Int
  stop : Int
  step : Int
  current : Option Int
deriving DecidableEq, Repr, Inhabited

namespace Progression

/-- The progression `0, 1, …` before `stop`. -/
def upTo (stop : Int) : Progression :=
  { start := 0, stop, step := 1, current := some 0 }

def make (start stop step : Int) : Except Failure Progression :=
  if step = 0 then
    .error (.raise .value "range() arg 3 must not be zero" "range")
  else
    .ok { start, stop, step, current := some start }

/-- How many values the whole progression has, wherever the walk stands. -/
def count (p : Progression) : Nat :=
  visitCount p.start p.stop p.step

def contains (p : Progression) (value : Int) : Bool :=
  let between :=
    if 0 < p.step then
      decide (p.start ≤ value ∧ value < p.stop)
    else
      decide (p.stop < value ∧ value ≤ p.start)
  between && decide ((value - p.start).tmod p.step = 0)

/-- Whether a value comes before the end in the direction of the step. -/
def live (p : Progression) (value : Int) : Bool :=
  if 0 < p.step then decide (value < p.stop) else decide (p.stop < value)

/-- One step of the walk. -/
def next (p : Progression) : Option Int × Progression :=
  match p.current with
  | none => (none, p)
  | some value =>
      if p.live value then
        let following := value + p.step
        let inside := decide (Word.least ≤ following ∧ following ≤ Word.greatest)
        (some value, { p with current := if inside then some following else none })
      else
        (none, { p with current := none })

/-- The answers of `count` steps, and the walk behind them. -/
def advance : Nat → Progression → List (Option Int) × Progression
  | 0, p => ([], p)
  | count + 1, p =>
      let (value, rest) := p.next
      let (values, last) := rest.advance count
      (value :: values, last)

/-- The values of the whole progression. -/
def values (p : Progression) : List Int :=
  (p.advance p.count).1.filterMap id

end Progression

end Underlay
