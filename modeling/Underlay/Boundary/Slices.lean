import Underlay.Progression
import Underlay.Machine

/-!
Entry points for generated code: positions, slices and progressions. A pointer may be missing, and
a failure is answered by a reserved value: minus one where a position is asked for, and the number
of the kind where only success is. The slot says what the failure was.
-/

namespace Underlay.Boundary

/-- What an entry point answers: its result, or a reserved value for a failure. -/
def answer {α : Type} (reserved : α) (result : Except Failure α) (machine : Machine) :
    α × Machine :=
  match result with
  | .ok a => (a, machine)
  | .error failure => (reserved, machine.note (.error failure : Except Failure α))

/-- The number of the kind of a failure, or zero. -/
def status {α : Type} : Except Failure α → Nat
  | .ok _ => Kind.ok.code
  | .error failure => failure.kind.code

/-- Answer with the status of a result. -/
def answerStatus {α : Type} (result : Except Failure α) (machine : Machine) : Nat × Machine :=
  (status result, machine.note result)

/-- Demand a pointer, which is called `what` in the failure. -/
def require {α : Type} (pointer : Option α) (operation what : String) : Except Failure α :=
  match pointer with
  | some a => .ok a
  | none => .error (.raise .value (what ++ " is null") operation)

/-- The greatest signed position stands for every number past it. -/
def clip (n : Nat) : Int :=
  Word.signed n

theorem clip_nonneg (n : Nat) : 0 ≤ clip n := by
  unfold clip Word.signed Word.saturate Word.least Word.greatest
  split
  · omega
  · split <;> omega

theorem clip_eq_self {n : Nat} (representable : (n : Int) ≤ Word.greatest) : clip n = n := by
  apply Word.saturate_eq_self _ representable
  unfold Word.least
  omega

/-- A slice as generated code writes it: a part counts if its flag is not zero. -/
structure WrittenSlice where
  start : Int
  stop : Int
  step : Int
  hasStart : Int
  hasStop : Int
  hasStep : Int
deriving DecidableEq, Repr, Inhabited

def WrittenSlice.spec (s : WrittenSlice) : SliceSpec where
  start := if s.hasStart ≠ 0 then some s.start else none
  stop := if s.hasStop ≠ 0 then some s.stop else none
  step := if s.hasStep ≠ 0 then some s.step else none

def normalizeIndex (index : Int) (length : Nat) (machine : Machine) : Int × Machine :=
  answer (-1) ((resolveIndex index length).map fun position : Nat =>
    if (position : Int) ≤ Word.greatest then (position : Int) else -1) machine

/-- Resolve a slice into an output slot. The answer is a status, and what the slot holds behind,
if there is one. -/
def normalizeSlice (slice : Option WrittenSlice) (length : Nat) (out : Option Slice)
    (machine : Machine) : Nat × Option Slice × Machine :=
  let result := do
    let slice ← require slice "pyrt_normalize_slice" "slice"
    let _ ← require out "pyrt_normalize_slice" "output slot"
    slice.spec.resolve length
  let (code, machine) := answerStatus result machine
  match result with
  | .ok resolved => (code, some resolved, machine)
  | .error _ => (code, out, machine)

def progressionLength (start stop step : Int) (machine : Machine) : Int × Machine :=
  answer (-1) ((Progression.make start stop step).map fun p => clip p.count) machine

def progressionContains (start stop step value : Int) (machine : Machine) : Int × Machine :=
  answer (-1) ((Progression.make start stop step).map fun p =>
    if p.contains value then 1 else 0) machine

/-- The position that a resolved slice visits as number `place`. -/
def slicePosition (slice : Option Slice) (place : Nat) (machine : Machine) : Int × Machine :=
  let result := do
    let slice ← require slice "pyrt_slice_index" "slice"
    if slice.length ≤ place then
      throw (.raise .index
        ("slice position " ++ toString place ++ " out of range for length " ++
          toString slice.length) "pyrt_slice_index")
    else
      return slice.start + clip place * slice.step
  answer (-1) result machine

end Underlay.Boundary
