import Underlay.Failure
import Underlay.Word

/-!
Positions and slices of a sequence whose length is known. A negative position counts from the
end. A slice `start:stop:step` may leave out any part; resolving it against a length gives bounds
inside the sequence, and the positions visited are `start`, `start + step`, … as long as they lie
before `stop` in the direction of the step.
-/

namespace Underlay

/-- The position that `index` names in a sequence of `length` elements. -/
def resolveIndex (index : Int) (length : Nat) : Except Failure Nat :=
  let position := if index < 0 then Word.saturate (index + Word.signed length) else index
  if 0 ≤ position ∧ position < length then
    .ok position.toNat
  else
    .error (.raise .index
      ("index " ++ toString index ++ " out of range for length " ++ toString length)
      "normalize_index")

theorem resolveIndex_lt {index : Int} {length position : Nat}
    (found : resolveIndex index length = .ok position) : position < length := by
  unfold resolveIndex at found
  dsimp only at found
  generalize (if index < 0 then Word.saturate (index + Word.signed length) else index) = place
    at found
  split at found
  · obtain rfl := Except.ok.inj found
    omega
  · cases found

/-- How far `stop` lies from `start` in the direction of the step. -/
def span (start stop step : Int) : Int :=
  if 0 < step then stop - start else start - stop

/-- How many of `start`, `start + step`, … lie before `stop` in the direction of a step that is
not zero. -/
def visitCount (start stop step : Int) : Nat :=
  Word.saturateSize (((span start stop step).toNat + step.natAbs - 1) / step.natAbs)

/-- A slice as written: each part may be left out. -/
structure SliceSpec where
  start : Option Int := none
  stop : Option Int := none
  step : Option Int := none
deriving DecidableEq, Repr, Inhabited

/-- A slice resolved against a length. -/
structure Slice where
  start : Int
  stop : Int
  step : Int
  length : Nat
deriving DecidableEq, Repr, Inhabited

namespace SliceSpec

/-- The slice that leaves out every part. -/
def full : SliceSpec := {}

/-- A written bound as a bound inside a sequence of `length` elements. Forward bounds lie in
`[0, length]`, backward bounds in `[-1, length - 1]`. -/
def clampBound (value length : Int) (forward : Bool) : Int :=
  let value := if value < 0 then Word.saturate (value + length) else value
  if value < 0 then
    if forward then 0 else -1
  else if length ≤ value then
    if forward then length else length - 1
  else
    value

/-- The bounds and the length of a slice whose step is not zero. -/
def bounds (spec : SliceSpec) (length : Nat) : Slice :=
  let step := spec.step.getD 1
  let forward := decide (0 < step)
  let size := Word.signed length
  let bound (part : Option Int) (omitted : Int) : Int :=
    match part with
    | some value => clampBound value size forward
    | none => omitted
  let start := bound spec.start (if forward then 0 else size - 1)
  let stop := bound spec.stop (if forward then size else -1)
  { start, stop, step, length := visitCount start stop step }

def resolve (spec : SliceSpec) (length : Nat) : Except Failure Slice :=
  if spec.step.getD 1 = 0 then
    .error (.raise .value "slice step cannot be zero" "normalize_slice")
  else
    .ok (spec.bounds length)

end SliceSpec

namespace Slice

/-- A walk along the positions of a slice. -/
structure Cursor where
  next : Int
  step : Int
  remaining : Nat
deriving DecidableEq, Repr, Inhabited

namespace Cursor

/-- The next position and the walk behind it; the walk ends at a position before the sequence. -/
def next? (cursor : Cursor) : Option (Nat × Cursor) :=
  match cursor.remaining with
  | 0 => none
  | remaining + 1 =>
      if 0 ≤ cursor.next then
        some (cursor.next.toNat,
          { cursor with next := Word.saturate (cursor.next + cursor.step), remaining })
      else
        none

/-- The positions of at most `count` steps, and the walk behind them. -/
def take : Nat → Cursor → List Nat × Cursor
  | 0, cursor => ([], cursor)
  | count + 1, cursor =>
      match cursor.next? with
      | none => ([], cursor)
      | some (position, rest) =>
          let (positions, last) := rest.take count
          (position :: positions, last)

end Cursor

def cursor (slice : Slice) : Cursor :=
  { next := slice.start, step := slice.step, remaining := slice.length }

/-- Every position that the slice visits, in order. -/
def indices (slice : Slice) : List Nat :=
  (slice.cursor.take slice.length).1

def isReversed (slice : Slice) : Bool :=
  decide (slice.step < 0)

/-- The position visited as number `place`, by multiplication. -/
def position (slice : Slice) (place : Nat) : Int :=
  slice.start + place * slice.step

end Slice

end Underlay
