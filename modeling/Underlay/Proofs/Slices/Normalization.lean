import Mathlib.Algebra.Order.Ring.Int
import Underlay.Proofs.Slices.Stride

/-!
# Slices mean their unbounded counterparts

A resolved slice is compared with one whose bounds are computed over unbounded integers. Its walk
keeps its next position and its count apart: the position saturates, the count comes from a
division. `Cursor.Yields` tells a walk step by step, with the count at every point, and the main
statement says that it visits the unbounded stride and nothing else.
-/

namespace Underlay

namespace SliceSpec

/-- The integer nearest to `i` between `low` and `high`. -/
def clamp (low high i : Int) : Int :=
  max low (min i high)

/-- A written bound over unbounded integers, in a sequence of `size` elements: a negative one
counts from the end, and what is still outside moves to the nearest end. -/
def unboundedBound (size value : Int) (forward : Bool) : Int :=
  let value := if value < 0 then value + size else value
  if forward then clamp 0 size value else clamp (-1) (size - 1) value

def forward (spec : SliceSpec) : Bool :=
  decide (0 < spec.step.getD 1)

/-- Where the slice begins in a sequence of `size` elements. -/
def unboundedStart (spec : SliceSpec) (size : Int) : Int :=
  match spec.start with
  | some value => unboundedBound size value spec.forward
  | none => if spec.forward then 0 else size - 1

/-- Where the slice ends in a sequence of `size` elements. -/
def unboundedStop (spec : SliceSpec) (size : Int) : Int :=
  match spec.stop with
  | some value => unboundedBound size value spec.forward
  | none => if spec.forward then size else -1

theorem clampBound_eq_unboundedBound {size : Int} (value : Int) (forward : Bool)
    (nonnegative : 0 ≤ size) (representable : size ≤ Word.greatest) :
    clampBound value size forward = unboundedBound size value forward := by
  have saturated : value < 0 → Word.saturate (value + size) = max Word.least (value + size) := by
    intro negative
    unfold Word.saturate Word.least
    unfold Word.greatest at representable ⊢
    split
    · omega
    · split <;> omega
  unfold clampBound unboundedBound clamp
  by_cases negative : value < 0
  · simp only [negative, if_true, saturated negative]
    unfold Word.least
    cases forward <;> simp only [if_true, Bool.false_eq_true, if_false] <;> split_ifs <;> omega
  · simp only [negative, if_false]
    cases forward <;> simp only [if_true, Bool.false_eq_true, if_false] <;> split_ifs <;> omega

/-- Every place of the stride is a position of a sequence of `size` elements. -/
def Legal (size start stop step : Int) : Prop :=
  if 0 < step then 0 ≤ start ∧ stop ≤ size else start < size ∧ -1 ≤ stop

theorem Legal.span_lt {size start stop step : Int} (legal : Legal size start stop step)
    (representable : size ≤ Word.greatest) : span start stop step < Word.limit := by
  unfold Legal at legal
  unfold span
  unfold Word.greatest at representable
  unfold Word.limit
  split at legal
  · rename_i forward
    simp only [forward, if_true]
    omega
  · rename_i backward
    simp only [backward, if_false]
    omega

theorem Legal.visitCount_le {size start stop step : Int} (legal : Legal size start stop step)
    (nonnegative : 0 ≤ size) (moves : step ≠ 0) : (visitCount start stop step : Int) ≤ size := by
  have fits := roundedQuotient_le (span start stop step).toNat (Int.natAbs_pos.mpr moves)
  have within : span start stop step ≤ size := by
    unfold Legal at legal
    unfold span
    split at legal
    · rename_i forward
      simp only [forward, if_true]
      omega
    · rename_i backward
      simp only [backward, if_false]
      omega
  unfold visitCount Word.saturateSize
  omega

theorem Legal.position_bounds {size start stop step : Int} (legal : Legal size start stop step)
    {k : Nat} (before : Precedes step stop (start + k * step)) :
    0 ≤ start + k * step ∧ start + k * step < size := by
  unfold Legal at legal
  unfold Precedes at before
  by_cases forward : 0 < step
  · simp only [forward, if_true] at legal before
    have advance : 0 ≤ (k : Int) * step := mul_nonneg (Int.natCast_nonneg k) forward.le
    omega
  · simp only [forward, if_false] at legal before
    have retreat : (k : Int) * step ≤ 0 :=
      mul_nonpos_of_nonneg_of_nonpos (Int.natCast_nonneg k) (not_lt.mp forward)
    omega

theorem unboundedBound_bounds {size : Int} (value : Int) (forward : Bool) (nonnegative : 0 ≤ size) :
    if forward then 0 ≤ unboundedBound size value forward ∧ unboundedBound size value forward ≤ size
    else unboundedBound size value forward < size ∧ -1 ≤ unboundedBound size value forward := by
  cases forward <;>
    simp only [unboundedBound, clamp, if_true, Bool.false_eq_true, if_false] <;> omega

theorem legal_unbounded (spec : SliceSpec) {size : Int} (nonnegative : 0 ≤ size) :
    Legal size (spec.unboundedStart size) (spec.unboundedStop size) (spec.step.getD 1) := by
  unfold Legal unboundedStart unboundedStop
  by_cases forward : 0 < spec.step.getD 1
  · have direction : spec.forward = true := decide_eq_true forward
    have written (value : Int) := unboundedBound_bounds value true nonnegative
    simp only [forward, direction, if_true] at written ⊢
    cases spec.start <;> cases spec.stop <;> simp [written]
  · have direction : spec.forward = false := decide_eq_false forward
    have written (value : Int) := unboundedBound_bounds value false nonnegative
    simp only [forward, direction, if_false, Bool.false_eq_true] at written ⊢
    cases spec.start <;> cases spec.stop <;> simp [written]

theorem signed_eq_min (length : Nat) : Word.signed length = min (length : Int) Word.greatest := by
  unfold Word.signed Word.saturate Word.least Word.greatest
  split
  · omega
  · split <;> omega

/-- Resolving computes the unbounded bounds; only a step of zero is refused. -/
theorem resolve_eq (spec : SliceSpec) (length : Nat) :
    spec.resolve length =
      if spec.step.getD 1 = 0 then
        .error (.raise .value "slice step cannot be zero" "normalize_slice")
      else
        let start := spec.unboundedStart (min length Word.greatest)
        let stop := spec.unboundedStop (min length Word.greatest)
        let step := spec.step.getD 1
        .ok { start, stop, step, length := visitCount start stop step } := by
  have nonnegative : 0 ≤ min (length : Int) Word.greatest := by
    unfold Word.greatest
    omega
  have bound (value : Int) (forward : Bool) :=
    clampBound_eq_unboundedBound value forward nonnegative (min_le_right _ _)
  unfold resolve bounds unboundedStart unboundedStop SliceSpec.forward
  cases spec.start <;> cases spec.stop <;> simp only [signed_eq_min, bound]

theorem step_ne_zero {spec : SliceSpec} (moves : spec.step ≠ some 0) : spec.step.getD 1 ≠ 0 := by
  cases written : spec.step with
  | none => exact one_ne_zero
  | some step =>
      intro zero
      exact moves (written.trans (congrArg some zero))

theorem exists_resolve {spec : SliceSpec} (moves : spec.step.getD 1 ≠ 0) (length : Nat) :
    ∃ slice, spec.resolve length = .ok slice := by
  rw [resolve_eq, if_neg moves]
  exact ⟨_, rfl⟩

section

variable {spec : SliceSpec} {length : Nat} {slice : Slice}

/-- A resolved slice is a legal stride of the sequence with the count of its places. -/
theorem legal_of_resolve (resolved : spec.resolve length = .ok slice) :
    slice.step ≠ 0 ∧
      Legal (min length Word.greatest) slice.start slice.stop slice.step ∧
      slice.length = visitCount slice.start slice.stop slice.step := by
  rw [resolve_eq] at resolved
  split at resolved
  · cases resolved
  · rename_i moves
    obtain rfl := Except.ok.inj resolved
    have nonnegative : 0 ≤ min (length : Int) Word.greatest := by
      unfold Word.greatest
      omega
    exact ⟨moves, legal_unbounded spec nonnegative, rfl⟩

theorem length_le_of_resolve (resolved : spec.resolve length = .ok slice) :
    (slice.length : Int) ≤ Word.greatest := by
  obtain ⟨moves, legal, counted⟩ := legal_of_resolve resolved
  have nonnegative : 0 ≤ min (length : Int) Word.greatest := by
    unfold Word.greatest
    omega
  rw [counted]
  exact le_trans (legal.visitCount_le nonnegative moves) (min_le_right _ _)

/-- What a resolved slice counts are positions of the sequence, and no more than it has. -/
theorem position_bounds {place : Nat} (resolved : spec.resolve length = .ok slice)
    (counts : place < slice.length) :
    0 ≤ slice.position place ∧ slice.position place < length ∧ (place : Int) ≤ Word.greatest := by
  obtain ⟨moves, legal, counted⟩ := legal_of_resolve resolved
  have near := legal.span_lt (min_le_right _ _)
  have before := (lt_visitCount_iff moves near place).mp (counted ▸ counts)
  have bounds := legal.position_bounds before
  have few := length_le_of_resolve resolved
  refine ⟨bounds.1, ?_, ?_⟩
  · exact lt_of_lt_of_le bounds.2 (min_le_left _ _)
  · omega

end

end SliceSpec

namespace Slice

namespace Cursor

/-- Asked again and again, the walk answers the listed positions and then nothing more, and at
every point its count is the number of positions still to come. -/
def Yields (cursor : Cursor) : List Nat → Prop
  | [] => cursor.remaining = 0 ∧ cursor.next? = none
  | position :: positions =>
      cursor.remaining = positions.length + 1 ∧
        ∃ rest, cursor.next? = some (position, rest) ∧ rest.Yields positions

theorem Yields.take {cursor : Cursor} {positions : List Nat} (yields : cursor.Yields positions) :
    (cursor.take positions.length).1 = positions := by
  induction positions generalizing cursor with
  | nil => rfl
  | cons position positions inductionHypothesis =>
      obtain ⟨-, rest, answered, later⟩ := yields
      simp only [List.length_cons, Cursor.take, answered, inductionHypothesis later]

/-- A cursor that stands at place number `place` of a stride inside the sequence yields the rest
of the stride. Behind the last place it may have saturated, but there its count is zero. -/
theorem yields_places {size start stop step : Int} (legal : SliceSpec.Legal size start stop step)
    (representable : size ≤ Word.greatest) (moves : step ≠ 0) {place remaining : Nat} {next : Int}
    (counted : place + remaining = visitCount start stop step)
    (standing : 0 < remaining → next = start + place * step) :
    Yields { next, step, remaining } (places start step place remaining) := by
  have near := legal.span_lt representable
  have inside {k : Nat} (counts : k < visitCount start stop step) :=
    legal.position_bounds ((lt_visitCount_iff moves near k).mp counts)
  induction remaining generalizing place next with
  | zero => exact ⟨rfl, rfl⟩
  | succ remaining inductionHypothesis =>
      have here := inside (k := place) (by omega)
      rw [standing (Nat.succ_pos remaining), places_succ]
      have answered : next? { next := start + place * step, step, remaining := remaining + 1 } =
          some ((start + place * step).toNat,
            { next := Word.saturate (start + place * step + step), step, remaining }) := by
        simp only [next?, here.1, if_true]
      refine ⟨by simp, _, answered, ?_⟩
      apply inductionHypothesis (by omega)
      intro more
      have there := inside (k := place + 1) (by omega)
      have following : start + ((place + 1 : Nat) : Int) * step = start + place * step + step := by
        push_cast
        ring
      rw [following] at there ⊢
      have low : Word.least ≤ start + place * step + step := by
        unfold Word.least
        omega
      exact Word.saturate_eq_self low (by omega)

end Cursor

end Slice

namespace SliceSpec

variable {spec : SliceSpec} {length : Nat} {slice : Slice}

theorem yields_of_resolve (resolved : spec.resolve length = .ok slice) :
    slice.cursor.Yields (places slice.start slice.step 0 slice.length) := by
  obtain ⟨moves, legal, counted⟩ := legal_of_resolve resolved
  refine Slice.Cursor.yields_places legal (min_le_right _ _) moves ?_ ?_
  · rw [Nat.zero_add, counted]
  · intro _
    rw [Nat.cast_zero, zero_mul, add_zero]

theorem indices_of_resolve (resolved : spec.resolve length = .ok slice) :
    slice.indices = places slice.start slice.step 0 slice.length := by
  have taken := (yields_of_resolve resolved).take
  rwa [length_places] at taken

theorem length_indices_of_resolve (resolved : spec.resolve length = .ok slice) :
    slice.indices.length = slice.length := by
  rw [indices_of_resolve resolved, length_places]

theorem getElem?_indices_of_resolve (resolved : spec.resolve length = .ok slice) {place : Nat}
    (counts : place < slice.length) :
    slice.indices[place]? = some (slice.position place).toNat := by
  rw [indices_of_resolve resolved]
  simp [places, counts, Slice.position]

theorem lt_of_mem_indices (resolved : spec.resolve length = .ok slice) {index : Nat}
    (visited : index ∈ slice.indices) : index < length := by
  obtain ⟨place, inside, rfl⟩ := List.getElem_of_mem visited
  have counts : place < slice.length := length_indices_of_resolve resolved ▸ inside
  have here := getElem?_indices_of_resolve resolved counts
  have bounds := position_bounds resolved counts
  rw [List.getElem?_eq_getElem inside, Option.some.injEq] at here
  omega

/-- A resolved slice visits the stride between its unbounded bounds. -/
theorem visits_of_resolve (resolved : spec.resolve length = .ok slice) :
    Visits (spec.unboundedStart (min length Word.greatest))
      (spec.unboundedStop (min length Word.greatest)) (spec.step.getD 1) slice.indices := by
  obtain ⟨moves, legal, counted⟩ := legal_of_resolve resolved
  have near := legal.span_lt (min_le_right _ _)
  rw [indices_of_resolve resolved, counted]
  rw [resolve_eq] at resolved
  split at resolved
  · cases resolved
  · obtain rfl := Except.ok.inj resolved
    exact visits_places moves near fun k counts =>
      (legal.position_bounds ((lt_visitCount_iff moves near k).mp counts)).1

end SliceSpec

/-- Resolving refuses a step of zero and nothing else. Otherwise the bounds are the unbounded
ones, and the walk yields exactly the places of the stride between them, all of them positions of
the sequence. -/
theorem SliceSpec.resolve_visits_unbounded (spec : SliceSpec) (length : Nat) :
    if spec.step.getD 1 = 0 then
      spec.resolve length =
        .error (.raise .value "slice step cannot be zero" "normalize_slice")
    else
      ∃ slice positions,
        spec.resolve length = .ok slice ∧
        slice.start = spec.unboundedStart (min length Word.greatest) ∧
        slice.stop = spec.unboundedStop (min length Word.greatest) ∧
        slice.step = spec.step.getD 1 ∧
        Visits slice.start slice.stop slice.step positions ∧
        slice.cursor.Yields positions ∧
        slice.indices = positions ∧
        slice.length = positions.length ∧
        ∀ position ∈ positions, position < length := by
  rw [resolve_eq]
  split
  · rfl
  next moves =>
      have nonnegative : 0 ≤ min (length : Int) Word.greatest := by
        unfold Word.greatest
        omega
      have legal := legal_unbounded spec nonnegative
      have near := legal.span_lt (min_le_right _ _)
      have yields := Slice.Cursor.yields_places legal (min_le_right _ _) moves (Nat.zero_add _)
        (fun _ => by rw [Nat.cast_zero, zero_mul, add_zero])
      have visits := visits_places moves near fun k counts =>
        (legal.position_bounds ((lt_visitCount_iff moves near k).mp counts)).1
      refine ⟨_, _, rfl, rfl, rfl, rfl, visits, yields, ?_, ?_, ?_⟩
      · have taken := yields.take
        rw [length_places] at taken
        exact taken
      · rw [length_places]
      · intro position visited
        obtain ⟨k, placed, before⟩ := visits.exists_place visited
        have bounds := legal.position_bounds before
        omega

end Underlay
