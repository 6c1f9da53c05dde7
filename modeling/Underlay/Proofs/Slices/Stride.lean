import Mathlib.Tactic.Ring
import Underlay.Slice

/-!
# Strides

A stride starts at an integer and goes on by a step that is not zero, as long as it lies before
its stop. Whether it has a place of a given number is decided by that place alone, so the count by
division and the stride itself agree over all integers.
-/

namespace Underlay

/-- The integer `i` lies strictly before `stop` in the direction of `step`. -/
def Precedes (step stop i : Int) : Prop :=
  if 0 < step then i < stop else stop < i

/-- The listed positions are `start`, `start + step`, … as long as these lie before `stop`, over
unbounded integers. -/
structure Visits (start stop step : Int) (positions : List Nat) : Prop where
  place : ∀ k (inside : k < positions.length), (positions[k] : Int) = start + k * step
  extent : ∀ k : Nat, k < positions.length ↔ Precedes step stop (start + k * step)

theorem lt_roundedQuotient_iff {span unit k : Nat} (positive : 0 < unit) :
    k < (span + unit - 1) / unit ↔ k * unit < span := by
  have whole : k < (span + unit - 1) / unit ↔ (k + 1) * unit ≤ span + unit - 1 :=
    Nat.le_div_iff_mul_le positive
  rw [whole, Nat.succ_mul]
  omega

theorem roundedQuotient_le (span : Nat) {unit : Nat} (positive : 0 < unit) :
    (span + unit - 1) / unit ≤ span := by
  by_contra more
  have product := (lt_roundedQuotient_iff positive).mp (Nat.lt_of_not_le more)
  exact Nat.not_lt_of_le (Nat.le_mul_of_pos_right span positive) product

/-- A stride of less than a word has a place number `k` exactly when that place lies before its
stop. -/
theorem lt_visitCount_iff {start stop step : Int} (moves : step ≠ 0)
    (near : span start stop step < Word.limit) (k : Nat) :
    k < visitCount start stop step ↔ Precedes step stop (start + k * step) := by
  have positive : 0 < step.natAbs := Int.natAbs_pos.mpr moves
  have fits := roundedQuotient_le (span start stop step).toNat positive
  have small : ((span start stop step).toNat + step.natAbs - 1) / step.natAbs < Word.limit := by
    unfold Word.limit at near ⊢
    omega
  rw [visitCount, Word.saturateSize_eq_self small, lt_roundedQuotient_iff positive]
  unfold span Precedes
  by_cases forward : 0 < step
  · have product : ((k * step.natAbs : Nat) : Int) = k * step := by
      rw [Nat.cast_mul, Int.natAbs_of_nonneg forward.le]
    simp only [forward, if_true]
    omega
  · have product : ((k * step.natAbs : Nat) : Int) = -(k * step) := by
      rw [Nat.cast_mul, Int.ofNat_natAbs_of_nonpos (not_lt.mp forward)]
      ring
    simp only [forward, if_false]
    omega

/-- So many places of a stride, from place number `place` on, as positions. -/
def places (start step : Int) (place count : Nat) : List Nat :=
  (List.range' place count).map fun k : Nat => (start + k * step).toNat

@[simp]
theorem length_places (start step : Int) (place count : Nat) :
    (places start step place count).length = count := by
  simp [places]

theorem places_succ (start step : Int) (place count : Nat) :
    places start step place (count + 1) =
      (start + place * step).toNat :: places start step (place + 1) count := by
  simp [places, List.range'_succ]

/-- A stride of positions visits its places from number zero on. -/
theorem visits_places {start stop step : Int} (moves : step ≠ 0)
    (near : span start stop step < Word.limit)
    (inside : ∀ k : Nat, k < visitCount start stop step → 0 ≤ start + k * step) :
    Visits start stop step (places start step 0 (visitCount start stop step)) where
  place k counts := by
    have nonnegative := inside k (by simpa using counts)
    simp only [places, List.getElem_map, List.getElem_range', Nat.zero_add, Nat.one_mul]
    exact Int.toNat_of_nonneg nonnegative
  extent k := by
    rw [length_places]
    exact lt_visitCount_iff moves near k

/-- Every listed position is a place of the stride before its stop. -/
theorem Visits.exists_place {start stop step : Int} {positions : List Nat}
    (visits : Visits start stop step positions) {position : Nat} (visited : position ∈ positions) :
    ∃ k : Nat, (position : Int) = start + k * step ∧ Precedes step stop (start + k * step) := by
  obtain ⟨k, counts, rfl⟩ := List.getElem_of_mem visited
  exact ⟨k, visits.place k counts, (visits.extent k).mp counts⟩

/-- A stride comes to no position twice. -/
theorem Visits.nodup {start stop step : Int} {positions : List Nat}
    (visits : Visits start stop step positions) (moves : step ≠ 0) : positions.Nodup := by
  apply List.pairwise_iff_getElem.mpr
  intro i j here there before same
  have product : (i : Int) * step = j * step := by
    have first := visits.place i here
    have second := visits.place j there
    omega
  have places : (i : Int) = j := Int.eq_of_mul_eq_mul_right moves product
  omega

end Underlay
