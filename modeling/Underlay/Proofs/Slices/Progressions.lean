import Underlay.Boundary.Slices
import Underlay.Proofs.Slices.Routes

/-!
# Progressions agree with themselves

A progression is walked by checked addition, counted by a division and asked for a value by a
remainder. All three are compared with the stride over unbounded integers. The walk is told by the
place that it stands at; it forgets its value where the next one would leave the signed range, and
there the stride is over, because its stop lies inside the range.
-/

namespace Underlay

namespace Progression

/-- The listed values are `start`, `start + step`, … as long as these lie before `stop`, over
unbounded integers. -/
structure Enumerates (start stop step : Int) (values : List Int) : Prop where
  value : ∀ k (inside : k < values.length), values[k] = start + k * step
  extent : ∀ k : Nat, k < values.length ↔ Precedes step stop (start + k * step)

/-- A distance that is none or goes in the direction of the step. -/
def Along (step distance : Int) : Prop :=
  if 0 < step then 0 ≤ distance else distance ≤ 0

/-- A progression between signed positions that gets on. -/
structure Bounded (p : Progression) : Prop where
  start : Word.Signed p.start
  stop : Word.Signed p.stop
  moves : p.step ≠ 0

/-- The walk has the value of this place before it, unless the place is past the last and the value
is forgotten. -/
def StandsAt (p : Progression) (place : Nat) : Prop :=
  p.current = some (p.start + place * p.step) ∨ p.current = none ∧ p.count ≤ place

/-- The values of the first places. -/
def terms (p : Progression) (count : Nat) : List Int :=
  (List.range count).map fun k : Nat => p.start + k * p.step

variable {p : Progression}

theorem live_eq_true {value : Int} : p.live value = true ↔ Precedes p.step p.stop value := by
  unfold live Precedes
  split <;> exact decide_eq_true_iff

theorem along_mul {step : Int} (moves : step ≠ 0) (quotient : Int) :
    Along step (quotient * step) ↔ 0 ≤ quotient := by
  unfold Along
  split
  · rename_i forward
    exact mul_nonneg_iff_of_pos_right forward
  · rename_i backward
    have positive : 0 < -step := by omega
    rw [← neg_nonneg, ← mul_neg]
    exact mul_nonneg_iff_of_pos_right positive

theorem contains_eq_true_iff (value : Int) : p.contains value = true ↔
    Along p.step (value - p.start) ∧ Precedes p.step p.stop value ∧ p.step ∣ value - p.start := by
  unfold contains Along Precedes
  rw [Int.dvd_iff_tmod_eq_zero]
  split
  · simp [and_assoc]
  · simp [and_assoc, and_comm]

theorem next_eq (p : Progression) : ∃ current, p.next.2 = { p with current } := by
  unfold next
  split
  · exact ⟨p.current, rfl⟩
  · split <;> exact ⟨_, rfl⟩

/-- Walking changes nothing but where the walk stands. -/
theorem advance_eq (p : Progression) (calls : Nat) :
    ∃ current, (p.advance calls).2 = { p with current } := by
  induction calls generalizing p with
  | zero => exact ⟨p.current, rfl⟩
  | succ calls inductionHypothesis =>
      obtain ⟨between, stepped⟩ := p.next_eq
      obtain ⟨current, walked⟩ := inductionHypothesis p.next.2
      refine ⟨current, ?_⟩
      change (p.next.2.advance calls).2 = _
      rw [walked, stepped]

theorem count_advance (p : Progression) (calls : Nat) : (p.advance calls).2.count = p.count := by
  obtain ⟨current, walked⟩ := p.advance_eq calls
  rw [walked]
  rfl

namespace Bounded

theorem near (bounded : p.Bounded) : span p.start p.stop p.step < Word.limit := by
  have ⟨_, above⟩ := bounded.start
  have ⟨_, above'⟩ := bounded.stop
  unfold span Word.limit
  unfold Word.least Word.greatest at *
  split <;> omega

theorem lt_count_iff (bounded : p.Bounded) (k : Nat) :
    k < p.count ↔ Precedes p.step p.stop (p.start + k * p.step) :=
  lt_visitCount_iff bounded.moves bounded.near k

/-- What lies between two signed positions is signed. -/
theorem signed_of_precedes (bounded : p.Bounded) {k : Nat}
    (before : Precedes p.step p.stop (p.start + k * p.step)) :
    Word.Signed (p.start + k * p.step) := by
  have ⟨low, high⟩ := bounded.start
  have ⟨low', high'⟩ := bounded.stop
  have along := (along_mul bounded.moves k).mpr (Int.natCast_nonneg k)
  unfold Precedes at before
  unfold Along at along
  split at before
  · rename_i forward
    rw [if_pos forward] at along
    exact ⟨by omega, by omega⟩
  · rename_i backward
    rw [if_neg backward] at along
    exact ⟨by omega, by omega⟩

/-- What the walk remembers behind a place that has a value: the next value, unless this leaves the
signed range, and then no place is left. -/
theorem stands_following (bounded : p.Bounded) (place : Nat) {current : Option Int}
    (remembered : current =
      let following := p.start + place * p.step + p.step
      if Word.least ≤ following ∧ following ≤ Word.greatest then some following else none) :
    ({ p with current } : Progression).StandsAt (place + 1) := by
  have following : p.start + place * p.step + p.step =
      p.start + ((place + 1 : Nat) : Int) * p.step := by
    push_cast
    ring
  simp only [following] at remembered
  split at remembered
  · exact .inl remembered
  · rename_i outside
    refine .inr ⟨remembered, ?_⟩
    by_contra more
    exact outside (bounded.signed_of_precedes
      ((bounded.lt_count_iff (place + 1)).mp (Nat.lt_of_not_le more)))

/-- One step from a place answers its value, if it has one, and stands at the next. -/
theorem next (bounded : p.Bounded) {place : Nat} (stands : p.StandsAt place) :
    p.next.1 = (if place < p.count then some (p.start + place * p.step) else none) ∧
      p.next.2.StandsAt (place + 1) := by
  rcases stands with value | ⟨forgotten, past⟩
  · by_cases counts : place < p.count
    · have live := live_eq_true.mpr ((bounded.lt_count_iff place).mp counts)
      simp only [Progression.next, value, live, if_true, counts, true_and]
      exact bounded.stands_following place (by simp)
    · have dead : p.live (p.start + place * p.step) = false := by
        rw [Bool.eq_false_iff, ne_eq, live_eq_true, ← bounded.lt_count_iff]
        exact counts
      simp only [Progression.next, value, dead, Bool.false_eq_true, if_false, counts, true_and]
      exact .inr ⟨rfl, Nat.le_succ_of_le (Nat.le_of_not_lt counts)⟩
  · simp only [Progression.next, forgotten, Nat.not_lt_of_le past, if_false, true_and]
    exact .inr ⟨forgotten, Nat.le_succ_of_le past⟩

theorem next_bounded (bounded : p.Bounded) : p.next.2.Bounded := by
  obtain ⟨current, stepped⟩ := p.next_eq
  rw [stepped]
  exact ⟨bounded.start, bounded.stop, bounded.moves⟩

end Bounded

theorem length_terms (p : Progression) (count : Nat) : (p.terms count).length = count := by
  simp [terms]

theorem getElem?_terms (p : Progression) (count k : Nat) :
    (p.terms count)[k]? = if k < count then some (p.start + k * p.step) else none := by
  unfold terms
  rw [List.getElem?_map]
  split
  · rename_i inside
    simp [inside]
  · rename_i outside
    simp [outside]

namespace Bounded

/-- The answers of a walk from a place on are the values of the places that follow, and nothing
once these are used up. -/
theorem advance (bounded : p.Bounded) {place : Nat} (stands : p.StandsAt place) (calls : Nat) :
    (p.advance calls).1 = (List.range' place calls).map (fun k => (p.terms p.count)[k]?) ∧
      (p.advance calls).2.StandsAt (place + calls) := by
  induction calls generalizing p place with
  | zero => exact ⟨rfl, stands⟩
  | succ calls inductionHypothesis =>
      obtain ⟨answered, stands'⟩ := bounded.next stands
      obtain ⟨answers, stands''⟩ := inductionHypothesis bounded.next_bounded stands'
      obtain ⟨current, stepped⟩ := p.next_eq
      have same : p.next.2.terms p.next.2.count = p.terms p.count := by
        rw [stepped]
        rfl
      rw [same] at answers
      constructor
      · change p.next.1 :: (p.next.2.advance calls).1 = _
        rw [answered, answers, List.range'_succ, List.map_cons, getElem?_terms]
      · rw [Nat.add_right_comm, Nat.add_assoc] at stands''
        exact stands''

theorem next_advance (bounded : p.Bounded) (stands : p.StandsAt 0) (calls : Nat) :
    (p.advance calls).2.next.1 = (p.terms p.count)[calls]? := by
  have stands' := (bounded.advance stands calls).2
  obtain ⟨current, walked⟩ := p.advance_eq calls
  rw [walked, Nat.zero_add] at stands'
  have bounded' : ({ p with current } : Progression).Bounded :=
    ⟨bounded.start, bounded.stop, bounded.moves⟩
  rw [walked, (bounded'.next stands').1, getElem?_terms]
  rfl

/-- A value is contained if it is the value of a place. -/
theorem contains_eq_true (bounded : p.Bounded) (value : Int) :
    p.contains value = true ↔ value ∈ p.terms p.count := by
  have places : value ∈ p.terms p.count ↔ ∃ k < p.count, p.start + k * p.step = value := by
    simp [terms]
  rw [places, contains_eq_true_iff]
  constructor
  · rintro ⟨along, before, quotient, product⟩
    rw [product, mul_comm, along_mul bounded.moves] at along
    obtain ⟨k, rfl⟩ := Int.eq_ofNat_of_zero_le along
    have reached : p.start + k * p.step = value := by
      rw [mul_comm, ← product]
      ring
    exact ⟨k, (bounded.lt_count_iff k).mpr (reached ▸ before), reached⟩
  · rintro ⟨k, counts, rfl⟩
    rw [add_sub_cancel_left, along_mul bounded.moves]
    exact ⟨Int.natCast_nonneg k, (bounded.lt_count_iff k).mp counts, Int.dvd_mul_left _ _⟩

end Bounded

theorem enumerates_terms (bounded : p.Bounded) :
    Enumerates p.start p.stop p.step (p.terms p.count) where
  value k inside := by simp [terms]
  extent k := by
    rw [length_terms]
    exact bounded.lt_count_iff k

theorem values_eq_terms (bounded : p.Bounded) (stands : p.StandsAt 0) :
    p.values = p.terms p.count := by
  have answers := (bounded.advance stands p.count).1
  have answered : (p.advance p.count).1 = (p.terms p.count).map some := by
    apply List.ext_getElem?
    intro k
    rw [answers, List.getElem?_map, List.getElem?_map, ← List.range_eq_range']
    by_cases inside : k < p.count
    · simp [inside, getElem?_terms]
    · simp [inside, getElem?_terms]
  rw [values, answered, List.filterMap_map]
  exact List.filterMap_some

/-- A progression between signed positions yields the stride over unbounded integers and then
nothing for good; at every point of the walk it counts that stride, and it contains what it yields.
The entry points answer the same count, as far as it is signed, and the same containment. -/
theorem enumerates_of_make {start stop step : Int} (signedStart : Word.Signed start)
    (signedStop : Word.Signed stop) (moves : step ≠ 0) :
    ∃ p values,
      make start stop step = .ok p ∧
      Enumerates start stop step values ∧
      p.values = values ∧
      (∀ calls, (p.advance calls).1 = (List.range calls).map fun k => values[k]?) ∧
      (∀ calls later, (p.advance calls).2.next.1 = none →
        (p.advance (calls + later)).2.next.1 = none) ∧
      (∀ calls, (p.advance calls).2.count = values.length) ∧
      (∀ value, p.contains value = true ↔ value ∈ values) ∧
      ∀ machine,
        Boundary.progressionLength start stop step machine =
          (min (values.length : Int) Word.greatest, machine) ∧
        ∀ value, Boundary.progressionContains start stop step value machine =
          (if p.contains value then 1 else 0, machine) := by
  let p : Progression := { start, stop, step, current := some start }
  have made : make start stop step = .ok p := if_neg moves
  have bounded : p.Bounded := ⟨signedStart, signedStop, moves⟩
  have stands : p.StandsAt 0 := .inl (by simp [p])
  refine ⟨p, p.terms p.count, made, enumerates_terms bounded, values_eq_terms bounded stands,
    ?_, ?_, ?_, bounded.contains_eq_true, ?_⟩
  · intro calls
    rw [(bounded.advance stands calls).1, List.range_eq_range']
  · intro calls later ended
    rw [bounded.next_advance stands, List.getElem?_eq_none_iff] at ended ⊢
    exact Nat.le_add_right_of_le ended
  · intro calls
    rw [count_advance, length_terms]
  · intro machine
    refine ⟨?_, fun value => ?_⟩
    · rw [length_terms, ← SliceSpec.signed_eq_min]
      simp only [Boundary.progressionLength, made]
      rfl
    · simp only [Boundary.progressionContains, made]
      rfl

/-- From the greatest position down by the least: behind the second value the next one would leave
the signed range, and there the stride is over as well. -/
theorem enumerates_of_make_edges :
    Word.Signed Word.greatest ∧ Word.Signed Word.least ∧ Word.least ≠ 0 ∧
      ∃ p, make Word.greatest Word.least Word.least = .ok p ∧
        p.values = [Word.greatest, -1] ∧
        (∀ calls, (p.advance calls).1 = (List.range calls).map fun k => [Word.greatest, -1][k]?) ∧
        (∀ calls, (p.advance calls).2.count = 2) ∧
        ∀ value, p.contains value = true ↔ value = Word.greatest ∨ value = -1 := by
  have signedStart : Word.Signed Word.greatest := ⟨by decide, by decide⟩
  have signedStop : Word.Signed Word.least := ⟨by decide, by decide⟩
  have moves : Word.least ≠ 0 := by decide
  obtain ⟨p, values, made, -, walked, answers, -, counted, contained, -⟩ :=
    enumerates_of_make signedStart signedStop moves
  have listed : values = [Word.greatest, -1] := by
    obtain rfl := Except.ok.inj made
    rw [← walked]
    decide
  subst listed
  refine ⟨signedStart, signedStop, moves, p, made, walked, answers, counted, fun value => ?_⟩
  rw [contained]
  simp

end Progression

end Underlay
