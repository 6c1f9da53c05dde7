import Mathlib.Order.Bounds.Basic
import Underlay.Proofs.Pools.Growth

/-!
# The loop that doubles a capacity

A pool without room for a request doubles its capacity until that is enough. `Doubling` is this
loop as it is gone through, turn by turn; a loop that never ends is in no such relation, and from
capacity zero none ends. From any other capacity it ends after 63 doubles at most. It ends with the
least double that is enough, or without one if that double is no size.
-/

namespace Underlay

/-- A double of something is no size any more after 64 times. -/
theorem Word.le_of_mul_two_pow_lt {size doublings : Nat} (positive : 0 < size)
    (below : size * 2 ^ doublings < limit) : doublings ≤ 63 := by
  have power : 2 ^ doublings < 2 ^ 64 :=
    Nat.lt_of_le_of_lt (Nat.le_mul_of_pos_left _ positive) below
  exact Nat.le_of_lt_succ ((Nat.pow_lt_pow_iff_right Nat.one_lt_two).mp power)

namespace Pool

variable {capacity needed turns double : Nat} {result : Option Nat}

/-- The loop from the capacity that it has reached: how many turns are left, and how it ends. -/
inductive Doubling (needed : Nat) : Nat → Nat → Option Nat → Prop where
  | enough {capacity : Nat} (fits : needed ≤ capacity) :
      Doubling needed capacity 0 (some capacity)
  | exceeded {capacity : Nat} (short : capacity < needed) (wide : Word.limit ≤ 2 * capacity) :
      Doubling needed capacity 0 none
  | doubled {capacity turns : Nat} {result : Option Nat} (short : capacity < needed)
      (narrow : 2 * capacity < Word.limit) (rest : Doubling needed (2 * capacity) turns result) :
      Doubling needed capacity (turns + 1) result

/-- The doubles of a capacity that are enough. -/
def sufficient (capacity needed : Nat) : Set Nat :=
  {double | needed ≤ double ∧ ∃ doublings, double = capacity * 2 ^ doublings}

/-! The loop ends, and how far it goes. -/

/-- A loop that ends has not started from zero, for zero is its own double. -/
theorem Doubling.positive (loop : Doubling needed capacity turns result) (asked : 0 < needed) :
    0 < capacity := by
  induction loop with
  | enough fits => exact Nat.lt_of_lt_of_le asked fits
  | exceeded short wide =>
      unfold Word.limit at wide
      omega
  | doubled short narrow rest inductionHypothesis => omega

theorem doubling_enlarge (positive : 0 < capacity) (needed : Nat) :
    ∃ turns, Doubling needed capacity turns (enlarge capacity needed) := by
  fun_induction enlarge capacity needed with
  | case1 capacity fits => exact ⟨0, .enough fits⟩
  | case2 => exact absurd positive (Nat.lt_irrefl 0)
  | case3 capacity short nonzero narrow inductionHypothesis =>
      obtain ⟨turns, rest⟩ := inductionHypothesis (by omega)
      exact ⟨turns + 1, .doubled (Nat.lt_of_not_le short) narrow rest⟩
  | case4 capacity short nonzero wide =>
      exact ⟨0, .exceeded (Nat.lt_of_not_le short) (Nat.le_of_not_lt wide)⟩

/-- The loop can end in one way only. -/
theorem Doubling.eq_enlarge (loop : Doubling needed capacity turns result) :
    result = enlarge capacity needed := by
  induction loop with
  | enough fits => rw [enlarge, if_pos fits]
  | exceeded short wide =>
      unfold Word.limit at wide
      rw [enlarge, if_neg (Nat.not_le_of_lt short), if_neg (by omega),
        if_neg (by unfold Word.limit; omega)]
  | doubled short narrow rest inductionHypothesis =>
      have positive := rest.positive (Nat.zero_lt_of_lt short)
      rw [enlarge, if_neg (Nat.not_le_of_lt short), if_neg (by omega), if_pos narrow]
      exact inductionHypothesis

/-- The loop ends from every capacity but zero, and from zero never. -/
theorem exists_doubling_iff (asked : 0 < needed) :
    (∃ turns result, Doubling needed capacity turns result) ↔ 0 < capacity := by
  constructor
  · rintro ⟨turns, result, loop⟩
    exact loop.positive asked
  · intro positive
    obtain ⟨turns, loop⟩ := doubling_enlarge positive needed
    exact ⟨turns, _, loop⟩

theorem Doubling.double_lt (loop : Doubling needed capacity turns result) :
    turns = 0 ∨ capacity * 2 ^ turns < Word.limit := by
  induction loop with
  | enough fits => exact .inl rfl
  | exceeded short wide => exact .inl rfl
  | @doubled capacity turns result short narrow rest inductionHypothesis =>
      right
      have moved : capacity * 2 ^ (turns + 1) = 2 * capacity * 2 ^ turns := by ring
      rw [moved]
      rcases inductionHypothesis with rfl | below
      · simpa using narrow
      · exact below

theorem Doubling.turns_le (loop : Doubling needed capacity turns result)
    (positive : 0 < capacity) : turns ≤ 63 := by
  rcases loop.double_lt with rfl | below
  · exact Nat.zero_le 63
  · exact Word.le_of_mul_two_pow_lt positive below

/-! What the loop ends with. -/

theorem le_of_mem_sufficient (member : double ∈ sufficient capacity needed) :
    capacity ≤ double := by
  obtain ⟨-, doublings, rfl⟩ := member
  exact Nat.le_mul_of_pos_right _ (Nat.two_pow_pos _)

theorem mem_sufficient_double (member : double ∈ sufficient capacity needed)
    (short : capacity < needed) : double ∈ sufficient (2 * capacity) needed := by
  obtain ⟨enough, doublings, rfl⟩ := member
  refine ⟨enough, ?_⟩
  cases doublings with
  | zero =>
      rw [Nat.pow_zero, Nat.mul_one] at enough
      exact absurd enough (Nat.not_le_of_lt short)
  | succ doublings => exact ⟨doublings, by ring⟩

theorem isLeast_of_enlarge (found : enlarge capacity needed = some double) :
    IsLeast (sufficient capacity needed) double := by
  obtain ⟨doublings, rfl, least⟩ := least_of_enlarge found
  refine ⟨⟨(le_of_enlarge found).1, doublings, rfl⟩, ?_⟩
  rintro other ⟨enough, more, rfl⟩
  have further : doublings ≤ more := by
    by_contra fewer
    exact absurd (least more (Nat.lt_of_not_le fewer)) (Nat.not_lt_of_le enough)
  exact Nat.mul_le_mul_left capacity (Nat.pow_le_pow_right Nat.two_pos further)

theorem eq_or_lt_of_enlarge (found : enlarge capacity needed = some double) :
    double = capacity ∨ double < Word.limit := by
  fun_induction enlarge capacity needed with
  | case1 capacity fits => exact .inl (Option.some.inj found).symm
  | case2 => cases found
  | case3 capacity short nonzero narrow inductionHypothesis =>
      right
      rcases inductionHypothesis found with rfl | below
      · exact narrow
      · exact below
  | case4 => cases found

theorem limit_le_of_enlarge (positive : 0 < capacity) (exceeded : enlarge capacity needed = none)
    (member : double ∈ sufficient capacity needed) : Word.limit ≤ double := by
  fun_induction enlarge capacity needed with
  | case1 => cases exceeded
  | case2 => exact absurd positive (Nat.lt_irrefl 0)
  | case3 capacity short nonzero narrow inductionHypothesis =>
      exact inductionHypothesis (by omega) exceeded
        (mem_sufficient_double member (Nat.lt_of_not_le short))
  | case4 capacity short nonzero wide =>
      have doubled := le_of_mem_sufficient
        (mem_sufficient_double member (Nat.lt_of_not_le short))
      exact Nat.le_trans (Nat.le_of_not_lt wide) doubled

theorem lt_limit_of_enlarge (short : capacity < needed)
    (found : enlarge capacity needed = some double) : double < Word.limit := by
  rcases eq_or_lt_of_enlarge found with rfl | below
  · exact absurd (le_of_enlarge found).1 (Nat.not_le_of_lt short)
  · exact below

theorem enlarge_eq_some_iff (positive : 0 < capacity) (short : capacity < needed) :
    enlarge capacity needed = some double ↔
      IsLeast (sufficient capacity needed) double ∧ double < Word.limit := by
  constructor
  · intro found
    exact ⟨isLeast_of_enlarge found, lt_limit_of_enlarge short found⟩
  · rintro ⟨least, below⟩
    cases found : enlarge capacity needed with
    | none =>
        have exceeds := limit_le_of_enlarge positive found least.1
        exact absurd below (Nat.not_lt_of_le exceeds)
    | some other => rw [(isLeast_of_enlarge found).unique least]

theorem enlarge_eq_none_iff (positive : 0 < capacity) (short : capacity < needed) :
    enlarge capacity needed = none ↔
      ∀ double ∈ sufficient capacity needed, Word.limit ≤ double := by
  constructor
  · intro exceeded double member
    exact limit_le_of_enlarge positive exceeded member
  · intro exceeds
    cases found : enlarge capacity needed with
    | none => rfl
    | some double =>
        have below := lt_limit_of_enlarge short found
        exact absurd (exceeds double (isLeast_of_enlarge found).1) (Nat.not_le_of_lt below)

/-! What growing makes of it. -/

theorem addressLimit_lt : addressLimit < Word.limit := by
  decide

/-- The failure of a loop that ended without a capacity. -/
def exhausted (needed : Nat) : Failure :=
  .raise .memory ("pool cannot grow to " ++ toString needed ++ " bytes") "pool_alloc"

variable {p : Pool} {system : System} {o : Observer}

/-- No other failure begins as this one does. -/
theorem raise_ne_exhausted {message function : String} (other : message.toList.head? ≠ some 'p')
    (needed : Nat) : Failure.raise .memory message function ≠ exhausted needed := by
  intro same
  have message := congrArg (fun failure => failure.message.toList.head?) same
  apply other
  simpa [Failure.raise, exhausted, String.toList_append] using message

theorem grow_of_none (exceeded : enlarge p.capacity needed = none) (system : System)
    (o : Observer) : (p.grow system needed o).1 = .error (exhausted needed) := by
  simp only [grow, exceeded, exhausted]

/-- A capacity that the loop ended with is got, or refused for a reason of its own. -/
theorem grow_of_some (found : enlarge p.capacity needed = some double) (system : System)
    (o : Observer) :
    ((double ≤ addressLimit ∧ system.grants double = true) ∧
      ∃ p', (p.grow system needed o).1 = .ok p' ∧ p'.capacity = double) ∨
    (¬(double ≤ addressLimit ∧ system.grants double = true) ∧
      ∃ failure, (p.grow system needed o).1 = .error failure ∧ failure ≠ exhausted needed) := by
  by_cases admitted : double ≤ addressLimit
  · by_cases granted : system.grants double = true
    · refine .inl ⟨⟨admitted, granted⟩, ?_⟩
      simp only [grow, found, admitBuffer, admitted, granted, if_true]
      exact ⟨_, rfl, rfl⟩
    · refine .inr ⟨fun both => granted both.2, ?_⟩
      simp only [grow, found, admitBuffer, admitted, granted, if_true]
      exact ⟨_, rfl, raise_ne_exhausted (by simp [String.toList_append]) needed⟩
  · refine .inr ⟨fun both => admitted both.1, ?_⟩
    simp only [grow, found, admitBuffer, admitted, if_false]
    exact ⟨_, rfl, raise_ne_exhausted (by simp [String.toList_append]) needed⟩

theorem grow_eq_exhausted_iff :
    (p.grow system needed o).1 = .error (exhausted needed) ↔ enlarge p.capacity needed = none := by
  constructor
  · intro failed
    cases found : enlarge p.capacity needed with
    | none => rfl
    | some double =>
        rcases grow_of_some found system o with ⟨-, p', grown, -⟩ | ⟨-, failure, refused, other⟩
        · cases grown.symm.trans failed
        · exact absurd (Except.error.inj (refused.symm.trans failed)) other
  · intro exceeded
    exact grow_of_none exceeded system o

theorem grow_eq_ok_iff :
    (∃ p', (p.grow system needed o).1 = .ok p' ∧ p'.capacity = double) ↔
      enlarge p.capacity needed = some double ∧ double ≤ addressLimit ∧
        system.grants double = true := by
  constructor
  · rintro ⟨p', grown, rfl⟩
    cases found : enlarge p.capacity needed with
    | none => cases grown.symm.trans (grow_of_none found system o)
    | some double =>
        rcases grow_of_some found system o with ⟨got, p'', also, rfl⟩ | ⟨-, failure, refused, -⟩
        · obtain rfl : p' = p'' := Except.ok.inj (grown.symm.trans also)
          exact ⟨rfl, got⟩
        · cases grown.symm.trans refused
  · rintro ⟨found, got⟩
    rcases grow_of_some found system o with ⟨-, grown⟩ | ⟨refused, -⟩
    · exact grown
    · exact absurd got refused

/-- How a pool that is asked for more than it has comes to the capacity that it grows to. -/
structure GrowsToLeast (p : Pool) (needed : Nat) : Prop where
  ends : ∃ turns ≤ 63, ∃ result, Doubling needed p.capacity turns result
  least {turns : Nat} {result : Option Nat} (loop : Doubling needed p.capacity turns result)
    (double : Nat) : result = some double ↔
      IsLeast (sufficient p.capacity needed) double ∧ double < Word.limit
  exceeded {turns : Nat} {result : Option Nat} (loop : Doubling needed p.capacity turns result) :
    result = none ↔ ∀ double ∈ sufficient p.capacity needed, Word.limit ≤ double
  /-- The loop is what this failure comes from, and nothing else is. -/
  refused (system : System) (o : Observer) :
    (p.grow system needed o).1 = .error (exhausted needed) ↔
      ∀ double ∈ sufficient p.capacity needed, Word.limit ≤ double
  /-- The capacity that the loop ended with is the one that is asked of the system. -/
  grown (system : System) (o : Observer) (double : Nat) :
    (∃ p', (p.grow system needed o).1 = .ok p' ∧ p'.capacity = double) ↔
      IsLeast (sufficient p.capacity needed) double ∧ double ≤ addressLimit ∧
        system.grants double = true

theorem growsToLeast (positive : 0 < p.capacity) (short : p.capacity < needed) :
    p.GrowsToLeast needed where
  ends := by
    obtain ⟨turns, result, loop⟩ := (exists_doubling_iff (Nat.zero_lt_of_lt short)).mpr positive
    exact ⟨turns, loop.turns_le positive, result, loop⟩
  least loop double := by
    rw [loop.eq_enlarge]
    exact enlarge_eq_some_iff positive short
  exceeded loop := by
    rw [loop.eq_enlarge]
    exact enlarge_eq_none_iff positive short
  refused system o := by
    rw [grow_eq_exhausted_iff]
    exact enlarge_eq_none_iff positive short
  grown system o double := by
    rw [grow_eq_ok_iff, enlarge_eq_some_iff positive short, and_assoc]
    refine and_congr_right fun least => ?_
    exact ⟨fun both => both.2, fun got => ⟨Nat.lt_of_le_of_lt got.1 addressLimit_lt, got⟩⟩

end Pool

end Underlay
