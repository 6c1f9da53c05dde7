import Mathlib.Tactic.Ring
import Underlay.Memory.Pool

/-!
# What carving does to the measures of a pool

A request is rounded up and added to what is used. If that does not fit, the capacity is doubled
until it does, and no further; so the new capacity is less than twice what is then used. A request
that fits is served without asking the system.
-/

namespace Underlay

theorem Word.dvd_roundUp (n unit : Nat) : unit ∣ roundUp n unit :=
  ⟨_, Nat.mul_comm _ _⟩

namespace Pool

/-- What a block of a size takes of the buffer. -/
def rounded (size : Nat) : Nat :=
  Word.roundUp size unit

theorem le_rounded (size : Nat) : size ≤ rounded size :=
  Word.le_roundUp size (by decide)

variable {p p' : Pool} {system : System} {size needed : Nat} {o o' : Observer}

/-- The enlarged capacity is the first double that is enough. -/
theorem least_of_enlarge {capacity enlarged : Nat}
    (found : enlarge capacity needed = some enlarged) :
    ∃ doublings, enlarged = capacity * 2 ^ doublings ∧
      ∀ fewer < doublings, capacity * 2 ^ fewer < needed := by
  fun_induction enlarge capacity needed with
  | case1 capacity fits =>
      obtain rfl := Option.some.inj found
      exact ⟨0, by simp, fun fewer below => absurd below (Nat.not_lt_zero fewer)⟩
  | case2 => cases found
  | case3 capacity short positive doubled inductionHypothesis =>
      obtain ⟨doublings, rfl, least⟩ := inductionHypothesis found
      refine ⟨doublings + 1, by ring, ?_⟩
      rintro (_ | fewer) below
      · simpa using short
      · have earlier := least fewer (Nat.lt_of_succ_lt_succ below)
        rwa [show capacity * 2 ^ (fewer + 1) = 2 * capacity * 2 ^ fewer by ring]
  | case4 => cases found

/-- What carving a block does to the measures of a pool. -/
structure Measured (p : Pool) (size : Nat) (p' : Pool) : Prop where
  used : p'.used = p.used + rounded size
  small : p'.used < Word.limit
  room : p'.used ≤ p'.capacity
  allocations : p'.allocations = p.allocations + 1
  stays : p'.used ≤ p.capacity → p'.capacity = p.capacity ∧ p'.growths = p.growths
  grows : p.capacity < p'.used → p'.growths = p.growths + 1 ∧
    ∃ doublings, p'.capacity = p.capacity * 2 ^ (doublings + 1) ∧
      p.capacity * 2 ^ doublings < p'.used

theorem measured_of_alloc {handle : Handle}
    (done : p.alloc system size o = (.ok (handle, p'), o')) : p.Measured size p' := by
  obtain ⟨small, -, room, rfl, ⟨fits, rfl, -⟩ | ⟨short, grows⟩⟩ := alloc_ok_cases done
  · exact ⟨rfl, small, fits, rfl, fun _ => ⟨rfl, rfl⟩,
      fun exceeds => absurd fits (Nat.not_le_of_lt exceeds)⟩
  · obtain ⟨capacity, event, enlarged, rfl, -⟩ := grow_ok_cases grows
    obtain ⟨enough, -⟩ := le_of_enlarge enlarged
    obtain ⟨doublings, doubled, least⟩ := least_of_enlarge enlarged
    refine ⟨rfl, small, enough, rfl, fun fits => absurd short (Nat.not_lt_of_le fits),
      fun _ => ⟨rfl, ?_⟩⟩
    cases doublings with
    | zero =>
        -- Without a double the capacity would have been enough before.
        rw [Nat.pow_zero, Nat.mul_one] at doubled
        omega
    | succ doublings => exact ⟨doublings, doubled, least doublings (Nat.lt_succ_self _)⟩

/-- A request that fits is served, whatever the system would say. -/
theorem alloc_of_room (fits : p.used + rounded size ≤ p.capacity)
    (small : p.used + rounded size < Word.limit) (system : System) (o : Observer) :
    ∃ handle p', p.alloc system size o = (.ok (handle, p'), o) ∧ p.Measured size p' := by
  have demanded : p.demand? size = some (p.used + rounded size) :=
    demand?_eq_some_iff.mpr ⟨rfl, small⟩
  have served : p.alloc system size o =
      (.ok ({ pool := p.id, offset := p.used, length := size, epoch := p.epoch },
        { p with used := p.used + rounded size, allocations := p.allocations + 1 }), o) := by
    simp only [alloc, demanded, Nat.not_lt_of_le fits, if_false]
    rfl
  exact ⟨_, _, served, measured_of_alloc served⟩

end Pool

end Underlay
