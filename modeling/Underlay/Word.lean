/-!
Bounds of the machine word. Sizes and counts are natural numbers below `Word.limit`, signed
positions are integers from `Word.least` to `Word.greatest`. Signed arithmetic that would leave
this range stops at its end; unsigned arithmetic that would leave the word is refused by
`Word.fit?` or wraps by `Word.wrap`, as each operation says.
-/

namespace Underlay.Word

/-- One more than the greatest size, `2 ^ 64`. -/
def limit : Nat := 0x10000000000000000

/-- One more than the greatest size that half a word holds, `2 ^ 32`. -/
def halfLimit : Nat := 0x100000000

/-- The greatest signed position, `2 ^ 63 - 1`. -/
def greatest : Int := 0x7FFFFFFFFFFFFFFF

/-- The least signed position, `-2 ^ 63`. -/
def least : Int := -0x8000000000000000

/-- The signed position nearest to an integer. -/
def saturate (i : Int) : Int :=
  if i < least then least else if greatest < i then greatest else i

/-- A length as a signed position. -/
def signed (length : Nat) : Int :=
  saturate length

/-- The size nearest to a number. -/
def saturateSize (n : Nat) : Nat :=
  min n (limit - 1)

/-- The number itself if it is a size. -/
def fit? (n : Nat) : Option Nat :=
  if n < limit then some n else none

/-- The size that agrees with the number modulo the word. -/
def wrap (n : Nat) : Nat :=
  n % limit

/-- The least multiple of `unit` that is not below `n`. -/
def roundUp (n unit : Nat) : Nat :=
  (n + unit - 1) / unit * unit

theorem saturate_eq_self {i : Int} (low : least ≤ i) (high : i ≤ greatest) : saturate i = i := by
  unfold saturate
  split
  · omega
  · split <;> omega

theorem saturateSize_eq_self {n : Nat} (below : n < limit) : saturateSize n = n := by
  unfold saturateSize
  omega

theorem saturate_mem (i : Int) : least ≤ saturate i ∧ saturate i ≤ greatest := by
  unfold saturate least greatest
  split
  · omega
  · split <;> omega

theorem saturate_neg_iff {i : Int} : saturate i < 0 ↔ i < 0 := by
  unfold saturate least greatest
  split
  · omega
  · split <;> omega

theorem fit?_eq_some {n m : Nat} : fit? n = some m ↔ n = m ∧ n < limit := by
  unfold fit?
  split
  · simp_all
  · simp only [reduceCtorEq, false_iff]
    omega

theorem le_roundUp (n : Nat) {unit : Nat} (positive : 0 < unit) : n ≤ roundUp n unit := by
  unfold roundUp
  have division := Nat.div_add_mod (n + unit - 1) unit
  have remainder := Nat.mod_lt (n + unit - 1) positive
  rw [Nat.mul_comm] at division
  omega

end Underlay.Word
