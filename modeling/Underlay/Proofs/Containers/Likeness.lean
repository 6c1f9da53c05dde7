import Underlay.Proofs.Containers.Calls

/-!
# Equality of sequences is lifted from their elements

A position tells two sequences apart if only one of them is empty there, or if their elements are
not alike. Comparing goes along the positions through the first that tells them apart, so two
sequences are equal if no position does, and what holds of the comparison of elements at every
position is passed on to the sequences.
-/

namespace Underlay

namespace Sequence

variable {ε : Type}

/-- The elements at a position that is filled in both sequences. -/
def pair? (a b : Sequence ε) (index : Nat) : Option (ε × ε) := do
  return (← a.at? index, ← b.at? index)

/-- Whether the position tells the sequences apart. -/
def differsAt (a b : Sequence ε) (alike : ε → ε → Bool) (index : Nat) : Bool :=
  (a.at? index).isSome != (b.at? index).isSome ||
    (a.pair? b index).any fun pair => !alike pair.1 pair.2

section Comparing

variable {a b c : Sequence ε} {alike : ε → ε → Bool}

/-- A position does not tell sequences apart that are both empty there or hold like elements. -/
theorem differsAt_eq_false_iff {index : Nat} :
    a.differsAt b alike index = false ↔
      (a.at? index = none ↔ b.at? index = none) ∧
        ∀ x y, a.at? index = some x → b.at? index = some y → alike x y = true := by
  unfold differsAt pair?
  cases a.at? index <;> cases b.at? index <;> simp

theorem agree_of_differs {index : Nat} (differs : a.differsAt b alike index = true)
    (count : Nat) :
    (a.agree b alike index (count + 1)).1 = false ∧
      comparisons (a.agree b alike index (count + 1)).2 = [index].filterMap (a.pair? b) := by
  unfold differsAt pair? at differs
  unfold agree pair?
  cases left : a.at? index with
  | none => cases right : b.at? index <;> simp_all
  | some x => cases right : b.at? index <;> simp_all

theorem agree_of_like {index : Nat} (like : a.differsAt b alike index = false) (count : Nat) :
    (a.agree b alike index (count + 1)).1 = (a.agree b alike (index + 1) count).1 ∧
      comparisons (a.agree b alike index (count + 1)).2 =
        [index].filterMap (a.pair? b) ++ comparisons (a.agree b alike (index + 1) count).2 := by
  unfold differsAt pair? at like
  rw [agree]
  unfold pair?
  cases left : a.at? index with
  | none => cases right : b.at? index <;> simp_all
  | some x => cases right : b.at? index <;> simp_all

/-- Two sequences agree at positions none of which tells them apart. What is compared are the
pairs at these positions through the first that does. -/
theorem agree_eq (a b : Sequence ε) (alike : ε → ε → Bool) (index count : Nat) :
    (a.agree b alike index count).1 = (List.range' index count).all (!a.differsAt b alike ·) ∧
      comparisons (a.agree b alike index count).2 =
        (throughFirst (a.differsAt b alike) (List.range' index count)).filterMap (a.pair? b) := by
  induction count generalizing index with
  | zero => exact ⟨rfl, rfl⟩
  | succ count inductionHypothesis =>
      obtain ⟨same, compared⟩ := inductionHypothesis (index + 1)
      rw [List.range'_succ, List.all_cons]
      cases differs : a.differsAt b alike index with
      | true =>
          rw [throughFirst_cons_of_pos _ differs]
          exact agree_of_differs differs count
      | false =>
          obtain ⟨answer, calls⟩ := agree_of_like differs count
          rw [throughFirst_cons_of_neg _ differs, answer, calls, same, compared,
            ← List.filterMap_append]
          exact ⟨rfl, rfl⟩

/-- Sequences are equal if no position tells them apart. -/
theorem equal_eq_true_iff :
    (a.equal b alike).1 = true ↔
      a.size = b.size ∧ ∀ index < a.size, a.differsAt b alike index = false := by
  unfold Sequence.equal
  by_cases sizes : a.size = b.size
  · rw [if_pos sizes]
    simp only [sizes, true_and]
    rw [← sizes, (a.agree_eq b alike 0 a.size).1, ← List.range_eq_range']
    simp
  · simp [sizes]

theorem comparisons_equal_of_size (sizes : a.size = b.size) :
    comparisons (a.equal b alike).2 =
      (throughFirst (a.differsAt b alike) (List.range a.size)).filterMap (a.pair? b) := by
  unfold Sequence.equal
  rw [if_pos sizes, List.range_eq_range', ← (a.agree_eq b alike 0 a.size).2]
  rfl

theorem equal_refl (reflexive : ∀ x, alike x x = true) (a : Sequence ε) :
    (a.equal a alike).1 = true := by
  apply equal_eq_true_iff.mpr
  refine ⟨rfl, ?_⟩
  intro index _
  apply differsAt_eq_false_iff.mpr
  refine ⟨Iff.rfl, ?_⟩
  intro x y left right
  rw [left, Option.some.injEq] at right
  rw [right]
  exact reflexive y

theorem equal_symm (symmetric : ∀ x y, alike x y = true → alike y x = true)
    (same : (a.equal b alike).1 = true) : (b.equal a alike).1 = true := by
  obtain ⟨sizes, every⟩ := equal_eq_true_iff.mp same
  apply equal_eq_true_iff.mpr
  refine ⟨sizes.symm, ?_⟩
  intro index inside
  obtain ⟨holes, like⟩ := differsAt_eq_false_iff.mp (every index (sizes ▸ inside))
  apply differsAt_eq_false_iff.mpr
  refine ⟨holes.symm, ?_⟩
  intro y x right left
  exact symmetric x y (like x y left right)

theorem equal_trans
    (transitive : ∀ x y z, alike x y = true → alike y z = true → alike x z = true)
    (same : (a.equal b alike).1 = true) (same' : (b.equal c alike).1 = true) :
    (a.equal c alike).1 = true := by
  obtain ⟨sizes, every⟩ := equal_eq_true_iff.mp same
  obtain ⟨sizes', every'⟩ := equal_eq_true_iff.mp same'
  apply equal_eq_true_iff.mpr
  refine ⟨sizes.trans sizes', ?_⟩
  intro index inside
  obtain ⟨holes, like⟩ := differsAt_eq_false_iff.mp (every index inside)
  obtain ⟨holes', like'⟩ := differsAt_eq_false_iff.mp (every' index (sizes ▸ inside))
  apply differsAt_eq_false_iff.mpr
  refine ⟨holes.trans holes', ?_⟩
  intro x z left right
  cases middle : b.at? index with
  | none =>
      rw [holes'.mp middle] at right
      cases right
  | some y => exact transitive x y z (like x y left middle) (like' y z middle right)

end Comparing

/-- Sequences are equal if they have the same size, the same empty positions, and like elements at
all others. Filled pairs are compared in order through the first position that tells the sequences
apart, and none if the sizes differ. Equality is reflexive, symmetric or transitive if the
comparison is. -/
theorem equal_lifted (alike : ε → ε → Bool) :
    (∀ a b : Sequence ε, (a.equal b alike).1 = true ↔
      a.size = b.size ∧
        (∀ index < a.size, a.at? index = none ↔ b.at? index = none) ∧
        ∀ index < a.size, ∀ x y, a.at? index = some x → b.at? index = some y →
          alike x y = true) ∧
    (∀ a b : Sequence ε, comparisons (a.equal b alike).2 =
      if a.size = b.size then
        (throughFirst (a.differsAt b alike) (List.range a.size)).filterMap (a.pair? b)
      else
        []) ∧
    ((∀ x, alike x x = true) → ∀ a : Sequence ε, (a.equal a alike).1 = true) ∧
    ((∀ x y, alike x y = true → alike y x = true) →
      ∀ a b : Sequence ε, (a.equal b alike).1 = true → (b.equal a alike).1 = true) ∧
    ((∀ x y z, alike x y = true → alike y z = true → alike x z = true) →
      ∀ a b c : Sequence ε, (a.equal b alike).1 = true → (b.equal c alike).1 = true →
        (a.equal c alike).1 = true) := by
  refine ⟨?_, ?_, equal_refl, fun symmetric a b => equal_symm symmetric,
    fun transitive a b c => equal_trans transitive⟩
  · intro a b
    rw [equal_eq_true_iff]
    simp only [differsAt_eq_false_iff, imp_and, forall_and]
  · intro a b
    split
    next sizes => exact comparisons_equal_of_size sizes
    next sizes =>
        unfold Sequence.equal
        rw [if_neg sizes]
        rfl

/-- Numbers compared modulo ten: the comparison is an equivalence, and so is equality. Where the
third position tells two sequences apart, the fourth is not compared. -/
theorem equal_lifted_modulo_ten :
    let alike : Nat → Nat → Bool := fun x y => x % 10 == y % 10
    let a := ofSlots "sparse" #[some 1, none, some 2, some 3]
    let b := ofSlots "sparse" #[some 11, none, some 12, some 13]
    let c := ofSlots "sparse" #[some 21, none, some 2, some 23]
    let d := ofSlots "sparse" #[some 11, none, some 7, some 13]
    (∀ x, alike x x = true) ∧
      (∀ x y, alike x y = true → alike y x = true) ∧
      (∀ x y z, alike x y = true → alike y z = true → alike x z = true) ∧
      (a.equal a alike).1 = true ∧ (b.equal a alike).1 = true ∧ (a.equal c alike).1 = true ∧
      (a.equal d alike).1 ≠ true ∧
      comparisons (a.equal d alike).2 = [(1, 11), (2, 7)] := by
  intro alike a b c d
  obtain ⟨same_iff, compared, reflexive, symmetric, transitive⟩ := equal_lifted alike
  have refl : ∀ x, alike x x = true := by
    intro x
    simp [alike]
  have symm : ∀ x y, alike x y = true → alike y x = true := by
    intro x y like
    simp only [alike, beq_iff_eq] at *
    exact like.symm
  have trans : ∀ x y z, alike x y = true → alike y z = true → alike x z = true := by
    intro x y z like like'
    simp only [alike, beq_iff_eq] at *
    exact like.trans like'
  refine ⟨refl, symm, trans, reflexive refl a, symmetric symm a b rfl,
    transitive trans a b c rfl rfl, ?_, compared a d⟩
  intro same
  have like := ((same_iff a d).mp same).2.2 2 (by decide) 2 7 rfl rfl
  exact absurd like (by decide)

end Sequence

end Underlay
