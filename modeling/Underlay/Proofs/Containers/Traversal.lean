import Underlay.Proofs.Containers.Materialization

/-!
# All traversals see the same elements

Visiting, searching, rendering and slicing a sequence are loops of their own, and each treats an
empty position in its own way: it is passed over, passed over without a comma, or refused. What
joins them is the list of filled positions. Every loop is compared with it from any position on,
so that what was done before does not matter.
-/

namespace Underlay

namespace Sequence

variable {ε : Type}

/-- The filled ones among `count` positions from `index` on, with their elements. -/
def filled (s : Sequence ε) (index count : Nat) : List (Nat × ε) :=
  (List.range' index count).filterMap fun position => (s.at? position).map (position, ·)

/-- The elements that are visited, in their order. -/
def elements (s : Sequence ε) : List ε :=
  s.enumerate.1.map Prod.snd

section Loops

variable {s : Sequence ε} {index : Nat}

@[simp]
theorem filled_zero (s : Sequence ε) (index : Nat) : s.filled index 0 = [] := rfl

theorem filled_succ_of_empty (empty : s.at? index = none) (count : Nat) :
    s.filled index (count + 1) = s.filled (index + 1) count := by
  simp [filled, List.range'_succ, empty]

theorem filled_succ_of_filled {e : ε} (here : s.at? index = some e) (count : Nat) :
    s.filled index (count + 1) = (index, e) :: s.filled (index + 1) count := by
  simp [filled, List.range'_succ, here]

theorem mem_filled {count position : Nat} {e : ε} :
    (position, e) ∈ s.filled index count ↔
      (index ≤ position ∧ position < index + count) ∧ s.at? position = some e := by
  simp only [filled, List.mem_filterMap, List.mem_range'_1, Option.map_eq_some_iff, Prod.mk.injEq]
  constructor
  · rintro ⟨_, within, _, standing, rfl, rfl⟩
    exact ⟨within, standing⟩
  · rintro ⟨within, standing⟩
    exact ⟨position, within, e, standing, rfl, rfl⟩

theorem ascending_filled (s : Sequence ε) (index count : Nat) :
    ((s.filled index count).map Prod.fst).Pairwise (· < ·) := by
  apply List.pairwise_map.mpr
  apply (List.pairwise_lt_range' (s := index) (n := count) 1).filterMap
  intro earlier later before entry kept entry' kept'
  obtain ⟨_, -, rfl⟩ := Option.map_eq_some_iff.mp kept
  obtain ⟨_, -, rfl⟩ := Option.map_eq_some_iff.mp kept'
  exact before

theorem length_filled (s : Sequence ε) (index count : Nat) :
    (s.filled index count).length =
      (List.range' index count).countP fun position => (s.at? position).isSome := by
  simp [filled, List.length_filterMap_eq_countP]

theorem map_snd_filled (s : Sequence ε) (index count : Nat) :
    (s.filled index count).map Prod.snd = (List.range' index count).filterMap s.at? := by
  rw [filled, List.map_filterMap]
  congr 1
  funext position
  rw [Option.map_map]
  exact Option.map_id_apply

/-- Visiting goes over the filled positions, and calls for each of them. -/
theorem visitAll_eq (s : Sequence ε) (index count : Nat) :
    (s.visitAll index count).1 = s.filled index count ∧
      visits (s.visitAll index count).2 = s.filled index count := by
  induction count generalizing index with
  | zero => exact ⟨rfl, rfl⟩
  | succ count inductionHypothesis =>
      obtain ⟨seen, called⟩ := inductionHypothesis (index + 1)
      cases here : s.at? index with
      | none =>
          simp only [visitAll, here, filled_succ_of_empty here, visits_at]
          exact ⟨seen, called⟩
      | some e =>
          simp only [visitAll, here, filled_succ_of_filled here, visits_at, visits_visit, seen,
            called, and_self]

/-- A search compares the elements at filled positions through the first one found. -/
theorem search_eq (s : Sequence ε) (equal : ε → ε → Bool) (target : ε) (index count : Nat) :
    (s.search equal target index count).1 =
        ((s.filled index count).map Prod.snd).any (equal · target) ∧
      comparisons (s.search equal target index count).2 =
        (throughFirst (equal · target) ((s.filled index count).map Prod.snd)).map (·, target) := by
  induction count generalizing index with
  | zero => exact ⟨rfl, rfl⟩
  | succ count inductionHypothesis =>
      obtain ⟨found, compared⟩ := inductionHypothesis (index + 1)
      cases here : s.at? index with
      | none =>
          simp only [search, here, filled_succ_of_empty here, comparisons_at]
          exact ⟨found, compared⟩
      | some e =>
          rw [filled_succ_of_filled here, List.map_cons, List.any_cons]
          simp only [search, here]
          cases like : equal e target with
          | true =>
              rw [throughFirst_cons_of_pos (equal · target) like]
              exact ⟨rfl, rfl⟩
          | false =>
              rw [throughFirst_cons_of_neg (equal · target) like, List.map_cons, ← compared]
              exact ⟨found, rfl⟩

theorem intercalate_cons_eq_join (separator first : String) (rest : List String) :
    separator.intercalate (first :: rest) =
      first ++ String.join (rest.map (separator ++ ·)) := by
  induction rest generalizing first with
  | nil => simp
  | cons second rest inductionHypothesis =>
      rw [String.intercalate_cons_cons, inductionHypothesis, List.map_cons, String.join_cons,
        String.append_assoc, String.append_assoc]

section Rendering

variable (s : Sequence ε) (shown : ε → String)

/-- Behind an element, every further one is set off. -/
theorem renderAll_of_shown (text : String) (index count : Nat) :
    (s.renderAll shown text false index count).1 =
      text ++ String.join
        (((s.filled index count).map fun entry => shown entry.2).map (", " ++ ·)) := by
  induction count generalizing index text with
  | zero => simp [renderAll]
  | succ count inductionHypothesis =>
      cases here : s.at? index with
      | none =>
          simp only [renderAll, here, filled_succ_of_empty here]
          exact inductionHypothesis text (index + 1)
      | some e =>
          simp only [renderAll, here, filled_succ_of_filled here, inductionHypothesis,
            List.map_cons, String.join_cons, Bool.false_eq_true, if_false, String.append_assoc]

/-- Empty positions in front set nothing off. -/
theorem renderAll_of_first (text : String) (index count : Nat) :
    (s.renderAll shown text true index count).1 =
      text ++ ", ".intercalate ((s.filled index count).map fun entry => shown entry.2) := by
  induction count generalizing index with
  | zero => simp [renderAll]
  | succ count inductionHypothesis =>
      cases here : s.at? index with
      | none =>
          simp only [renderAll, here, filled_succ_of_empty here]
          exact inductionHypothesis (index + 1)
      | some e =>
          -- the flag falls here, so the rest is no case of the induction hypothesis
          simp only [renderAll, here, filled_succ_of_filled here, renderAll_of_shown,
            List.map_cons, intercalate_cons_eq_join, if_true, String.append_assoc]

end Rendering

end Loops

theorem enumerate_eq (s : Sequence ε) : s.enumerate.1 = s.filled 0 s.size :=
  (s.visitAll_eq 0 s.size).1

theorem elements_eq (s : Sequence ε) : s.elements = (s.filled 0 s.size).map Prod.snd := by
  rw [elements, enumerate_eq]

/-- The slice that leaves out every part visits the positions from the first on. -/
theorem indices_of_full {length : Nat} {slice : Slice}
    (resolved : SliceSpec.full.resolve length = .ok slice) :
    slice.indices = List.range (min length Word.greatest.toNat) := by
  have visits := SliceSpec.visits_of_resolve resolved
  have start : SliceSpec.full.unboundedStart (min (length : Int) Word.greatest) = 0 := rfl
  have stop : SliceSpec.full.unboundedStop (min (length : Int) Word.greatest) =
      min (length : Int) Word.greatest := rfl
  have step : SliceSpec.full.step.getD 1 = 1 := rfl
  rw [start, stop, step] at visits
  apply List.ext_getElem
  · apply eq_of_forall_lt_iff
    intro place
    rw [visits.extent place, List.length_range]
    unfold Precedes Word.greatest
    simp only [Int.zero_lt_one, if_true]
    omega
  · intro place inside _
    have placed := visits.place place inside
    rw [List.getElem_range]
    omega

theorem sliceRoom_full (s : Sequence ε) :
    s.sliceRoom .full = referenceSize * min s.size Word.greatest.toNat := by
  obtain ⟨slice, resolved⟩ : ∃ slice, SliceSpec.full.resolve s.size = .ok slice :=
    SliceSpec.exists_resolve one_ne_zero s.size
  rw [sliceRoom_of_resolve resolved, ← SliceSpec.length_indices_of_resolve resolved,
    indices_of_full resolved, List.length_range]

/-- A slice takes no more positions than a signed position can tell apart, but for so many there
would be no room. -/
theorem reserves_sliceRoom_full (s : Sequence ε) (system : System) :
    system.reserves (s.sliceRoom .full) = system.reserves (referenceSize * s.size) := by
  rw [sliceRoom_full]
  by_cases whole : s.size ≤ Word.greatest.toNat
  · rw [Nat.min_eq_left whole]
  · unfold Word.greatest at whole
    rw [System.not_reserves_of_greatest_lt, System.not_reserves_of_greatest_lt] <;>
      (unfold referenceSize Word.greatest; omega)

theorem slice_full_eq_ok_iff {s : Sequence ε} {system : System}
    (room : system.reserves (referenceSize * s.size) = true) (elements : List ε) :
    (s.slice .full).1 = .ok elements ↔
      (∀ index < s.size, (s.at? index).isSome) ∧ elements = s.elements := by
  have whole : min s.size Word.greatest.toNat = s.size := by
    by_contra beyond
    refine absurd room (Bool.not_eq_true _ ▸ System.not_reserves_of_greatest_lt ?_)
    unfold referenceSize Word.greatest at *
    omega
  obtain ⟨slice, resolved⟩ : ∃ slice, SliceSpec.full.resolve s.size = .ok slice :=
    SliceSpec.exists_resolve one_ne_zero s.size
  rw [slice_eq resolved, indices_of_full resolved, whole, gather_eq_ok_iff, map_eq_map_some_iff,
    elements_eq, map_snd_filled, List.range_eq_range']
  simp

/-- What the traversals of a sequence tell of its elements. -/
structure Traversed (s : Sequence ε) : Prop where
  visited : ∀ index e, (index, e) ∈ s.enumerate.1 ↔ index < s.size ∧ s.at? index = some e
  /-- No position is visited twice or out of order. -/
  ascending : (s.enumerate.1.map Prod.fst).Pairwise (· < ·)
  /-- Every visit is a call, and the calls for visits are those. -/
  called : visits s.enumerate.2 = s.enumerate.1
  counted : s.enumerate.1.length = (List.range s.size).countP fun index => (s.at? index).isSome
  found : ∀ equal target, (s.contains equal target).1 = true ↔
    ∃ e ∈ s.elements, equal e target = true
  compared : ∀ equal target, comparisons (s.contains equal target).2 =
    (throughFirst (equal · target) s.elements).map (·, target)
  rendered : ∀ shown, (s.render shown).1 = "[" ++ ", ".intercalate (s.elements.map shown) ++ "]"
  /-- The whole slice needs room for a reference to every position. -/
  sliced : ∀ system : System, system.reserves (referenceSize * s.size) = true →
    ∃ result calls, s.materialize system .full = .reached (result, calls) ∧
      ∀ elements, result = .ok elements ↔
        (∀ index < s.size, (s.at? index).isSome) ∧ elements = s.elements
  ended : ∀ system : System, system.reserves (referenceSize * s.size) = false →
    s.materialize system .full = .aborted

/-- Visiting, searching, rendering and slicing as a whole see the same elements. -/
theorem traversals_agree (s : Sequence ε) : s.Traversed where
  visited index e := by
    rw [enumerate_eq, mem_filled]
    simp
  ascending := by
    rw [enumerate_eq]
    exact s.ascending_filled 0 s.size
  called := by
    rw [enumerate_eq]
    exact (s.visitAll_eq 0 s.size).2
  counted := by
    rw [enumerate_eq, length_filled, List.range_eq_range']
  found equal target := by
    rw [elements_eq, ← List.any_eq_true]
    exact Bool.eq_iff_iff.mp (s.search_eq equal target 0 s.size).1
  compared equal target := by
    rw [elements_eq]
    exact (s.search_eq equal target 0 s.size).2
  rendered shown := by
    have text := s.renderAll_of_first shown "[" 0 s.size
    rw [elements_eq, List.map_map]
    exact congrArg (· ++ "]") text
  sliced system room :=
    ⟨_, _, System.reserving_of_reserves ((reserves_sliceRoom_full s system).trans room),
      slice_full_eq_ok_iff room⟩
  ended system beyond :=
    System.reserving_of_not_reserves ((reserves_sliceRoom_full s system).trans beyond)

/-- Every one of `2 ^ 60` positions is filled, but there is no slice of them all. -/
theorem not_sliced_of_filled :
    let s : Sequence Nat := { typeName := "sequence", size := 2 ^ 60, at? := fun _ => some 7 }
    let system : System := { grants := fun _ => true }
    (∀ index < s.size, (s.at? index).isSome) ∧
      ∀ elements calls, s.materialize system .full ≠ .reached (.ok elements, calls) := by
  intro s system
  have beyond : system.reserves (s.sliceRoom .full) = false := by
    rw [reserves_sliceRoom_full]
    decide +kernel
  have aborted : s.materialize system .full = .aborted := System.reserving_of_not_reserves beyond
  refine ⟨fun _ _ => rfl, fun elements calls => ?_⟩
  rw [aborted]
  exact fun reached => nomatch reached

/-- Two elements with empty positions before, between and behind them: they are shown with one
comma, the second is found by the second comparison, and there is no full slice. -/
theorem traversals_agree_sparse :
    let s := ofSlots "sparse" #[none, some 3, none, some 4, none]
    s.elements = [3, 4] ∧
      (s.render toString).1 = "[" ++ ", ".intercalate ["3", "4"] ++ "]" ∧
      comparisons (s.contains (· == ·) 4).2 = [(3, 4), (4, 4)] ∧
      ∃ result calls, s.materialize {} .full = .reached (result, calls) ∧
        ∀ elements, result ≠ .ok elements := by
  intro s
  have traversed : s.Traversed := traversals_agree s
  refine ⟨rfl, traversed.rendered toString, traversed.compared (· == ·) 4, ?_⟩
  obtain ⟨result, calls, reached, sliced⟩ := traversed.sliced {} (by decide)
  refine ⟨result, calls, reached, fun elements made => ?_⟩
  exact absurd (((sliced elements).mp made).1 0 (by decide)) (by decide)

end Sequence

end Underlay
