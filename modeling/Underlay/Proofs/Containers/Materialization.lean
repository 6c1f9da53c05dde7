import Underlay.Proofs.Containers.Calls
import Underlay.Proofs.Slices.Normalization

/-!
# Elements by index and by slice

A walk along a slice collects what stands at its positions and gives up at the first empty one, so
its result and its lookups are told by the list of positions alone. An index reaches a position
without a walk; what is found there is what every slice over that position has collected.
-/

namespace Underlay

/-- Where an index lands in a sequence of `length` elements; a negative one counts from the end. -/
def landing (index : Int) (length : Nat) : Int :=
  if index < 0 then index + length else index

theorem landing_mem_iff {index : Int} {length : Nat} :
    0 ≤ landing index length ∧ landing index length < length ↔
      -(length : Int) ≤ index ∧ index < length := by
  unfold landing
  split <;> omega

/-- An index resolves to where it lands, and is refused if that is outside. -/
theorem resolveIndex_eq {length : Nat} (representable : (length : Int) ≤ Word.greatest)
    (index : Int) :
    resolveIndex index length =
      if 0 ≤ landing index length ∧ landing index length < length then
        .ok (landing index length).toNat
      else
        .error (.raise .index
          ("index " ++ toString index ++ " out of range for length " ++ toString length)
          "normalize_index") := by
  have whole : Word.signed length = length := by
    rw [SliceSpec.signed_eq_min]
    exact min_eq_left representable
  unfold resolveIndex landing
  rw [whole]
  by_cases negative : index < 0
  · simp only [negative, if_true]
    by_cases reaches : 0 ≤ index + (length : Int)
    · have low : Word.least ≤ index + (length : Int) := by
        unfold Word.least
        omega
      rw [Word.saturate_eq_self low (by omega)]
    · have outside : Word.saturate (index + (length : Int)) < 0 :=
        Word.saturate_neg_iff.mpr (not_le.mp reaches)
      rw [if_neg (fun inside => absurd inside.1 (not_le.mpr outside)),
        if_neg (fun inside => absurd inside.1 reaches)]
  · simp only [negative, if_false]

/-- If there is something for every member of a list, it is what `filterMap` keeps. -/
theorem map_eq_map_some_iff {α β : Type} {f : α → Option β} {list : List α} {kept : List β} :
    list.map f = kept.map some ↔ (∀ a ∈ list, (f a).isSome) ∧ kept = list.filterMap f := by
  induction list generalizing kept with
  | nil => cases kept <;> simp
  | cons a rest inductionHypothesis =>
      cases here : f a with
      | none => cases kept <;> simp [here]
      | some b =>
          cases kept with
          | nil => simp [here]
          | cons b' kept =>
              simp only [List.map_cons, here, List.cons.injEq, Option.some.injEq,
                inductionHypothesis, List.forall_mem_cons, Option.isSome_some, true_and,
                List.filterMap_cons_some here]
              exact ⟨fun same => ⟨same.2.1, same.1.symm, same.2.2⟩,
                fun same => ⟨same.2.1.symm, same.1, same.2.2⟩⟩

namespace Sequence

variable {ε : Type}

/-- The position is empty. -/
def isEmptyAt (s : Sequence ε) (index : Nat) : Bool :=
  (s.at? index).isNone

/-- The elements at the listed positions, or the failure for the first empty one. -/
def gather (s : Sequence ε) (positions : List Nat) : Except Failure (List ε) :=
  match positions.find? s.isEmptyAt with
  | some index => .error (s.emptyAt index "slice")
  | none => .ok (positions.filterMap s.at?)

section Walks

variable {s : Sequence ε}

theorem gather_cons_of_empty {index : Nat} (empty : s.at? index = none) (rest : List Nat) :
    s.gather (index :: rest) = .error (s.emptyAt index "slice") := by
  simp [gather, isEmptyAt, empty]

theorem gather_cons_of_filled {index : Nat} {e : ε} (filled : s.at? index = some e)
    (rest : List Nat) : s.gather (index :: rest) = (s.gather rest).map (e :: ·) := by
  unfold gather
  simp only [List.find?_cons, isEmptyAt, filled, Option.isNone_some, List.filterMap_cons]
  cases rest.find? s.isEmptyAt <;> rfl

/-- Gathering succeeds with what stands at the positions, and only if something stands at each. -/
theorem gather_eq_ok_iff {positions : List Nat} {elements : List ε} :
    s.gather positions = .ok elements ↔ positions.map s.at? = elements.map some := by
  rw [map_eq_map_some_iff]
  unfold gather
  cases first : positions.find? s.isEmptyAt with
  | none =>
      have filled : ∀ index ∈ positions, (s.at? index).isSome := by
        simpa [isEmptyAt, Option.isSome_iff_ne_none] using List.find?_eq_none.mp first
      simp only [Except.ok.injEq]
      exact ⟨fun made => ⟨filled, made.symm⟩, fun standing => standing.2.symm⟩
  | some index =>
      have here := List.find?_some first
      have visited := List.mem_of_find?_eq_some first
      constructor
      · intro made
        cases made
      · intro standing
        have filled := standing.1 index visited
        simp [Option.isNone_iff_eq_none.mp here] at filled

/-- A walk collects along its positions and looks them up through the first empty one. -/
theorem collect_of_yields {cursor : Slice.Cursor} {positions : List Nat}
    (yields : cursor.Yields positions) :
    s.collect cursor positions.length =
      (s.gather positions, (throughFirst s.isEmptyAt positions).map Call.at) := by
  -- on the positions that the walk yields; its own count and its place are left behind with them
  induction positions generalizing cursor with
  | nil => rfl
  | cons index rest inductionHypothesis =>
      obtain ⟨-, cursor, answered, later⟩ := yields
      simp only [List.length_cons, collect, answered]
      cases here : s.at? index with
      | none =>
          have empty : s.isEmptyAt index = true := by simp [isEmptyAt, here]
          rw [gather_cons_of_empty here, throughFirst_cons_of_pos _ empty]
          rfl
      | some e =>
          have filled : s.isEmptyAt index = false := by simp [isEmptyAt, here]
          rw [inductionHypothesis later, gather_cons_of_filled here,
            throughFirst_cons_of_neg _ filled]
          rfl

theorem slice_eq {spec : SliceSpec} {slice : Slice} (resolved : spec.resolve s.size = .ok slice) :
    s.slice spec =
      (s.gather slice.indices,
        .size :: (throughFirst s.isEmptyAt slice.indices).map Call.at) := by
  have collected := collect_of_yields (s := s) (SliceSpec.yields_of_resolve resolved)
  rw [length_places, ← SliceSpec.indices_of_resolve resolved] at collected
  simp only [Sequence.slice, resolved, collected]

/-- A slice has collected what stands at the position that it visits under the same number. -/
theorem getElem?_of_slice {spec : SliceSpec} {slice : Slice} {elements : List ε}
    (resolved : spec.resolve s.size = .ok slice) (made : (s.slice spec).1 = .ok elements)
    {place position : Nat} (visited : slice.indices[place]? = some position) {e : ε}
    (filled : s.at? position = some e) : elements[place]? = some e := by
  rw [slice_eq resolved] at made
  have standing := congrArg (·[place]?) (gather_eq_ok_iff.mp made)
  simp only [List.getElem?_map, visited, filled, Option.map_some] at standing
  obtain ⟨first, found, same⟩ := Option.map_eq_some_iff.mp standing.symm
  rw [found, same]

end Walks

/-- How a slice is to come out. A step of zero is refused without a lookup. Any other slice visits
positions of the sequence, none of them twice; it looks them up in that order through the first
empty one, and returns what stands at all of them or fails for that one. -/
def Materializes (s : Sequence ε) (spec : SliceSpec)
    (course : Course (Except Failure (List ε) × List (Call ε))) : Prop :=
  if spec.step = some 0 then
    course =
      .reached (.error (.raise .value "slice step cannot be zero" "normalize_slice"), [.size])
  else
    ∃ slice result, spec.resolve s.size = .ok slice ∧
      Visits (spec.unboundedStart (min s.size Word.greatest))
        (spec.unboundedStop (min s.size Word.greatest)) (spec.step.getD 1) slice.indices ∧
      slice.indices.Nodup ∧
      (∀ index ∈ slice.indices, index < s.size) ∧
      course = .reached (result, .size :: (throughFirst s.isEmptyAt slice.indices).map Call.at) ∧
      match slice.indices.find? s.isEmptyAt with
      | none => ∃ elements, result = .ok elements ∧ elements.map some = slice.indices.map s.at?
      | some index => result = .error (.raise .index
          (s.typeName ++ " has no element at index " ++ toString index) "slice")

/-- Where it does not run out of room, a slice comes out as it is to. -/
theorem materializes_slice (s : Sequence ε) (spec : SliceSpec) :
    s.Materializes spec (.reached (s.slice spec)) := by
  unfold Materializes
  by_cases still : spec.step = some 0
  · have refused := SliceSpec.resolve_eq spec s.size
    rw [if_pos (by rw [still]; rfl)] at refused
    rw [if_pos still]
    simp only [Sequence.slice, refused]
  · rw [if_neg still]
    have moves := SliceSpec.step_ne_zero still
    obtain ⟨slice, resolved⟩ := SliceSpec.exists_resolve moves s.size
    have visits := SliceSpec.visits_of_resolve resolved
    refine ⟨slice, s.gather slice.indices, resolved, visits, visits.nodup moves, ?_, ?_, ?_⟩
    · intro index visited
      exact SliceSpec.lt_of_mem_indices resolved visited
    · rw [slice_eq resolved]
    · cases first : slice.indices.find? s.isEmptyAt with
      | none =>
          have gathered : s.gather slice.indices = .ok (slice.indices.filterMap s.at?) := by
            simp only [gather, first]
          exact ⟨_, gathered, (gather_eq_ok_iff.mp gathered).symm⟩
      | some index =>
          simp only [gather, first]
          rfl

theorem not_materializes_aborted (s : Sequence ε) (spec : SliceSpec) :
    ¬s.Materializes spec .aborted := by
  unfold Materializes
  split
  · exact fun reached => nomatch reached
  · rintro ⟨slice, result, -, -, -, -, reached, -⟩
    cases reached

theorem sliceRoom_of_resolve {s : Sequence ε} {spec : SliceSpec} {slice : Slice}
    (resolved : spec.resolve s.size = .ok slice) :
    s.sliceRoom spec = referenceSize * slice.length := by
  simp only [sliceRoom, resolved]

/-- A slice comes out as it is to exactly if there is room for a reference to every position that it
visits. Otherwise the program ends. A step of zero visits none. -/
theorem slice_materialized (s : Sequence ε) (system : System) (spec : SliceSpec) :
    (s.Materializes spec (s.materialize system spec) ↔
      ∀ slice, spec.resolve s.size = .ok slice →
        system.reserves (referenceSize * slice.length) = true) ∧
    (¬s.Materializes spec (s.materialize system spec) → s.materialize system spec = .aborted) := by
  have room : system.reserves (s.sliceRoom spec) = true ↔
      ∀ slice, spec.resolve s.size = .ok slice →
        system.reserves (referenceSize * slice.length) = true := by
    unfold sliceRoom
    cases spec.resolve s.size with
    | error failure => simp [System.reserves_zero]
    | ok slice => simp
  rw [← room, materialize]
  cases reserved : system.reserves (s.sliceRoom spec) with
  | true =>
      rw [System.reserving_of_reserves reserved]
      simp [materializes_slice]
  | false =>
      rw [System.reserving_of_not_reserves reserved]
      simp [not_materializes_aborted]

/-- Nothing stands at any of `2 ^ 60` positions, but the first is never looked up. -/
theorem not_slice_materialized :
    let s : Sequence Nat := { typeName := "sequence", size := 2 ^ 60, at? := fun _ => none }
    let system : System := { grants := fun _ => true }
    s.materialize system .full = .aborted ∧
      ¬s.Materializes .full (s.materialize system .full) := by
  intro s system
  have resolved : SliceSpec.full.resolve s.size =
      .ok { start := 0, stop := 2 ^ 60, step := 1, length := 2 ^ 60 } := by decide +kernel
  have beyond : system.reserves (s.sliceRoom .full) = false := by
    rw [sliceRoom_of_resolve resolved]
    decide +kernel
  have aborted : s.materialize system .full = .aborted := System.reserving_of_not_reserves beyond
  refine ⟨aborted, ?_⟩
  rw [aborted]
  exact s.not_materializes_aborted .full

/-- An index from `-size` up to `size` is looked up once where it lands, and what is found there is
also what slices over that position collect. Any other index is refused without a lookup. -/
theorem element_checked (s : Sequence ε) (representable : (s.size : Int) ≤ Word.greatest)
    (index : Int) :
    if -(s.size : Int) ≤ index ∧ index < s.size then
      ∃ position : Nat, (position : Int) = (if index < 0 then index + s.size else index) ∧
        resolveIndex index s.size = .ok position ∧
        (s.element index).2 = [.size, .at position] ∧
        match s.at? position with
        | none => (s.element index).1 = .error (.raise .index
            (s.typeName ++ " has no element at index " ++ toString position) "safe_at")
        | some e => (s.element index).1 = .ok e ∧
            ∀ spec slice elements (place : Nat), spec.resolve s.size = .ok slice →
              (s.slice spec).1 = .ok elements → slice.indices[place]? = some position →
              elements[place]? = some e
    else
      let failure := Failure.raise .index
        ("index " ++ toString index ++ " out of range for length " ++ toString s.size)
        "normalize_index"
      resolveIndex index s.size = .error failure ∧ s.element index = (.error failure, [.size]) := by
  have resolution := resolveIndex_eq representable index
  split
  next inside =>
      have within := landing_mem_iff.mpr inside
      obtain ⟨position, lands⟩ := Int.eq_ofNat_of_zero_le within.1
      rw [if_pos within, lands, Int.toNat_natCast] at resolution
      refine ⟨position, lands.symm, resolution, ?_⟩
      simp only [element, resolution]
      cases here : s.at? position with
      | none => exact ⟨rfl, rfl⟩
      | some e =>
          refine ⟨rfl, rfl, ?_⟩
          intro spec slice elements place resolved made visited
          exact getElem?_of_slice resolved made visited here
  next outside =>
      rw [if_neg (mt landing_mem_iff.mp outside)] at resolution
      refine ⟨resolution, ?_⟩
      simp only [element, resolution]

/-- The first of three positions counted from the end, where the second is empty: its element is
also what every second position backwards leads to at last. The least index leads nowhere. -/
theorem element_checked_sparse :
    let s := ofSlots "sparse" #[some 10, none, some 30]
    let failure := Failure.raise .index
      ("index " ++ toString Word.least ++ " out of range for length " ++ toString s.size)
      "normalize_index"
    (s.size : Int) ≤ Word.greatest ∧
      s.element (-3) = (.ok 10, [.size, .at 0]) ∧
      s.element Word.least = (.error failure, [.size]) ∧
      ∀ elements, (s.slice { step := some (-2) }).1 = .ok elements → elements[1]? = some 10 := by
  intro s failure
  have representable : (s.size : Int) ≤ Word.greatest := by decide
  have first := element_checked s representable (-3)
  have beyond := element_checked s representable Word.least
  rw [if_pos (by decide)] at first
  rw [if_neg (by decide)] at beyond
  obtain ⟨position, lands, -, calls, result⟩ := first
  obtain rfl : position = 0 := Int.ofNat.inj lands
  obtain ⟨found, everywhere⟩ := result
  refine ⟨representable, Prod.ext found calls, beyond.2, ?_⟩
  intro elements made
  exact everywhere { step := some (-2) } { start := 2, stop := -1, step := -2, length := 2 }
    elements 1 (by decide +kernel) made (by decide +kernel)

end Sequence

end Underlay
