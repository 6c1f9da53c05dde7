import Underlay.Boundary.Containers
import Underlay.Proofs.Containers.Materialization

/-!
# Three routes along a slice

Generated code reaches the elements of a slice by the walk, by the position under a number, or by
an output that is filled with all of them. The walk adds and saturates, the position under a number
multiplies without a check, and the output is filled by a loop over its places. What joins them is
the stride: a resolved slice is legal in its sequence, so the walk yields its places, and every
product and sum on the way to one of them is a signed position.
-/

namespace Underlay

/-- The integer is a signed position. -/
def Word.Signed (i : Int) : Prop :=
  Word.least ≤ i ∧ i ≤ Word.greatest

namespace SliceSpec

variable {spec : SliceSpec} {length : Nat} {slice : Slice}

/-- The number, the product and the sum that lead to a counted place are signed positions. -/
theorem signed_of_resolve (resolved : spec.resolve length = .ok slice) {place : Nat}
    (counts : place < slice.length) :
    Word.Signed place ∧ Word.Signed (place * slice.step) ∧ Word.Signed (slice.position place) := by
  obtain ⟨moves, legal, counted⟩ := legal_of_resolve resolved
  have near := legal.span_lt (min_le_right _ _)
  have reached := legal.position_bounds ((lt_visitCount_iff moves near place).mp (counted ▸ counts))
  -- The start is the place of the first visit.
  have beginning := legal.position_bounds
    ((lt_visitCount_iff moves near 0).mp (counted ▸ Nat.zero_lt_of_lt counts))
  have small := (position_bounds resolved counts).2.2
  unfold Word.Signed Slice.position Word.least
  unfold Word.greatest at *
  omega

end SliceSpec

namespace Sequence

variable {ε : Type}

theorem slice_of_filled (s : Sequence ε) {spec : SliceSpec} {slice : Slice}
    (resolved : spec.resolve s.size = .ok slice) {elements : List ε}
    (filled : slice.indices.map s.at? = elements.map some) :
    (s.slice spec).1 = .ok elements := by
  rw [slice_eq resolved]
  exact gather_eq_ok_iff.mpr filled

end Sequence

namespace Boundary

variable {γ ε : Type}

/-- Filling an output from a place on replaces as many entries as there are elements. -/
theorem writeFrom_eq {out : List (Option ε)} {place : Nat} {elements : List ε}
    (fits : place + elements.length ≤ out.length) :
    writeFrom out place elements =
      out.take place ++ (elements.map some ++ out.drop (place + elements.length)) := by
  induction elements generalizing out place with
  | nil => simp [writeFrom]
  | cons e rest inductionHypothesis =>
      simp only [List.length_cons] at fits
      have room : place < (out.set place (some e)).length := by
        rw [List.length_set]
        omega
      have front : (out.set place (some e)).take (place + 1) = out.take place ++ [some e] := by
        rw [List.take_succ_eq_append_getElem room, List.take_set_of_le (Nat.le_refl place),
          List.getElem_set_self]
      have back : (out.set place (some e)).drop (place + 1 + rest.length) =
          out.drop (place + (rest.length + 1)) := by
        rw [List.drop_set_of_lt (by omega), Nat.add_assoc, Nat.add_comm 1]
      rw [writeFrom, inductionHypothesis (by rw [List.length_set]; omega), front, back]
      simp

/-- A slice whose positions are all filled is written to the front of an output with room. -/
theorem writeSlice_of_filled {table : SequenceTable γ ε} {container : γ} {size : γ → Nat}
    {element : γ → Nat → Option ε} (sized : table.size = some size)
    (reads : table.element = some element) {spec : WrittenSlice} {slice : Slice}
    (resolved : spec.spec.resolve (size container) = .ok slice) {elements : List ε}
    (filled : slice.indices.map (element container) = elements.map some)
    {out : List (Option ε)} {capacity : Nat} (fits : slice.length ≤ capacity)
    (room : capacity ≤ out.length) (machine : Machine) :
    writeSlice (some table) (some container) (some spec) (some out) capacity machine =
      (clip slice.length, some (elements.map some ++ out.drop slice.length), machine) := by
  have counted : elements.length = slice.length := by
    have lengths := congrArg List.length filled
    rw [SliceSpec.indices_of_resolve resolved] at lengths
    simpa using lengths.symm
  have small : ¬ (capacity < elements.length ∨ (!true) = true ∧ (!elements.isEmpty) = true) := by
    simp
    omega
  have collected := (table.sequence size element container).slice_of_filled resolved filled
  have answered : (Boundary.slice (some table) (some container) (some spec) true capacity).1 =
      .ok elements := by
    unfold Boundary.slice
    rw [SequenceTable.load_of_present sized reads]
    simp only [demand, calling, bind, Except.bind, pure, Except.pure, collected, small, if_false]
  unfold writeSlice
  simp only [Option.isSome_some, answered, Option.map_some, written]
  rw [writeFrom_eq (by omega), ← counted]
  simp [answerCount, answer, Except.map]

/-- Resolving for generated code succeeds only with what the slice resolves to. -/
theorem resolve_of_normalizeSlice {spec : WrittenSlice} {length : Nat} {out slice : Slice}
    {machine after : Machine}
    (answered : normalizeSlice (some spec) length (some out) machine =
      (Kind.ok.code, some slice, after)) :
    spec.spec.resolve length = .ok slice := by
  have zeroStep : Kind.value.code ≠ Kind.ok.code := by decide
  unfold normalizeSlice at answered
  rcases resolved : spec.spec.resolve length with failure | slice'
  · have refused := resolved
    rw [SliceSpec.resolve_eq] at refused
    split at refused
    · obtain rfl := Except.error.inj refused
      simp only [require, bind, Except.bind, resolved, Prod.mk.injEq] at answered
      exact absurd answered.1 zeroStep
    · cases refused
  · simp only [require, bind, Except.bind, resolved, Prod.mk.injEq, Option.some.injEq] at answered
    rw [answered.2.1]

theorem slicePosition_of_resolve {spec : SliceSpec} {length : Nat} {slice : Slice}
    (resolved : spec.resolve length = .ok slice) {place : Nat} (counts : place < slice.length)
    (machine : Machine) :
    slicePosition (some slice) place machine = (slice.position place, machine) := by
  have small := (SliceSpec.position_bounds resolved counts).2.2
  simp only [slicePosition, require, bind, Except.bind, Nat.not_le_of_lt counts, if_false, pure,
    Except.pure, answer, clip_eq_self small, Slice.position]

theorem slicePosition_of_le {slice : Slice} {place : Nat} (past : slice.length ≤ place)
    (machine : Machine) :
    ∃ message, slicePosition (some slice) place machine =
      (-1, machine.note
        (.error (.raise .index message "pyrt_slice_index") : Except Failure Int)) := by
  refine ⟨"slice position " ++ toString place ++ " out of range for length " ++
    toString slice.length, ?_⟩
  simp only [slicePosition, require, bind, Except.bind, past, if_true, throw, throwThe,
    MonadExceptOf.throw, answer]

/-- If there is an element at every position of a slice, an output with room receives those under
the numbers, and what lies behind stays. -/
theorem exists_writeSlice {table : SequenceTable γ ε} {container : γ} {size : γ → Nat}
    {element : γ → Nat → Option ε} (sized : table.size = some size)
    (reads : table.element = some element) {spec : WrittenSlice} {slice : Slice}
    (resolved : spec.spec.resolve (size container) = .ok slice)
    (present : ∀ position ∈ slice.indices, (element container position).isSome)
    {out : List (Option ε)} {capacity : Nat} (fits : slice.length ≤ capacity)
    (room : capacity ≤ out.length) (machine : Machine) :
    ∃ out', writeSlice (some table) (some container) (some spec) (some out) capacity machine =
        ((slice.length : Int), some out', machine) ∧
      out'.length = out.length ∧
      (∀ place < slice.length, out'[place]? =
        some (element container (slicePosition (some slice) place machine).1.toNat)) ∧
      ∀ place, slice.length ≤ place → out'[place]? = out[place]? := by
  let elements := slice.indices.pmap
    (fun position filled => (element container position).get filled) present
  have filled : slice.indices.map (element container) = elements.map some := by
    simp [elements, List.map_pmap]
  have walked := SliceSpec.length_indices_of_resolve resolved
  have counted : elements.length = slice.length := by
    simp [elements, walked]
  have whole := clip_eq_self (SliceSpec.length_le_of_resolve resolved)
  refine ⟨elements.map some ++ out.drop slice.length, ?_, ?_, ?_, ?_⟩
  · rw [writeSlice_of_filled sized reads resolved filled fits room, whole]
  · simp [counted]
    omega
  · intro place counts
    rw [slicePosition_of_resolve resolved counts, ← filled,
      List.getElem?_append_left (by simpa [walked] using counts), List.getElem?_map,
      SliceSpec.getElem?_indices_of_resolve resolved counts]
    rfl
  · intro place past
    rw [List.getElem?_append_right (by simpa [counted] using past), List.length_map, counted,
      List.getElem?_drop, Nat.add_sub_cancel' past]

/-- What generated code may rely on when it goes along a resolved slice. -/
structure Routes (spec : WrittenSlice) (length : Nat) (slice : Slice) : Prop where
  resolved : spec.spec.resolve length = .ok slice
  walked : slice.indices.length = slice.length
  /-- Neither the product nor the sum leaves the signed range. -/
  signed : ∀ place < slice.length,
    Word.Signed place ∧ Word.Signed (place * slice.step) ∧
      Word.Signed (slice.start + place * slice.step)
  /-- Below the count, the answer is the place of the stride and what the walk yields. -/
  position : ∀ place < slice.length, ∀ machine, ∃ position : Nat,
    slicePosition (some slice) place machine = ((position : Int), machine) ∧
      (position : Int) = slice.start + place * slice.step ∧
      slice.indices[place]? = some position
  refused : ∀ place, slice.length ≤ place → ∀ machine, ∃ message,
    slicePosition (some slice) place machine =
      (-1, machine.note (.error (.raise .index message "pyrt_slice_index") : Except Failure Int))
  /-- An output with room receives what stands at the positions under the numbers; what lies
  behind stays. -/
  written : ∀ {γ ε : Type} (table : SequenceTable γ ε) (container : γ) (size : γ → Nat)
    (element : γ → Nat → Option ε) (out : List (Option ε)) (capacity : Nat) (machine : Machine),
    table.size = some size → table.element = some element → size container = length →
    (∀ position ∈ slice.indices, (element container position).isSome) →
    slice.length ≤ capacity → capacity ≤ out.length →
    ∃ out', writeSlice (some table) (some container) (some spec) (some out) capacity machine =
        ((slice.length : Int), some out', machine) ∧
      out'.length = out.length ∧
      (∀ place < slice.length, out'[place]? =
        some (element container (slicePosition (some slice) place machine).1.toNat)) ∧
      ∀ place, slice.length ≤ place → out'[place]? = out[place]?

/-- Whenever a slice is resolved for generated code, all routes along it agree. -/
theorem routes_of_normalizeSlice {spec : WrittenSlice} {length : Nat} {out slice : Slice}
    {machine after : Machine}
    (answered : normalizeSlice (some spec) length (some out) machine =
      (Kind.ok.code, some slice, after)) :
    Routes spec length slice := by
  have resolved := resolve_of_normalizeSlice answered
  refine ⟨resolved, SliceSpec.length_indices_of_resolve resolved, ?_, ?_, ?_, ?_⟩
  · intro place counts
    exact SliceSpec.signed_of_resolve resolved counts
  · intro place counts machine
    have nonnegative := (SliceSpec.position_bounds resolved counts).1
    refine ⟨(slice.position place).toNat, ?_, ?_, ?_⟩
    · rw [slicePosition_of_resolve resolved counts, Int.toNat_of_nonneg nonnegative]
    · exact Int.toNat_of_nonneg nonnegative
    · exact SliceSpec.getElem?_indices_of_resolve resolved counts
  · intro place past machine
    exact slicePosition_of_le past machine
  · intro γ ε table container size element out capacity machine sized reads same present fits room
    subst same
    exact exists_writeSlice sized reads resolved present fits room machine

/-- Every second element from the last one on, with room for one more. -/
theorem routes_of_normalizeSlice_backwards :
    let spec : WrittenSlice :=
      { start := -1, stop := 0, step := -2, hasStart := 1, hasStop := 0, hasStep := 1 }
    let slice : Slice := { start := 4, stop := -1, step := -2, length := 3 }
    let table : SequenceTable (List Nat) Nat :=
      { typeName := none, size := some List.length
        element := some fun container i => container[i]? }
    normalizeSlice (some spec) 5 (some default) {} = (Kind.ok.code, some slice, {}) ∧
      Routes spec 5 slice ∧
      ∃ out, writeSlice (some table) (some [10, 20, 30, 40, 50]) (some spec)
          (some [none, none, none, some 7]) 4 {} = (3, some out, {}) ∧
        out[2]? = some (some 10) ∧ out[3]? = some (some 7) := by
  have answered : normalizeSlice
      (some { start := -1, stop := 0, step := -2, hasStart := 1, hasStop := 0, hasStep := 1 }) 5
      (some default) {} =
      (Kind.ok.code, some { start := 4, stop := -1, step := -2, length := 3 }, {}) := rfl
  intro spec slice table
  have routes : Routes spec 5 slice := routes_of_normalizeSlice answered
  refine ⟨answered, routes, ?_⟩
  obtain ⟨out, written, -, filled, kept⟩ := routes.written table [10, 20, 30, 40, 50] List.length
    (fun container i => container[i]?) [none, none, none, some 7] 4 {} rfl rfl rfl
    (by decide) (by decide) (by decide)
  exact ⟨out, written, filled 2 (by decide), kept 3 (by decide)⟩

end Boundary

end Underlay
