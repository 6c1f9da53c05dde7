import Underlay.Proofs.Failures.Agreement.Heaps

/-!
# Routines and operations agree on containers and copies

Positions, slices, containers and bounded copies, and the entry points that write to their caller.
-/

namespace Underlay.Failures.Routine

variable {γ ε κ υ α β : Type}

/-! Positions, slices and containers -/

section Containers

variable (site : Site)

theorem performs_resolveIndex (index : Int) (length : Nat) :
    (resolveIndex site index length : Routine ε _).Performs site (fun _ => 0)
      (·.attempt (Underlay.resolveIndex index length)) := by
  intro scene
  dsimp only [resolveIndex, Underlay.resolveIndex]
  generalize (if index < 0 then Word.saturate (index + Word.signed length) else index) = position
  split <;> rfl

theorem performs_resolveSlice (spec : SliceSpec) (length : Nat) :
    (resolveSlice site spec length : Routine ε _).Performs site (fun _ => 0)
      (·.attempt (spec.resolve length)) := by
  intro scene
  dsimp only [resolveSlice, SliceSpec.resolve]
  split <;> rfl

theorem performs_progression (start stop step : Int) :
    (progression site start stop step : Routine ε _).Performs site (fun _ => 0)
      (·.attempt (Progression.make start stop step)) := by
  intro scene
  dsimp only [progression, Progression.make]
  split <;> rfl

theorem performs_element (s : Sequence ε) (index : Int) :
    (element site s index).Performs site (fun _ => 0) (·.attempt (s.element index).1) := by
  intro scene
  apply run_bind_answer (performs_resolveIndex site index s.size scene)
  · intro position machine answered
    obtain ⟨found, rfl⟩ := Prod.mk.inj answered
    dsimp only [Sequence.element]
    rw [found]
    cases present : s.at? position <;> simp only [present] <;> rfl
  · intro failure machine answered
    obtain ⟨refused, rfl⟩ := Prod.mk.inj answered
    dsimp only [Sequence.element]
    rw [refused]
    rfl

theorem performs_lookup (m : Mapping κ υ) (key : κ) :
    (lookup site m key : Routine ε _).Performs site (fun _ => 0)
      (·.attempt (m.lookup key).1) := by
  intro scene
  dsimp only [lookup, Mapping.lookup]
  cases m.contains key with
  | false => rfl
  | true => cases m.get? key <;> rfl

theorem performs_collect (s : Sequence ε) (cursor : Slice.Cursor) (count : Nat) :
    (collect site s cursor count).Performs site (fun _ => 0)
      (·.attempt (s.collect cursor count).1) := by
  induction count generalizing cursor with
  | zero => exact fun _ => rfl
  | succ count inductionHypothesis =>
      unfold collect Sequence.collect
      cases cursor.next? with
      | none => exact fun _ => rfl
      | some next =>
          dsimp only
          cases s.at? next.1 with
          | none => exact fun _ => rfl
          | some e =>
              dsimp only
              intro scene
              apply run_bind_answer (inductionHypothesis next.2 scene)
              · intro rest machine answered
                obtain ⟨collected, rfl⟩ := Prod.mk.inj answered
                rw [collected]
                rfl
              · intro failure machine answered
                obtain ⟨refused, rfl⟩ := Prod.mk.inj answered
                rw [refused]
                rfl

theorem performs_slice (s : Sequence ε) (spec : SliceSpec) :
    (slice site s spec).Performs site (fun _ => s.sliceRoom spec)
      (·.attempt (s.slice spec).1) := by
  intro scene
  unfold slice Sequence.sliceRoom Sequence.slice
  rw [run_bind, performs_resolveSlice site spec s.size scene, reserving_zero]
  cases resolved : spec.resolve s.size with
  | error failure => rfl
  | ok slice =>
      have collected := performs_collect site s slice.cursor slice.length scene
      dsimp only [Machine.attempt, Scene.answer, Machine.reserving, System.reserving]
      rw [run_reserve_bind]
      exact ite_congr rfl (fun _ => collected) fun _ => rfl

end Containers

/-! Bounded copies -/

section Copies

variable (site : Site)

/-- The bytes of the caller behind a request, with the answer. -/
def PerformsOnBytes (routine : Routine ε Unit)
    (request : List UInt8 → Except Failure (List UInt8)) :
    Prop :=
  ∀ scene, routine.run scene =
    let (answer, after) := scene.answer site
      (scene.machine.attempt ((request scene.bytes).map fun _ => ()))
    .reached (answer, { after with bytes := Bounded.behind scene.bytes (request scene.bytes) })

theorem performs_copy (src : List UInt8) :
    PerformsOnBytes site (copy site src : Routine ε _) (Bounded.copy · src) := by
  intro scene
  dsimp only [copy, Bounded.copy, Bounded.checkFit]
  rw [run_view_bind]
  split <;> rfl

theorem performs_move (src dest count : Nat) :
    PerformsOnBytes site (move site src dest count : Routine ε _)
      (Bounded.move · src dest count) := by
  intro scene
  dsimp only [move, Bounded.move]
  rw [run_view_bind]
  split <;> rfl

theorem performs_fill (byte : UInt8) (count : Nat) :
    PerformsOnBytes site (fill site byte count : Routine ε _) (Bounded.fill · byte count) := by
  intro scene
  dsimp only [fill, Bounded.fill]
  rw [run_view_bind]
  split <;> rfl

theorem performs_copyRaw (dest src : Bool) (destSize srcSize : Nat) (overlapping : Bool)
    (copied : List UInt8 → List UInt8) :
    PerformsOnBytes site (copyRaw site dest src destSize srcSize overlapping copied : Routine ε _)
      fun bytes =>
        (Bounded.admitCopy dest src destSize srcSize overlapping).map fun _ => copied bytes := by
  intro scene
  dsimp only [copyRaw, Bounded.admitCopy]
  split
  · rfl
  · split <;> rfl

theorem performs_fillRegion (dest : Bool) (destSize : Nat) (byte : UInt8) (count : Nat) :
    PerformsOnBytes site (fillRegion site dest destSize byte count : Routine ε _)
      fun bytes => Bounded.fillRegion (if dest then some bytes else none) destSize byte count := by
  intro scene
  dsimp only [fillRegion, Bounded.fillRegion, Bounded.admitFill]
  cases dest with
  | false => rfl
  | true =>
      by_cases larger : destSize < count <;> simp only [larger, if_true, if_false] <;> rfl

end Copies

/-! Entry points that write to their caller -/

section Entries

theorem run_require_bind {scene : Scene ε} (pointer : Option α) (operation what : String)
    (next : α → Routine ε β) :
    (require pointer operation what >>= next).run scene =
      match Boundary.require pointer operation what with
      | .ok a => (next a).run scene
      | .error failure => .reached (.error failure, scene.report failure) := by
  cases pointer <;> rfl

/-- Resolving a slice into a slot answers the status of the routine and fills the slot. -/
theorem run_normalizeSlice (written : Option Boundary.WrittenSlice) (length : Nat)
    (scene : Scene ε) :
    ∃ result after, (normalizeSlice written length).run scene = .reached (result, after) ∧
      Boundary.normalizeSlice written length scene.slice scene.machine =
        (Boundary.status result, after.slice, after.machine) := by
  cases written with
  | none => exact ⟨_, _, rfl, rfl⟩
  | some written =>
      rcases scene with ⟨machine, bytes, _ | slot, elements, reported⟩
      · exact ⟨_, _, rfl, rfl⟩
      · let scene : Scene ε := { machine, bytes, slice := some slot, elements, reported }
        by_cases still : written.spec.step.getD 1 = 0
        · let failure : Failure := .raise .value "slice step cannot be zero" "normalize_slice"
          refine ⟨.error failure, scene.report failure, ?_, ?_⟩
          · simp only [normalizeSlice, run_require_bind, Boundary.require, run_view_bind,
              resolveSlice, still, if_true]
            rfl
          · simp only [Boundary.normalizeSlice, Boundary.require, SliceSpec.resolve, bind,
              Except.bind, still, if_true]
            rfl
        · refine ⟨.ok (), { scene with slice := some (written.spec.bounds length) }, ?_, ?_⟩
          · simp only [normalizeSlice, run_require_bind, Boundary.require, run_view_bind,
              resolveSlice, still, if_false]
            rfl
          · simp only [Boundary.normalizeSlice, Boundary.require, SliceSpec.resolve, bind,
              Except.bind, still, if_false]
            rfl

theorem run_writeAll (elements : List ε) (place : Nat) (scene : Scene ε) :
    (writeAll place elements).run scene =
      .reached (.ok (), { scene with
        elements := scene.elements.map (Boundary.writeFrom · place elements) }) := by
  induction elements generalizing place scene with
  | nil =>
      rcases scene with ⟨machine, bytes, slice, _ | out, reported⟩ <;> rfl
  | cons e rest inductionHypothesis =>
      unfold writeAll
      rw [run_change_bind, inductionHypothesis]
      simp only [Option.map_map]
      rfl

/-- A scene behind an attempt to write a slice, with the number of elements that were written. -/
def sliced (scene : Scene ε) (result : Except Failure (List ε)) : Except Failure Nat × Scene ε :=
  let (answer, after) := scene.answer .internal (scene.machine.attempt (result.map List.length))
  (answer, { after with elements := scene.elements.map (Boundary.written · result) })

theorem sliced_error (scene : Scene ε) (failure : Failure) :
    sliced scene (.error failure) =
      (.error (failure.calledAt .internal), scene.report (failure.calledAt .internal)) := by
  rcases scene with ⟨machine, bytes, place, _ | out, reported⟩ <;> rfl

theorem run_writeFitting (capacity : Nat) (elements : List ε) (scene : Scene ε) :
    (writeFitting capacity elements).run scene =
      .reached (sliced scene
        (if capacity < elements.length ∨ (!scene.elements.isSome ∧ !elements.isEmpty) then
          .error (.raise .value ("slice of " ++ toString elements.length ++
            " elements does not fit in " ++ toString capacity) "pyrt_slice")
        else
          .ok elements)) := by
  unfold writeFitting
  rw [run_view_bind]
  split
  · rw [run_raise, sliced_error]
  · rw [run_bind_of_ok (run_writeAll elements 0 scene)]
    rfl

/-- Writing a slice to places for its elements answers how many were written. -/
theorem run_writeSlice (table : Option (Boundary.SequenceTable γ ε)) (container : Option γ)
    (written : Option Boundary.WrittenSlice) (capacity : Nat) (scene : Scene ε) :
    (writeSlice table container written capacity).run scene =
      scene.machine.reserving (Boundary.sliceRoom table container written)
        (sliced scene
          (Boundary.slice table container written scene.elements.isSome capacity).1) := by
  rcases table with _ | ⟨typeName, size, element⟩
  · exact congrArg Course.reached (sliced_error scene _).symm
  rcases container with _ | container
  · exact congrArg Course.reached (sliced_error scene _).symm
  rcases size with _ | size
  · exact congrArg Course.reached (sliced_error scene _).symm
  rcases element with _ | element
  · exact congrArg Course.reached (sliced_error scene _).symm
  rcases written with _ | written
  · exact congrArg Course.reached (sliced_error scene _).symm
  let table : Boundary.SequenceTable γ ε := { typeName, size := some size, element := some element }
  let s := table.sequence size element container
  change (slice .internal s written.spec >>= writeFitting capacity).run scene =
    scene.machine.reserving (s.sliceRoom written.spec)
      (sliced scene ((s.slice written.spec).1.bind fun elements => _))
  rw [run_bind, performs_slice .internal s written.spec scene]
  cases reserved : scene.machine.session.system.reserves (s.sliceRoom written.spec) with
  | false => simp [Machine.reserving, System.reserving, reserved]
  | true =>
      simp only [Machine.reserving, System.reserving, reserved, if_true]
      cases (s.slice written.spec).1 with
      | error failure => exact congrArg Course.reached (sliced_error scene failure).symm
      | ok elements => exact run_writeFitting capacity elements scene

theorem performs_register (registry : Option RegistryId) (resource : Option Nat) (cleanup : Bool)
    (name : Option (List UInt8)) (scene : Scene ε) :
    ∃ result after, (register registry resource cleanup name).run scene =
        .reached (result, after) ∧
      Boundary.register registry resource cleanup name scene.machine =
        (Boundary.status result, after.machine) := by
  cases registry with
  | none => exact ⟨_, _, rfl, rfl⟩
  | some registry =>
      cases resource with
      | none => exact ⟨_, _, rfl, rfl⟩
      | some resource => cases cleanup <;> exact ⟨_, _, rfl, rfl⟩

end Entries

end Underlay.Failures.Routine
