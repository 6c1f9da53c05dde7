import Underlay.Boundary.Containers
import Underlay.Boundary.Handles
import Underlay.Boundary.Memory
import Underlay.Proofs.Observation.Blindness

/-!
# Entry points that do not look at the observer

An entry point first demands what it needs, which is decided without the observer, and then
carries out one blind operation or works on its arguments alone. A null handle is refused or
passed over before anything is looked up.
-/

namespace Underlay.Boundary

open Machine

variable {α : Type}

/-! Questions, slices and blocks -/

theorem blind_answer (reserved : α) (result : Except Failure α) :
    Blind (answer reserved result) := by
  intro machine o
  cases result <;> exact ⟨o, rfl⟩

theorem blind_normalizeSlice (slice : Option WrittenSlice) (length : Nat) (out : Option Slice) :
    Blind fun machine =>
      let (code, out, after) := normalizeSlice slice length out machine
      ((code, out), after) := by
  intro machine o
  dsimp only [normalizeSlice]
  split <;> exact ⟨o, rfl⟩

theorem blind_copy (dest : Option Place) (destSize : Nat) (src : Option Place) (srcSize : Nat)
    (overlapping : Bool) : Blind (copy dest destSize src srcSize overlapping) := by
  intro machine o
  dsimp only [copy]
  split <;> exact ⟨o, rfl⟩

theorem blind_fill (dest : Option BlockId) (value : Int) (count destSize : Nat) :
    Blind (fill dest value count destSize) := by
  intro machine o
  dsimp only [fill]
  split <;> exact ⟨o, rfl⟩

/-- Without a slot for the counters none are read. -/
theorem blind_counters {out : Bool} (missing : out = false) :
    Blind fun machine =>
      let (code, seen, after) := counters out machine
      ((code, seen), after) := by
  subst missing
  exact fun _ o => ⟨o, rfl⟩

/-! Scopes and pools -/

theorem blind_onScope (scope : Option Nat) (operation : String)
    {act : Machine → Nat → Except Failure α × Machine} (blind : ∀ id, Blind (act · id)) :
    Blind fun machine => onScope scope operation machine (act machine) := by
  cases scope with
  | none => exact blind_note _ _
  | some id => exact blind id

/-- Behind a null handle nothing changes. -/
theorem steady_behind (id : Option Nat) {change : Machine → Nat → Machine}
    (steady : ∀ id, Steady (change · id)) :
    Steady fun machine => (id.map (change machine)).getD machine := by
  cases id with
  | none => exact fun _ o => ⟨o, rfl⟩
  | some id => exact steady id

theorem blind_poolAlloc (pool : Option Nat) (size : Nat) : Blind (poolAlloc pool size) := by
  cases pool with
  | none => exact blind_note _ _
  | some id =>
      exact (Machine.blind_poolAlloc id size).map fun result =>
        result.toOption.map Handle.offset

/-! Shared objects -/

theorem blind_newObject (size : Nat) (destructor : Option (Destructor Block)) :
    Blind (newObject size destructor) := by
  intro machine o
  dsimp only [newObject]
  rw [system_observe]
  split
  · exact ⟨_, rfl⟩
  · exact ⟨o, rfl⟩

theorem blind_retain (object : Option ObjectId) : Blind (retain object) := by
  cases object with
  | none => exact blind_note _ _
  | some id =>
      intro machine o
      have law := machine.cells.retain_observer id machine.observer o
      refine ⟨(machine.cells.retain id o).2, ?_⟩
      change (some id, { machine.observe _ with cells := (machine.cells.retain id o).1 }) = _
      rw [law]
      rfl

theorem blind_release (object : Option ObjectId) :
    Blind fun machine =>
      let (destroyed, happened, after) := release object machine
      ((destroyed, happened), after) := by
  cases object with
  | none => exact blind_note _ _
  | some id =>
      intro machine o
      obtain ⟨cells, happened⟩ := machine.cells.giveUp_observer machine.observer o [id]
      refine ⟨(machine.cells.giveUp o [id]).2.1, ?_⟩
      change ((machine.cells.count id == 1, (machine.cells.giveUp o [id]).2.2),
        { machine.observe _ with cells := (machine.cells.giveUp o [id]).1 }) = _
      rw [cells, happened]
      rfl

theorem blind_payload (object : Option ObjectId) (written : List UInt8) :
    Blind (payload object written) := by
  cases object with
  | none => exact blind_note _ _
  | some id =>
      intro machine o
      dsimp only [payload, requireObject]
      rw [cells_observe]
      split <;> exact ⟨o, rfl⟩

/-! Registries -/

theorem blind_register (registry : Option RegistryId) (resource : Option Nat) (cleanup : Bool)
    (name : Option (List UInt8)) : Blind (register registry resource cleanup name) := by
  intro machine o
  dsimp only [register]
  split
  · exact ⟨o, rfl⟩
  · exact ⟨_, rfl⟩

theorem blind_cleanUp (registry : Option RegistryId) : Blind (cleanUp registry) := by
  cases registry with
  | none => exact fun _ o => ⟨o, rfl⟩
  | some id => exact Machine.blind_cleanUp id

end Underlay.Boundary
