import Underlay.Proofs.Sentinels.Unambiguous

/-!
# No entry point is ambiguous

Every call is taken apart into a call that reports and the translation of its result, or shown to
leave the slot alone. What keeps the numbers apart from minus one is in the bounds of resolved
indices and slices.
-/

namespace Underlay

/-! What an entry point demands of its arguments. -/

namespace Boundary

variable {γ ε κ υ α δ : Type}

theorem genuine_demand (operation : String) (part : Option α) :
    Genuine (demand operation part) := by
  cases part <;> simp [demand, invalid]

theorem SequenceTable.genuine_load (table : Option (SequenceTable γ ε)) (container : Option γ)
    (operation : String) : Genuine (load table container operation) := by
  apply (genuine_demand operation table).bind
  intro table
  apply (genuine_demand operation container).bind
  intro container
  apply (genuine_demand operation table.size).bind
  intro size
  apply (genuine_demand operation table.element).bind
  intro element
  exact genuine_ok _

theorem MapTable.genuine_load (table : Option (MapTable γ κ υ)) (container : Option γ)
    (operation : String) : Genuine (load table container operation) := by
  apply (genuine_demand operation table).bind
  intro table
  apply (genuine_demand operation container).bind
  intro container
  apply (genuine_demand operation table.size).bind
  intro size
  apply (genuine_demand operation table.contains).bind
  intro contains
  exact genuine_ok _

theorem genuine_calling_bind {β : Type} {checked : Except Failure β}
    {next : β → Except Failure (Except Failure α × List δ)} (genuine : Genuine checked)
    (later : ∀ b, Genuine (calling (next b)).1) : Genuine (calling (checked >>= next)).1 := by
  cases checked with
  | ok b => exact later b
  | error failure => exact genuine_error.mpr (genuine failure rfl)

theorem genuine_element (table : Option (SequenceTable γ ε)) (container : Option γ)
    (index : Int) : Genuine (element table container index).1 := by
  apply genuine_calling_bind (SequenceTable.genuine_load table container _)
  intro s
  exact s.genuine_element index

theorem genuine_lookup (table : Option (MapTable γ κ υ)) (container : Option γ)
    (key : Option κ) : Genuine (lookup table container key).1 := by
  apply genuine_calling_bind (MapTable.genuine_load table container _)
  rintro ⟨table, m⟩
  apply genuine_calling_bind (genuine_demand _ table.get)
  intro get
  apply genuine_calling_bind (genuine_demand _ key)
  intro key
  exact m.genuine_lookup key

theorem genuine_enumerate (table : Option (SequenceTable γ ε)) (container : Option γ)
    (visitor : Bool) : Genuine (enumerate table container visitor).1 := by
  apply genuine_calling_bind (SequenceTable.genuine_load table container _)
  intro s
  apply genuine_calling_bind (genuine_demand _ _)
  intro visit
  exact genuine_ok _

theorem genuine_items (table : Option (MapTable γ κ υ)) (container : Option γ)
    (visitor : Bool) : Genuine (items table container visitor).1 := by
  apply genuine_calling_bind (MapTable.genuine_load table container _)
  rintro ⟨table, m⟩
  apply genuine_calling_bind (genuine_demand _ _)
  intro visit
  apply genuine_calling_bind (genuine_demand _ table.iterate)
  intro iterate
  exact genuine_ok _

theorem genuine_slice (table : Option (SequenceTable γ ε)) (container : Option γ)
    (written : Option WrittenSlice) (out : Bool) (capacity : Nat) :
    Genuine (slice table container written out capacity).1 := by
  apply genuine_calling_bind (SequenceTable.genuine_load table container _)
  intro s
  apply genuine_calling_bind (genuine_demand _ written)
  intro written
  apply (s.genuine_slice written.spec).bind
  intro elements
  exact .ite (genuine_error.mpr (by simp)) (genuine_ok elements)

end Boundary

theorem resolveIndex_le {index : Int} {length position : Nat}
    (representable : index ≤ Word.greatest)
    (found : resolveIndex index length = .ok position) : (position : Int) ≤ Word.greatest := by
  have saturated := Word.saturate_mem (index + Word.signed length)
  have within : (if index < 0 then Word.saturate (index + Word.signed length) else index)
      ≤ Word.greatest := by
    split
    · exact saturated.2
    · exact representable
  unfold resolveIndex at found
  dsimp only at found
  generalize (if index < 0 then Word.saturate (index + Word.signed length) else index) = place
    at found within
  split at found
  · obtain rfl := Except.ok.inj found
    omega
  · cases found

/-- Resizing to something does not lose the block. -/
theorem Heap.isSome_of_realloc {h h' : Heap} {old answer : Option BlockId} {size : Nat}
    {o o' : Observer} (positive : size ≠ 0)
    (resized : h.realloc old size o = .ok (answer, h', o')) : answer.isSome := by
  unfold Heap.realloc at resized
  rw [if_neg positive] at resized
  split at resized
  · simp only [Except.ok.injEq, Prod.mk.injEq] at resized
    rw [← resized.1]
    rfl
  · cases resized

theorem Machine.isSome_of_realloc {machine : Machine} {heap : HeapId} {old answer : Option BlockId}
    {size : Nat} (positive : size ≠ 0)
    (answered : (machine.realloc heap old size).1 = .ok answer) : answer.isSome := by
  unfold realloc onHeap at answered
  split at answered
  · rename_i resized
    obtain rfl := Except.ok.inj answered
    exact Heap.isSome_of_realloc positive resized
  · cases answered

namespace Sentinels

open Boundary

section Entries

variable {γ ε κ υ : Type} (machine : Machine)

theorem unambiguous_normalizeIndex {index : Int} (length : Nat)
    (representable : index ≤ Word.greatest) :
    Unambiguous (fun machine => number (normalizeIndex index length machine)) machine := by
  unfold normalizeIndex
  apply unambiguous_answer_map (genuine_resolveIndex index length)
  intro position found
  simp only [resolveIndex_le representable found, if_true]
  exact Int.natCast_nonneg position

theorem unambiguous_normalizeSlice (written : Option WrittenSlice) (length : Nat)
    (out : Option Slice) :
    Unambiguous (perform (.normalizeSlice written length out : Call γ ε κ υ)) machine := by
  have genuine : Genuine (do
      let slice ← require written "pyrt_normalize_slice" "slice"
      let _ ← require out "pyrt_normalize_slice" "output slot"
      slice.spec.resolve length) := by
    apply (genuine_require written _ _).bind
    intro slice
    apply (genuine_require out _ _).bind
    intro place
    exact slice.spec.genuine_resolve length
  apply unambiguous_status (Machine.reports_attempt genuine)
  intro machine
  unfold perform normalizeSlice answerStatus Machine.attempt
  dsimp only
  split
  · rfl
  · rfl

theorem unambiguous_slicePosition {slice : Option Slice} {place : Nat}
    (resolved : ∀ found, slice = some found → ∃ (spec : SliceSpec) (length : Nat),
      spec.resolve length = .ok found) :
    Unambiguous (fun machine => number (slicePosition slice place machine)) machine := by
  unfold slicePosition
  apply unambiguous_answer
  · apply (genuine_require slice _ _).bind
    intro found
    exact .ite (genuine_error.mpr (by simp)) (genuine_ok _)
  · intro i answered
    cases slice with
    | none => cases answered
    | some found =>
        obtain ⟨spec, length, resolves⟩ := resolved found rfl
        change (if found.length ≤ place then _ else _) = _ at answered
        split at answered
        · cases answered
        · rename_i inside
          -- A place inside the count is a position, and no clipping touches it.
          have bounds := SliceSpec.position_bounds resolves (Nat.lt_of_not_le inside)
          obtain rfl := Except.ok.inj answered
          rw [clip_eq_self bounds.2.2]
          exact bounds.1

theorem unambiguous_progressionLength (start stop step : Int) :
    Unambiguous (fun machine => number (progressionLength start stop step machine)) machine :=
  unambiguous_answer_map (Progression.genuine_make start stop step) fun p _ => clip_nonneg p.count

theorem unambiguous_progressionContains (start stop step value : Int) :
    Unambiguous (fun machine => number (progressionContains start stop step value machine))
      machine := by
  apply unambiguous_answer_map (Progression.genuine_make start stop step)
  intro p _
  split <;> decide

theorem unambiguous_realloc (block : Option BlockId) {size : Nat} (positive : size ≠ 0) :
    Unambiguous (fun machine => pointer (realloc block size machine)) machine := by
  apply unambiguous_pointer (Machine.reports_realloc Machine.systemHeap block size)
  intro machine
  unfold realloc
  rcases acted : machine.realloc Machine.systemHeap block size with ⟨_ | answer, after⟩
  · rfl
  · have present := Machine.isSome_of_realloc positive (congrArg Prod.fst acted)
    simp [pointer, present, Except.toOption]

theorem realloc_zero (block : Option BlockId) :
    (realloc block 0 machine).1 = none ∧
      Quiet (fun machine => pointer (realloc block 0 machine)) machine := by
  constructor
  · cases block <;> rfl
  · intro slot
    cases block <;> rfl

theorem unambiguous_copy (dest : Option Place) (destSize : Nat) (src : Option Place)
    (srcSize : Nat) (overlapping : Bool) :
    Unambiguous (fun machine => status (copy dest destSize src srcSize overlapping machine))
      machine := by
  have genuine := Bounded.genuine_admitCopy dest.isSome src.isSome destSize srcSize overlapping
  unfold copy
  generalize Bounded.admitCopy dest.isSome src.isSome destSize srcSize overlapping = admitted
    at genuine ⊢
  rcases admitted with failure | _
  · exact unambiguous_answerStatus genuine
  · rcases dest with _ | dest
    · exact unambiguous_answerStatus genuine
    · rcases src with _ | src
      · exact unambiguous_answerStatus genuine
      · exact .of_quiet (fun _ => rfl) rfl

theorem unambiguous_fill (dest : Option BlockId) (value : Int) (count destSize : Nat) :
    Unambiguous (fun machine => status (fill dest value count destSize machine)) machine := by
  have genuine := Bounded.genuine_admitFill dest.isSome destSize count
  unfold fill
  generalize Bounded.admitFill dest.isSome destSize count = admitted at genuine ⊢
  rcases admitted with failure | _
  · exact unambiguous_answerStatus genuine
  · rcases dest with _ | dest
    · exact unambiguous_answerStatus genuine
    · exact .of_quiet (fun _ => rfl) rfl

theorem unambiguous_poolAlloc (pool : Option Nat) (size : Nat) :
    Unambiguous (fun machine => pointer (poolAlloc pool size machine)) machine := by
  cases pool with
  | none => exact unambiguous_answerPointer (genuine_require none "pyrt_pool_alloc" "pool")
  | some pool =>
      apply unambiguous_pointer (Machine.reports_poolAlloc pool size)
      intro machine
      change (Reply.pointer ((machine.poolAlloc pool size).1.toOption.map Handle.offset).isSome, _)
        = _
      rw [Option.isSome_map]
      rfl

theorem unambiguous_newObject (size : Nat) (destructor : Option (Destructor Block)) :
    Unambiguous (fun machine => pointer (newObject size destructor machine)) machine := by
  by_cases reserved : machine.session.system.reserves (payloadRoom size)
  · apply Unambiguous.of_quiet
    · intro slot
      have reserved' : (machine.setSlot slot).session.system.reserves (payloadRoom size) := reserved
      simp only [newObject, reserved', if_true]
      rfl
    · simp only [newObject, reserved, if_true]
      rfl
  · have failed : Records (fun machine => pointer (newObject size destructor machine)) machine
        (.raise .memory ("failed to allocate refcounted payload of " ++ toString size ++ " bytes")
          "pyrt_refcount_new") := by
      refine ⟨by simp, ?_⟩
      intro slot
      have reserved' : ¬(machine.setSlot slot).session.system.reserves (payloadRoom size) :=
        reserved
      simp only [newObject, reserved']
      rfl
    apply Unambiguous.of_records failed
    · simp only [newObject, reserved]
      rfl
    · intro code coded
      cases coded

theorem genuine_requireObject (object : Option ObjectId) (operation : String) :
    Genuine (requireObject object operation) := by
  cases object <;> simp [requireObject]

theorem unambiguous_retain (object : Option ObjectId) :
    Unambiguous (fun machine => pointer (retain object machine)) machine := by
  cases object with
  | none => exact unambiguous_answerPointer (genuine_requireObject none "pyrt_refcount_retain")
  | some id =>
      refine .of_quiet ?_ rfl
      intro slot
      rfl

theorem unambiguous_payload {object : Option ObjectId} (written : List UInt8)
    (held : ∀ id, object = some id → (machine.cells.get? id).isSome) :
    Unambiguous (fun machine => pointer (payload object written machine)) machine := by
  cases object with
  | none => exact unambiguous_answerPointer (genuine_requireObject none "pyrt_refcount_data")
  | some id =>
      obtain ⟨object, found⟩ := Option.isSome_iff_exists.mp (held id rfl)
      apply Unambiguous.of_quiet
      · intro slot
        have found' : (machine.setSlot slot).cells.get? id = some object := found
        simp only [payload, requireObject, found']
        rfl
      · simp only [payload, requireObject, found]
        rfl

theorem unambiguous_register (registry : Option RegistryId) (resource : Option Nat)
    (cleanup : Bool) (name : Option (List UInt8)) :
    Unambiguous (fun machine => status (register registry resource cleanup name machine))
      machine := by
  have genuine : Genuine (do
      let registry ← require registry "pyrt_registry_register" "registry"
      let resource ← require resource "pyrt_registry_register" "resource"
      if cleanup then
        return (registry, resource)
      else
        throw (.raise .value "cleanup callback is null" "pyrt_registry_register")) := by
    apply (genuine_require registry _ _).bind
    intro registry
    apply (genuine_require resource _ _).bind
    intro resource
    exact .ite (genuine_ok _) (genuine_error.mpr (by simp))
  unfold register
  dsimp only
  split
  · rename_i failure refused
    rw [refused] at genuine
    exact unambiguous_answerStatus (genuine_error.mpr (genuine failure rfl))
  · exact .of_quiet (fun _ => rfl) rfl

/-- The slices that `normalizeSlice` hands out are resolved ones. -/
theorem resolved_of_normalizeSlice {written : Option WrittenSlice} {length : Nat}
    {out resolved : Slice}
    (succeeded : (normalizeSlice written length (some out) machine).1 = Kind.ok.code)
    (stored : (normalizeSlice written length (some out) machine).2.1 = some resolved) :
    ∃ spec : SliceSpec, spec.resolve length = .ok resolved := by
  cases written with
  | none =>
      have refused : Kind.value.code = Kind.ok.code := succeeded
      exact absurd refused (by decide)
  | some written =>
      cases resolves : written.spec.resolve length with
      | error failure =>
          have genuine := written.spec.genuine_resolve length failure resolves
          simp only [normalizeSlice, require, bind, Except.bind, resolves, answerStatus,
            Boundary.status] at succeeded
          exact absurd succeeded (Kind.code_ne_ok genuine)
      | ok slice =>
          simp only [normalizeSlice, require, bind, Except.bind, resolves, Option.some.injEq]
            at stored
          exact ⟨written.spec, resolves.trans (congrArg Except.ok stored)⟩

/-- Whatever a call is given, it answers with a reserved value or leaves the slot alone. -/
theorem unambiguous_perform {machine : Machine} {call : Call γ ε κ υ}
    (proper : call.Proper machine) (keeps : call.releases = false) :
    Unambiguous (perform call) machine := by
  cases call with
  | normalizeIndex index length => exact unambiguous_normalizeIndex machine length proper.2
  | normalizeSlice slice length out => exact unambiguous_normalizeSlice machine slice length out
  | progressionLength start stop step =>
      exact unambiguous_progressionLength machine start stop step
  | progressionContains start stop step value =>
      exact unambiguous_progressionContains machine start stop step value
  | slicePosition slice place =>
      apply unambiguous_slicePosition
      rintro found rfl
      obtain ⟨written, length, out, earlier, succeeded, stored⟩ := proper
      obtain ⟨spec, resolves⟩ := resolved_of_normalizeSlice earlier succeeded stored
      exact ⟨spec, length, resolves⟩
  | element table container index =>
      exact unambiguous_answerPointer (genuine_element table container index)
  | lookup table container key =>
      exact unambiguous_answerPointer (genuine_lookup table container key)
  | enumerate table container visitor =>
      exact unambiguous_answerCount (genuine_enumerate table container visitor)
  | items table container visitor =>
      exact unambiguous_answerStatus (genuine_items table container visitor)
  | slice table container written out capacity =>
      exact unambiguous_answerCount (genuine_slice table container written out capacity)
  | malloc size => exact unambiguous_pointer (Machine.reports_malloc _ size) fun _ => rfl
  | calloc count size =>
      exact unambiguous_pointer (Machine.reports_calloc _ count size) fun _ => rfl
  | realloc block size =>
      exact unambiguous_realloc machine block (by simpa [Call.releases] using keeps)
  | copy dest destSize src srcSize overlapping =>
      exact unambiguous_copy machine dest destSize src srcSize overlapping
  | fill dest value count destSize => exact unambiguous_fill machine dest value count destSize
  | copyText text =>
      exact unambiguous_pointer (Machine.reports_copyTerminated text) fun _ => rfl
  | counters out => exact unambiguous_answerStatus (genuine_require _ _ _)
  | scopeAlloc scope size =>
      exact unambiguous_pointer
        (reports_onScope scope _ fun id => Machine.reports_scopeAlloc id size) fun _ => rfl
  | scopeAllocZeroed scope count size =>
      exact unambiguous_pointer
        (reports_onScope scope _ fun id => Machine.reports_scopeAllocZeroed id count size)
        fun _ => rfl
  | scopeRegister scope block =>
      exact unambiguous_status
        (reports_onScope scope _ fun id => Machine.reports_scopeRegister id block) fun _ => rfl
  | newPool capacity =>
      exact unambiguous_pointer (Machine.reports_openPool (some capacity)) fun _ => rfl
  | poolAlloc pool size => exact unambiguous_poolAlloc machine pool size
  | newObject size destructor => exact unambiguous_newObject machine size destructor
  | retain object => exact unambiguous_retain machine object
  | payload object written =>
      apply unambiguous_payload machine written
      rintro id rfl
      exact proper
  | register registry resource cleanup name =>
      exact unambiguous_register machine registry resource cleanup name

/-- A call answers with the value that is reserved for failures exactly when it has recorded a
failure itself or has released a block. A release records nothing; who records nothing leaves the
slot alone; and the slot gives a status that is not zero again. -/
theorem reserved_of_call (machine : Machine) (call : Call γ ε κ υ) (proper : call.Proper machine) :
    ((perform call machine).1.reserved = true ↔
      (∃ failure, Records (perform call) machine failure) ∨ call.releases = true) ∧
    (call.releases = true → ¬∃ failure, Records (perform call) machine failure) ∧
    ((¬∃ failure, Records (perform call) machine failure) → Quiet (perform call) machine) ∧
    ∀ code, (perform call machine).1 = .status code → code ≠ Kind.ok.code →
      (perform call machine).2.slot.code.code = code := by
  cases releases : call.releases with
  | false =>
      have unambiguous := unambiguous_perform proper releases
      refine ⟨?_, ?_, unambiguous.quiet, unambiguous.status⟩
      · simpa using unambiguous.reserved
      · intro released
        cases released
  | true =>
      cases call with
      | realloc block size =>
          -- Nothing to resize to: the pointer is null, and no failure was behind it.
          obtain rfl : size = 0 := by simpa [Call.releases] using releases
          obtain ⟨nothing, quiet⟩ := realloc_zero machine block
          have unrecorded : ¬∃ failure,
              Records (perform (.realloc block 0 : Call γ ε κ υ)) machine failure := by
            rintro ⟨failure, records⟩
            exact Quiet.not_records quiet records
          refine ⟨?_, fun _ => unrecorded, fun _ => quiet, ?_⟩
          · simp [perform, pointer, nothing, Reply.reserved]
          · intro code answered
            cases answered
      | _ => cases releases

end Entries

/-- Walked from its end, a sequence has position zero last, next to minus one. -/
theorem reserved_of_call_backwards :
    let call : Call Unit Unit Unit Unit :=
      .slicePosition (some { start := 2, stop := -1, step := -1, length := 3 }) 2
    call.Proper {} ∧ (perform call {}).1 = .number 0 ∧ Quiet (perform call) {} := by
  intro call
  have proper : call.Proper {} :=
    ⟨some { start := 0, stop := 0, step := -1, hasStart := 0, hasStop := 0, hasStep := 1 },
      3, default, {}, rfl, rfl⟩
  have answered : (perform call {}).1 = .number 0 := rfl
  obtain ⟨reserved, -, quiet, -⟩ := reserved_of_call {} call proper
  refine ⟨proper, answered, quiet fun recorded => ?_⟩
  have lost := reserved.mpr (.inl recorded)
  rw [answered] at lost
  cases lost

end Sentinels

end Underlay
