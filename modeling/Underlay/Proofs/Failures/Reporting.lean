import Underlay.Container.Mapping
import Underlay.Container.Sequence
import Underlay.Machine.Pools
import Underlay.Machine.Scopes
import Underlay.Memory.Bounded
import Underlay.Progression

/-!
# Calls that report

A failure goes into the slot of the last failure, and nothing else does. `Reports` says this of a
call as one law, for all that the slot may hold before: the call answers and works as if the slot
were not there, and puts its own failure into it. So calls that consist of others report once, and
what they report is what they answer. Every operation that can fail gets one lemma; what it fails
with is told apart from success by its kind.
-/

namespace Underlay

/-- A failure, if there is one, is not of the kind that stands for none. -/
def Genuine {α : Type} (result : Except Failure α) : Prop :=
  ∀ failure, result = .error failure → failure.kind ≠ .ok

section Genuine

variable {α β : Type} {result : Except Failure α}

@[simp]
theorem genuine_ok (a : α) : Genuine (.ok a : Except Failure α) := by
  intro failure failed
  cases failed

@[simp]
theorem genuine_error {failure : Failure} :
    Genuine (.error failure : Except Failure α) ↔ failure.kind ≠ .ok := by
  constructor
  · intro genuine
    exact genuine failure rfl
  · rintro distinct _ ⟨⟩
    exact distinct

theorem Genuine.map (genuine : Genuine result) (f : α → β) : Genuine (result.map f) := by
  cases result with
  | ok a => exact genuine_ok (f a)
  | error failure => exact genuine_error.mpr (genuine failure rfl)

theorem Genuine.ite {condition : Prop} [Decidable condition] {other : Except Failure α}
    (genuine : Genuine result) (genuine' : Genuine other) :
    Genuine (if condition then result else other) := by
  split
  · exact genuine
  · exact genuine'

theorem Genuine.bind {next : α → Except Failure β} (genuine : Genuine result)
    (later : ∀ a, Genuine (next a)) : Genuine (result >>= next) := by
  cases result with
  | ok a => exact later a
  | error failure => exact genuine_error.mpr (genuine failure rfl)

end Genuine

/-! Operations that nothing of the state takes part in. -/

theorem genuine_resolveIndex (index : Int) (length : Nat) :
    Genuine (resolveIndex index length) :=
  .ite (genuine_ok _) (by simp)

theorem SliceSpec.genuine_resolve (spec : SliceSpec) (length : Nat) :
    Genuine (spec.resolve length) :=
  .ite (by simp) (genuine_ok _)

theorem Progression.genuine_make (start stop step : Int) : Genuine (make start stop step) :=
  .ite (by simp) (genuine_ok _)

namespace Sequence

variable {ε : Type} (s : Sequence ε)

theorem genuine_element (index : Int) : Genuine (s.element index).1 := by
  have resolved := genuine_resolveIndex index s.size
  unfold element
  cases found : resolveIndex index s.size with
  | error failure => exact genuine_error.mpr (resolved failure found)
  | ok position => cases present : s.at? position <;> simp [present, emptyAt]

theorem genuine_collect (cursor : Slice.Cursor) (count : Nat) :
    Genuine (s.collect cursor count).1 := by
  induction count generalizing cursor with
  | zero => exact genuine_ok []
  | succ count inductionHypothesis =>
      unfold collect
      cases cursor.next? with
      | none => exact genuine_ok []
      | some next =>
          cases present : s.at? next.1 with
          | none => simp [present, emptyAt]
          | some e => simpa [present] using (inductionHypothesis next.2).map (e :: ·)

theorem genuine_slice (spec : SliceSpec) : Genuine (s.slice spec).1 := by
  have resolves := spec.genuine_resolve s.size
  unfold slice
  cases resolved : spec.resolve s.size with
  | error failure => exact genuine_error.mpr (resolves failure resolved)
  | ok slice => exact s.genuine_collect slice.cursor slice.length

end Sequence

theorem Mapping.genuine_lookup {κ υ : Type} (m : Mapping κ υ) (key : κ) :
    Genuine (m.lookup key).1 := by
  unfold lookup
  cases m.contains key with
  | false => simp [missing]
  | true => cases m.get? key <;> simp [missing]

namespace Bounded

theorem genuine_admitCopy (dest src : Bool) (destSize srcSize : Nat) (overlapping : Bool) :
    Genuine (admitCopy dest src destSize srcSize overlapping) :=
  .ite (by simp) (.ite (by simp [overrun]) (genuine_ok ()))

theorem genuine_admitFill (dest : Bool) (destSize count : Nat) :
    Genuine (admitFill dest destSize count) :=
  .ite (by simp) (.ite (by simp [overrun]) (genuine_ok ()))

end Bounded

namespace Heap

variable (h : Heap) (o : Observer)

theorem genuine_malloc (size : Nat) : Genuine (h.malloc size o) := by
  unfold malloc
  split
  · simp
  · split <;> simp [exhausted]

theorem genuine_calloc (count size : Nat) : Genuine (h.calloc count size o) := by
  unfold calloc
  split
  · simp
  · split
    · simp
    · split <;> simp [exhausted]

theorem genuine_realloc (old : Option BlockId) (size : Nat) : Genuine (h.realloc old size o) := by
  unfold realloc
  split
  · cases old <;> simp
  · split <;> simp [exhausted]

theorem genuine_duplicateText (text : Array UInt8) : Genuine (h.duplicateText text o) :=
  (h.genuine_malloc o _).map _

theorem genuine_duplicateTerminated (text : Option (Array UInt8)) :
    Genuine (h.duplicateTerminated text o) := by
  unfold duplicateTerminated
  cases text with
  | none => simp
  | some bytes => exact h.genuine_duplicateText o _

end Heap

namespace Scope

variable (s : Scope) (h : Heap) (o : Observer)

theorem genuine_alloc (size : Nat) : Genuine (s.alloc h size o).1 := by
  have obtained := h.genuine_malloc o size
  unfold alloc
  cases result : h.malloc size o with
  | error failure => exact genuine_error.mpr (obtained failure result)
  | ok answer => exact genuine_ok _

theorem genuine_allocZeroed (count size : Nat) : Genuine (s.allocZeroed h count size o).1 := by
  have obtained := h.genuine_calloc o count size
  unfold allocZeroed
  cases result : h.calloc count size o with
  | error failure => exact genuine_error.mpr (obtained failure result)
  | ok answer => exact genuine_ok _

theorem genuine_register (block : Option BlockId) : Genuine (s.register block o).1 := by
  cases block <;> simp [register]

end Scope

namespace Pool

theorem genuine_admitBuffer (capacity : Nat) : Genuine (admitBuffer capacity) :=
  .ite (genuine_ok ()) (by simp)

theorem genuine_make (system : System) (id capacity : Nat) (o : Observer) :
    Genuine (make system id capacity o).1 := by
  have admitted := genuine_admitBuffer capacity
  unfold make refusal?
  cases buffer : admitBuffer capacity with
  | error failure => exact genuine_error.mpr (admitted failure buffer)
  | ok => cases granted : system.grants capacity <;> simp

theorem genuine_grow (p : Pool) (system : System) (needed : Nat) (o : Observer) :
    Genuine (p.grow system needed o).1 := by
  unfold grow
  cases enlarge p.capacity needed with
  | none => simp
  | some capacity =>
      have admitted := genuine_admitBuffer capacity
      cases buffer : admitBuffer capacity with
      | error failure => simpa [buffer] using admitted failure buffer
      | ok => cases granted : system.grants capacity <;> simp [buffer, granted]

theorem genuine_alloc (p : Pool) (system : System) (size : Nat) (o : Observer) :
    Genuine (p.alloc system size o).1 := by
  unfold alloc
  cases p.demand? size with
  | none => simp
  | some needed =>
      by_cases short : p.capacity < needed
      · simpa [short] using (p.genuine_grow system needed o).map _
      · simp [short, Except.map]

end Pool

/-- A call that does not look at the slot, and changes it only by putting its failure there. -/
structure Reports {α : Type} (call : Machine → Except Failure α × Machine) : Prop where
  law : ∀ machine slot, call (machine.setSlot slot) =
    ((call machine).1, (call machine).2.setSlot (slot.after (call machine).1))
  genuine : ∀ machine, Genuine (call machine).1

namespace Machine

/-! Nothing but the slot itself is behind the slot. -/

section SetSlot

variable (machine : Machine) (slot : Slot)

@[simp]
theorem observer_setSlot : (machine.setSlot slot).observer = machine.observer := rfl

@[simp]
theorem heap_setSlot (id : HeapId) : (machine.setSlot slot).heap id = machine.heap id := rfl

@[simp]
theorem scope?_setSlot (id : Nat) : (machine.setSlot slot).scope? id = machine.scope? id := rfl

@[simp]
theorem pool?_setSlot (id : Nat) : (machine.setSlot slot).pool? id = machine.pool? id := rfl

end SetSlot

theorem reports_attempt {α : Type} {result : Except Failure α} (genuine : Genuine result) :
    Reports (·.attempt result) := by
  refine ⟨?_, fun _ => genuine⟩
  intro machine slot
  cases result <;> rfl

theorem reports_onHeap {α : Type} (id : HeapId)
    {act : Heap → Observer → Except Failure (α × Heap × Observer)}
    (genuine : ∀ h o, Genuine (act h o)) : Reports (·.onHeap id act) := by
  constructor
  · intro machine slot
    simp only [onHeap, heap_setSlot, observer_setSlot]
    cases act (machine.heap id) machine.observer <;> rfl
  · intro machine
    have raised := genuine (machine.heap id) machine.observer
    unfold onHeap
    cases acted : act (machine.heap id) machine.observer with
    | ok answer => exact genuine_ok _
    | error failure => exact genuine_error.mpr (raised failure acted)

theorem reports_onScope {α : Type} (id : Nat) (a : α)
    {act : Scope → Heap → Observer → Except Failure (α × Scope × Heap) × Observer}
    (genuine : ∀ s h o, Genuine (act s h o).1) : Reports (·.onScope id (.ok a) act) := by
  constructor
  · intro machine slot
    simp only [onScope, scope?_setSlot, heap_setSlot, observer_setSlot]
    cases machine.scope? id with
    | none => rfl
    | some s =>
        dsimp only
        rcases act s.scope (machine.heap s.heap) machine.observer with ⟨failure | answer, o⟩ <;> rfl
  · intro machine
    unfold onScope
    cases machine.scope? id with
    | none => exact genuine_ok a
    | some s =>
        have raised := genuine s.scope (machine.heap s.heap) machine.observer
        rcases acted : act s.scope (machine.heap s.heap) machine.observer with
          ⟨failure | answer, o⟩
        · simpa [acted] using raised failure (by rw [acted])
        · simp [acted]

theorem reports_onPool {α : Type} (id : Nat) (a : α)
    {act : Machine → Pool → Observer → Except Failure (α × Pool) × Observer}
    (blind : ∀ machine slot, act (machine.setSlot slot) = act machine)
    (genuine : ∀ machine p o, Genuine (act machine p o).1) :
    Reports fun machine => machine.onPool id (.ok a) (act machine) := by
  constructor
  · intro machine slot
    simp only [onPool, pool?_setSlot, observer_setSlot, blind]
    cases machine.pool? id with
    | none => rfl
    | some p =>
        dsimp only
        rcases act machine p machine.observer with ⟨failure | answer, o⟩ <;> rfl
  · intro machine
    unfold onPool
    cases machine.pool? id with
    | none => exact genuine_ok a
    | some p =>
        have raised := genuine machine p machine.observer
        rcases acted : act machine p machine.observer with ⟨failure | answer, o⟩
        · simpa [acted] using raised failure (by rw [acted])
        · simp [acted]

theorem reports_openPool (asked : Option Nat) : Reports (·.openPool asked) := by
  constructor
  · intro machine slot
    rcases made : Pool.make machine.session.system (machine.session.poolsOpened + 1)
        (if asked.getD 0 = 0 then machine.session.poolCapacity else asked.getD 0)
        machine.session.observer with ⟨failure | p, o⟩
    · have other : (machine.setSlot slot).openPool asked = _ := openPool_of_make_error made
      rw [openPool_of_make_error made, other]
      rfl
    · have other : (machine.setSlot slot).openPool asked = _ := openPool_of_make_ok made
      rw [openPool_of_make_ok made, other]
      rfl
  · intro machine
    have raised := Pool.genuine_make machine.session.system (machine.session.poolsOpened + 1)
      (if asked.getD 0 = 0 then machine.session.poolCapacity else asked.getD 0)
      machine.session.observer
    rcases made : Pool.make machine.session.system (machine.session.poolsOpened + 1)
        (if asked.getD 0 = 0 then machine.session.poolCapacity else asked.getD 0)
        machine.session.observer with ⟨failure | p, o⟩
    · rw [openPool_of_make_error made]
      rw [made] at raised
      exact genuine_error.mpr (raised failure rfl)
    · rw [openPool_of_make_ok made]
      exact genuine_ok p.id

/-! The operations themselves. -/

theorem reports_malloc (heap : HeapId) (size : Nat) : Reports (·.malloc heap size) :=
  reports_onHeap heap fun h o => h.genuine_malloc o size

theorem reports_calloc (heap : HeapId) (count size : Nat) : Reports (·.calloc heap count size) :=
  reports_onHeap heap fun h o => h.genuine_calloc o count size

theorem reports_realloc (heap : HeapId) (old : Option BlockId) (size : Nat) :
    Reports (·.realloc heap old size) :=
  reports_onHeap heap fun h o => h.genuine_realloc o old size

theorem reports_copyTerminated (text : Option (List UInt8)) : Reports (·.copyTerminated text) :=
  reports_onHeap systemHeap fun h o => h.genuine_duplicateTerminated o _

theorem reports_scopeAlloc (scope size : Nat) : Reports (·.scopeAlloc scope size) :=
  reports_onScope scope default fun s h o => s.genuine_alloc h o size

theorem reports_scopeAllocZeroed (scope count size : Nat) :
    Reports (·.scopeAllocZeroed scope count size) :=
  reports_onScope scope default fun s h o => s.genuine_allocZeroed h o count size

theorem reports_scopeRegister (scope : Nat) (block : Option BlockId) :
    Reports (·.scopeRegister scope block) :=
  reports_onScope scope () fun s _ o => (s.genuine_register o block).map _

theorem reports_poolAlloc (pool size : Nat) : Reports (·.poolAlloc pool size) :=
  reports_onPool pool default (fun _ _ => rfl) fun machine p o =>
    p.genuine_alloc machine.session.system size o

end Machine

end Underlay
