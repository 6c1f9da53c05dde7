import Underlay.Proofs.Failures.Operations

/-!
# Routines and operations agree

The steps of a routine come to the same as the operation on the whole machine: the same answer and
the same machine behind, where there is room for what is reserved on the way. A failure is told
from the site of the call. Here this is said of requests to heaps and of copied texts.
-/

namespace Underlay

namespace Heap

variable {h granted : Heap} {size : Nat} {block : BlockId}

theorem modify_push (blocks : Array Block) (b : Block) (change : Block → Block) :
    (blocks.push b).modify blocks.size change = blocks.push (change b) := by
  apply Array.ext_getElem?
  intro i
  rw [Array.getElem?_modify, Array.getElem?_push, Array.getElem?_push]
  by_cases last : i = blocks.size
  · simp [last]
  · simp [last, Ne.symm last]

/-- Only blocks that were there have content to be copied: what the new one holds is fresh. -/
theorem overlay_block?_push (h : Heap) (source : Source) (old : BlockId) (memory : Memory)
    (room size : Nat) :
    let content (h : Heap) := (h.block? old).getD { size := 0, memory := .filled 0 }
    let later := { h with source, blocks := h.blocks.push { size := room, memory } }
    (content later).memory.overlay memory (min (content later).size size) =
      (content h).memory.overlay memory (min (content h).size size) := by
  intro content later
  by_cases home : old.heap = h.id
  · by_cases new : old.number = h.blocks.size
    · have fresh : content later = { size := room, memory } := by
        simp [content, later, block?, home, new]
      have absent : content h = { size := 0, memory := .filled 0 } := by
        simp [content, block?, home, new]
      rw [fresh, absent]
      funext i
      simp [Memory.overlay]
    · have same : content later = content h := by
        simp [content, later, block?, home, Array.getElem?_push, new]
      rw [same]
  · have same : content later = content h := by
      simp [content, later, block?, home]
    rw [same]

/-- To resize a block is to take another one, copy what fits and release the old one. -/
theorem reallocate_of_allocate (done : h.allocate size = some (block, granted)) (old : BlockId) :
    h.reallocate (some old) size =
      some (block, (granted.modify block fun m =>
        let content := (granted.block? old).getD { size := 0, memory := .filled 0 }
        content.memory.overlay m (min content.size size)).release old) := by
  simp only [allocate, grant, Option.map_eq_some_iff, Prod.mk.injEq] at done
  obtain ⟨source, grants, rfl, rfl⟩ := done
  simp only [reallocate, grant, grants, Option.map_some, modify, if_true, modify_push,
    overlay_block?_push]

theorem reallocate_of_refused (refused : h.allocate size = none) (old : Option BlockId) :
    h.reallocate old size = none := by
  cases old with
  | none => exact refused
  | some old =>
      simp only [allocate, grant, Option.map_eq_none_iff] at refused
      simp only [reallocate, grant, refused]
      rfl

end Heap

namespace Machine

variable (machine : Machine)

@[simp]
theorem setHeap_setHeap (id : HeapId) (heap heap' : Heap) :
    (machine.setHeap id heap).setHeap id heap' = machine.setHeap id heap' := by
  simp [setHeap]

@[simp]
theorem setHeap_heap (id : HeapId) : machine.setHeap id (machine.heap id) = machine := by
  by_cases present : id < machine.heaps.size
  · simp [setHeap, heap, Array.setIfInBounds, present]
  · exact setHeap_of_absent _ present

/-- A change of a heap that was just set. -/
theorem setHeap_change (id : HeapId) (heap : Heap) (change : Heap → Heap) :
    (machine.setHeap id heap).setHeap id (change ((machine.setHeap id heap).heap id)) =
      machine.setHeap id (change heap) := by
  by_cases present : id < machine.heaps.size
  · rw [heap_setHeap_self heap present, setHeap_setHeap]
  · rw [setHeap_of_absent heap present, setHeap_of_absent _ present, setHeap_of_absent _ present]

/-- Only the heaps that were added record. -/
theorem present_of_recording {machine : Machine} {id : HeapId} {budget : Option Nat}
    (recording : (machine.heap id).source = .recording budget) : id < machine.heaps.size := by
  by_cases present : id < machine.heaps.size
  · exact present
  · rw [heap_of_absent present] at recording
    cases recording

@[simp]
theorem session_setHeap (id : HeapId) (heap : Heap) :
    (machine.setHeap id heap).session = machine.session := rfl

theorem allocateRaw_of_grant {machine : Machine} {id : HeapId} {size : Nat} {source : Source}
    (granted : (machine.heap id).source.grant size = some source) (zeroed : Bool) :
    machine.allocateRaw id size zeroed =
      (some { heap := (machine.heap id).id, number := (machine.heap id).blocks.size },
        machine.setHeap id { machine.heap id with
          source
          blocks := (machine.heap id).blocks.push
            { size := (machine.heap id).source.room size,
              memory := if zeroed then .filled 0 else (machine.heap id).source.fresh } }) := by
  cases zeroed <;> simp [allocateRaw, Heap.allocate, Heap.allocateZeroed, Heap.grant, granted]

theorem allocateRaw_of_refused {machine : Machine} {id : HeapId} {size : Nat}
    (refused : (machine.heap id).source.grant size = none) (zeroed : Bool) :
    machine.allocateRaw id size zeroed = (none, machine) := by
  cases zeroed <;> simp [allocateRaw, Heap.allocate, Heap.allocateZeroed, Heap.grant, refused]

end Machine

namespace Failures

variable {ε α β : Type}

namespace Scene

/-- A scene behind a call of an operation on its machine, and the answer as it is seen from the
site of the call. -/
def answer (scene : Scene ε) (site : Site) (call : Except Failure α × Machine) :
    Except Failure α × Scene ε :=
  let after := scene.withMachine call.2
  match call.1 with
  | .ok a => (.ok a, after)
  | .error failure => (.error (failure.calledAt site), after.report (failure.calledAt site))

end Scene

namespace Routine

/-- The routine comes to the same as the call, where there is room. -/
def Performs (site : Site) (routine : Routine ε α) (room : Machine → Nat)
    (call : Machine → Except Failure α × Machine) : Prop :=
  ∀ scene, routine.run scene =
    scene.machine.reserving (room scene.machine) (scene.answer site (call scene.machine))

variable {scene after : Scene ε}

@[simp]
theorem reserving_zero (machine : Machine) (a : α) : machine.reserving 0 a = .reached a := rfl

theorem run_bind_of_reserving {routine : Routine ε α} {bytes : Nat} {a : α}
    (done : routine.run scene = scene.machine.reserving bytes (.ok a, after))
    (next : α → Routine ε β) {answer : Except Failure β × Scene ε}
    (later : (next a).run after = .reached answer) :
    (routine >>= next).run scene = scene.machine.reserving bytes answer := by
  rw [run_bind, done]
  cases room : scene.machine.session.system.reserves bytes <;>
    simp [Machine.reserving, System.reserving, room, later]

/-- A routine that goes on behind a call if it succeeds. -/
theorem run_bind_answer {site : Site} {routine : Routine ε α} {bytes : Nat}
    {first : Except Failure α × Machine} {call : Except Failure β × Machine}
    (performs : routine.run scene = scene.machine.reserving bytes (scene.answer site first))
    {next : α → Routine ε β}
    (succeeded : ∀ a machine, first = (.ok a, machine) →
      (next a).run (scene.withMachine machine) = .reached (scene.answer site call))
    (failed : ∀ failure machine, first = (.error failure, machine) →
      call = (.error failure, machine)) :
    (routine >>= next).run scene = scene.machine.reserving bytes (scene.answer site call) := by
  rw [run_bind, performs]
  cases reserved : scene.machine.session.system.reserves bytes with
  | false => simp [Machine.reserving, System.reserving, reserved]
  | true =>
      simp only [Machine.reserving, System.reserving, reserved, if_true]
      rcases first with ⟨failure | a, machine⟩
      · rw [failed failure machine rfl]
        rfl
      · exact succeeded a machine rfl

section Heaps

variable (site : Site) (id : HeapId)

theorem run_place (block : Block) :
    (place id block).run scene =
      .reached (.ok { heap := (scene.machine.heap id).id,
                      number := (scene.machine.heap id).blocks.size },
        scene.withMachine (scene.machine.setHeap id { scene.machine.heap id with
          blocks := (scene.machine.heap id).blocks.push block })) := rfl

theorem reserved_of_recording (size : Nat) (budget : Option Nat) :
    (Source.recording budget).reserved size =
      if ((Source.recording budget).grant size).isSome then max 1 size else 0 := by
  rcases budget with _ | _ | left <;> rfl

/-- A recording heap takes one from its budget exactly if it grants a request. -/
theorem run_takeBudget {budget : Option Nat} (size : Nat)
    (recording : (scene.machine.heap id).source = .recording budget) :
    (takeBudget id).run scene =
      match (scene.machine.heap id).source.grant size with
      | none => .reached (.ok false, scene)
      | some source =>
          .reached (.ok true, scene.withMachine
            (scene.machine.setHeap id { scene.machine.heap id with source })) := by
  rcases budget with _ | _ | left
  · have same : ({ scene.machine.heap id with source := .recording none } : Heap) =
        scene.machine.heap id := by
      rw [← recording]
    simp only [takeBudget, run_view_bind, recording, Source.grant, same, Machine.setHeap_heap]
    rfl
  · simp [takeBudget, recording, Source.grant]
  · simp [takeBudget, recording, Source.grant, changeHeap]

theorem run_allocate_of_system {system : System} (size : Nat) (zeroed : Bool)
    (source : (scene.machine.heap id).source = .system system) :
    (allocate id size zeroed).run scene = .reached
      (.ok (scene.machine.allocateRaw id size zeroed).1,
        scene.withMachine (scene.machine.allocateRaw id size zeroed).2) := by
  unfold allocate
  rw [run_view_bind, source]
  dsimp only
  cases granted : system.grants size with
  | true =>
      have grants : (scene.machine.heap id).source.grant size = some (.system system) := by
        simp [source, Source.grant, granted]
      rw [Machine.allocateRaw_of_grant grants, if_pos rfl, run_bind_of_ok (run_place id _), source]
      simp [source, Source.room, Source.fresh]
  | false =>
      have refuses : (scene.machine.heap id).source.grant size = none := by
        simp [source, Source.grant, granted]
      rw [Machine.allocateRaw_of_refused refuses, if_neg Bool.false_ne_true]
      rfl

theorem run_allocate_of_recording {budget : Option Nat} (size : Nat) (zeroed : Bool)
    (source : (scene.machine.heap id).source = .recording budget) :
    (allocate id size zeroed).run scene =
      scene.machine.reserving ((scene.machine.heap id).source.reserved size)
        (.ok (scene.machine.allocateRaw id size zeroed).1,
          scene.withMachine (scene.machine.allocateRaw id size zeroed).2) := by
  have present := Machine.present_of_recording source
  have taken := run_takeBudget id size source
  unfold allocate
  rw [run_view_bind, source]
  dsimp only
  cases grants : (scene.machine.heap id).source.grant size with
  | none =>
      rw [grants] at taken
      rw [source] at grants
      have unasked := reserved_of_recording size budget
      rw [grants] at unasked
      rw [Machine.allocateRaw_of_refused (source ▸ grants), run_bind_of_ok taken, unasked,
        if_neg Bool.false_ne_true]
      rfl
  | some left =>
      rw [grants] at taken
      rw [source] at grants
      have asked := reserved_of_recording size budget
      rw [grants] at asked
      rw [Machine.allocateRaw_of_grant (source ▸ grants), run_bind_of_ok taken, if_pos rfl,
        run_reserve_bind, run_bind_of_ok (run_place id _)]
      simp [source, asked, Source.room, Source.fresh, Machine.reserving, System.reserving,
        Machine.heap_setHeap_self _ present]

theorem run_allocate (size : Nat) (zeroed : Bool) :
    (allocate id size zeroed).run scene =
      scene.machine.reserving ((scene.machine.heap id).source.reserved size)
        (.ok (scene.machine.allocateRaw id size zeroed).1,
          scene.withMachine (scene.machine.allocateRaw id size zeroed).2) := by
  cases source : (scene.machine.heap id).source with
  | system system =>
      rw [run_allocate_of_system id size zeroed source]
      exact (reserving_zero _ _).symm
  | recording budget => exact source ▸ run_allocate_of_recording id size zeroed source

/-- A routine that begins with a request to a heap. -/
theorem run_allocate_bind {next : Option BlockId → Routine ε α} {size : Nat} {zeroed : Bool}
    {scene : Scene ε} {answer : Except Failure α × Scene ε}
    (granted : ∀ block heap,
      (if zeroed then (scene.machine.heap id).allocateZeroed size
        else (scene.machine.heap id).allocate size) = some (block, heap) →
      (next (some block)).run (scene.withMachine (scene.machine.setHeap id heap)) =
        .reached answer)
    (refused :
      (if zeroed then (scene.machine.heap id).allocateZeroed size
        else (scene.machine.heap id).allocate size) = none →
      (next none).run scene = .reached answer) :
    (allocate id size zeroed >>= next).run scene =
      scene.machine.reserving ((scene.machine.heap id).source.reserved size) answer := by
  apply run_bind_of_reserving (run_allocate id size zeroed)
  unfold Machine.allocateRaw
  dsimp only
  split
  · exact granted _ _ ‹_›
  · exact refused ‹_›

theorem performs_malloc (size : Nat) :
    (malloc site id size : Routine ε _).Performs site (·.requestRoom id size)
      (·.malloc id size) := by
  intro scene
  dsimp only [malloc, Machine.requestRoom, Machine.malloc, Machine.onHeap, Heap.malloc]
  split
  · rfl
  · apply run_allocate_bind
    · intro block heap granted
      simp only [Bool.false_eq_true, if_false] at granted
      simp only [granted]
      rfl
    · intro refused
      simp only [Bool.false_eq_true, if_false] at refused
      simp only [refused]
      rfl

theorem performs_calloc (count size : Nat) :
    (calloc site id count size : Routine ε _).Performs site (·.arrayRoom id count size)
      (·.calloc id count size) := by
  intro scene
  dsimp only [calloc, Machine.arrayRoom, Machine.requestRoom, Machine.calloc, Machine.onHeap,
    Heap.calloc]
  split
  · rename_i empty
    have nothing : count * size = 0 := Nat.mul_eq_zero.mpr empty
    rw [nothing]
    rfl
  · rename_i filled
    cases fitting : Word.fit? (count * size) with
    | none => rfl
    | some total =>
        have positive : total ≠ 0 := by
          obtain ⟨rfl, -⟩ := Word.fit?_eq_some.mp fitting
          exact fun nothing => filled (Nat.mul_eq_zero.mp nothing)
        dsimp only [Option.getD_some]
        rw [if_neg positive]
        apply run_allocate_bind
        · intro block heap granted
          simp only [if_true] at granted
          simp only [granted]
          rfl
        · intro refused
          simp only [if_true] at refused
          simp only [refused]
          rfl

/-- A change of a heap that was just set. -/
theorem run_changeHeap_bind (write : Heap → Heap) (next : Unit → Routine ε α) (scene : Scene ε)
    (heap : Heap) :
    (changeHeap id write >>= next).run (scene.withMachine (scene.machine.setHeap id heap)) =
      (next ()).run (scene.withMachine (scene.machine.setHeap id (write heap))) := by
  unfold changeHeap
  rw [run_changeMachine_bind, Scene.machine_withMachine, Machine.setHeap_change,
    Scene.withMachine_withMachine]

/-- The content of the old block is copied to where the new one stands. -/
theorem run_reallocate (old : Option BlockId) (size : Nat) (scene : Scene ε) :
    (reallocate id old size).run scene =
      scene.machine.reserving ((scene.machine.heap id).source.reserved size)
        (.ok (((scene.machine.heap id).reallocate old size).map Prod.fst),
          scene.withMachine
            (((scene.machine.heap id).reallocate old size).elim scene.machine fun granted =>
              scene.machine.setHeap id granted.2)) := by
  apply run_allocate_bind
  · intro block heap granted
    simp only [Bool.false_eq_true, if_false] at granted
    cases old with
    | none =>
        simp only [Heap.reallocate, granted]
        rfl
    | some old =>
        dsimp only
        rw [run_changeHeap_bind, run_changeHeap_bind, run_pure,
          Heap.reallocate_of_allocate granted]
        rfl
  · intro refused
    simp only [Bool.false_eq_true, if_false] at refused
    rw [Heap.reallocate_of_refused refused]
    rfl

theorem performs_realloc (old : Option BlockId) (size : Nat) :
    (realloc site id old size : Routine ε _).Performs site (·.requestRoom id size)
      (·.realloc id old size) := by
  intro scene
  dsimp only [realloc, Machine.requestRoom, Machine.realloc, Machine.onHeap, Heap.realloc]
  split
  · cases old with
    | none =>
        have same : (scene.machine.setHeap id (scene.machine.heap id)).observe
            scene.machine.observer = scene.machine := by
          rw [Machine.setHeap_heap]
          rfl
        simp only [same]
        rfl
    | some block => rfl
  · apply run_bind_of_reserving (run_reallocate id old size scene)
    cases granted : (scene.machine.heap id).reallocate old size with
    | none => rfl
    | some answer =>
        cases old <;> rfl

theorem performs_duplicate (bytes : Array UInt8) :
    (duplicate site id bytes : Routine ε _).Performs site (·.requestRoom id bytes.size)
      (·.onHeap id fun heap o => heap.duplicate bytes o) := by
  intro scene
  apply run_bind_answer (performs_malloc site id bytes.size scene)
  · intro block machine answered
    dsimp only [Machine.malloc, Machine.onHeap, Heap.duplicate] at answered ⊢
    cases obtained : (scene.machine.heap id).malloc bytes.size scene.machine.observer with
    | error failure => simp [obtained] at answered
    | ok granted =>
        simp only [obtained, Prod.mk.injEq, Except.ok.injEq] at answered
        obtain ⟨rfl, rfl⟩ := answered
        exact run_changeHeap_bind id _ _ (scene.withMachine (scene.machine.observe granted.2.2))
          granted.2.1
  · intro failure machine answered
    dsimp only [Machine.malloc, Machine.onHeap, Heap.duplicate] at answered ⊢
    cases obtained : (scene.machine.heap id).malloc bytes.size scene.machine.observer with
    | error refused => simpa [obtained, Except.map] using answered
    | ok granted => simp [obtained] at answered

end Heaps

theorem performs_copyText (site : Site) (text : List UInt8) :
    (copyText site text : Routine ε _).Performs site
      (·.requestRoom Machine.systemHeap (text.length + 1)) (·.copyText text) := by
  have size : (text.toArray.push 0).size = text.length + 1 := by simp
  rw [← size]
  exact performs_duplicate site Machine.systemHeap (text.toArray.push 0)

theorem performs_copyTerminated (site : Site) (text : Option (List UInt8)) :
    (copyTerminated site text : Routine ε _).Performs site
      (·.requestRoom Machine.systemHeap (text.elim 0 fun text => (Text.terminated text).length + 1))
      (·.copyTerminated text) := by
  cases text with
  | none => exact fun _ => rfl
  | some bytes =>
      have size : ((bytes.toArray.takeWhile (· != 0)).push 0).size =
          (Text.terminated bytes).length + 1 := by
        simp [Text.terminated]
      rw [Option.elim_some, ← size]
      exact performs_duplicate site Machine.systemHeap
        ((bytes.toArray.takeWhile (· != 0)).push 0)

end Routine

end Failures

end Underlay
