import Underlay.Proofs.Blocks.Contents
import Underlay.Proofs.Blocks.Step

/-!
# Resizing on a recording heap

A recording heap resizes a block by granting another one, which takes over as much as fits and holds
zeros behind, and by logging the release of the old one; to size zero it only logs. A budget is
spent by whatever is granted, so that it lets through exactly the first requests of any run.
-/

namespace Underlay

theorem Memory.read_overlay_filled (m : Memory) (held size : Nat) :
    (m.overlay (.filled 0) (min held size)).read 0 size =
      (m.read 0 held).take size ++ List.replicate (size - held) 0 := by
  apply List.ext_getElem?
  intro i
  rw [Memory.getElem?_read, List.getElem?_append, List.length_take, Memory.length_read,
    List.getElem?_take, Memory.getElem?_read, List.getElem?_replicate]
  simp only [Memory.overlay, Memory.filled, Nat.zero_add]
  grind

namespace Heap

variable {h h' : Heap} {budget : Option Nat} {b : Block} {id : BlockId} {old : Option BlockId}
  {size : Nat}

/-- What a resize takes over from: the old block, or one without bytes. -/
def taken (h : Heap) (old : Option BlockId) : Block :=
  (old.bind h.block?).getD { size := 0, memory := .filled 0 }

/-- The block that a recording heap puts in the place of another. -/
def moved (h : Heap) (old : Option BlockId) (size : Nat) : Block :=
  let taken := h.taken old
  { size := max 1 size, memory := taken.memory.overlay (.filled 0) (min taken.size size) }

/-- A recording heap behind a resize, with so much of its budget left. -/
def resettled (h : Heap) (left : Option Nat) (old : Option BlockId) (size : Nat) : Heap :=
  { h with
    source := .recording left
    blocks := h.blocks.push (h.moved old size)
    releases := h.releases ++ old.toList }

theorem read_moved (h : Heap) (old : Option BlockId) (positive : 0 < size) :
    (h.moved old size).memory.read 0 (h.moved old size).size =
      ((h.taken old).memory.read 0 (h.taken old).size).take size ++
        List.replicate (size - (h.taken old).size) 0 := by
  rw [moved, Nat.max_eq_right positive, Memory.read_overlay_filled]

theorem grant_of_recording (recording : h.source = .recording budget) (left : budget ≠ some 0)
    (size : Nat) (memory : Memory) :
    h.grant size memory =
      some ({ heap := h.id, number := h.blocks.size },
        { h with
          source := .recording (budget.map (· - 1))
          blocks := h.blocks.push { size := max 1 size, memory } }) := by
  simp only [grant, recording, Source.room]
  cases budget with
  | none => rfl
  | some k =>
      cases k with
      | zero => exact absurd rfl left
      | succ k => rfl

theorem reallocate_of_recording (recording : h.source = .recording budget)
    (left : budget ≠ some 0) (old : Option BlockId) (size : Nat) :
    h.reallocate old size =
      some ({ heap := h.id, number := h.blocks.size },
        h.resettled (budget.map (· - 1)) old size) := by
  have fresh : h.source.fresh = .filled 0 := by rw [recording, Source.fresh]
  cases old with
  | none =>
      -- Nothing is laid in front of the zeros.
      have blank : h.moved none size = { size := max 1 size, memory := .filled 0 } :=
        congrArg (Block.mk _) (funext fun _ => ite_self _)
      simp only [reallocate, allocate, fresh, grant_of_recording recording left, resettled, blank,
        Option.toList_none, List.append_nil]
  | some id =>
      simp only [reallocate, fresh, grant_of_recording recording left]
      rfl

theorem Turn.spends {answer : Option BlockId} {left : Nat} (turn : h.Turn (some answer) h')
    (recording : h.source = .recording (some left)) :
    answer.isSome = decide (0 < left) ∧ h'.source = .recording (some (left - 1)) := by
  cases turn with
  | refused exhausted =>
      rw [recording] at exhausted
      cases left with
      | zero => exact ⟨rfl, recording⟩
      | succ left => cases exhausted
  | granted _ _ source =>
      rw [recording] at source
      cases left with
      | zero => cases source
      | succ left =>
          exact ⟨(decide_eq_true (Nat.succ_pos left)).symm, (Option.some.inj source).symm⟩

theorem grant_of_exhausted (recording : h.source = .recording (some 0)) (size : Nat)
    (memory : Memory) : h.grant size memory = none := by
  rw [grant, recording]
  rfl

theorem reallocate_of_exhausted (recording : h.source = .recording (some 0))
    (old : Option BlockId) (size : Nat) : h.reallocate old size = none := by
  cases old with
  | none => exact grant_of_exhausted recording size _
  | some id =>
      simp only [reallocate, grant_of_exhausted recording, Option.map_none]

theorem realloc_zero (h : Heap) (old : Option BlockId) (o : Observer) :
    ∃ o', h.realloc old 0 o =
      .ok (none, { h with releases := h.releases ++ old.toList }, o') := by
  cases old with
  | none => exact ⟨o, by simp [realloc]⟩
  | some id => exact ⟨o.noteFree none, rfl⟩

theorem realloc_of_some (positive : 0 < size) (granted : h.reallocate old size = some (id, h'))
    (o : Observer) : ∃ o', h.realloc old size o = .ok (some id, h', o') := by
  simp only [realloc, if_neg (Nat.ne_of_gt positive), granted]
  exact ⟨_, rfl⟩

theorem realloc_of_none (positive : 0 < size) (refused : h.reallocate old size = none)
    (o : Observer) :
    h.realloc old size o = .error (exhausted "reallocate to" "checked_realloc" size) := by
  simp only [realloc, if_neg (Nat.ne_of_gt positive), refused]

/-- A heap with one more block, the next by number. -/
theorem block?_of_push (same : h'.id = h.id) (blocks : h'.blocks = h.blocks.push b)
    (other : BlockId) :
    h'.block? other =
      if other = { heap := h.id, number := h.blocks.size } then some b else h.block? other := by
  rw [block?, same, blocks, Array.getElem?_push, block?]
  obtain ⟨heap, number⟩ := other
  by_cases home : heap = h.id
  · simp [home]
  · simp [home]

end Heap

namespace Blocks

variable {machine after : Machine} {heap : HeapId} {budget : Option Nat} {old : Option BlockId}
  {size : Nat}

/-! One request. -/

/-- Behind a resize the heap logged the old block, if there was one, and has so much of its budget
left. The other heaps are as they were. -/
structure Logged (machine : Machine) (heap : HeapId) (old : Option BlockId) (budget : Option Nat)
    (after : Machine) : Prop where
  releases : (after.heap heap).releases = (machine.heap heap).releases ++ old.toList
  source : (after.heap heap).source = .recording budget
  beside : ∀ other, other ≠ heap → after.heap other = machine.heap other

/-- Behind a resize there is one more block. It begins with as much of the old one as fits, and
holds zeros behind. -/
structure Resized (machine : Machine) (old : Option BlockId) (size : Nat) (new : BlockId)
    (after : Machine) : Prop where
  fresh : machine.block? new = none
  content :
    let held := (old.map machine.bytes).getD []
    after.bytes new = held.take size ++ List.replicate (size - held.length) 0
  frame : ∀ other, other ≠ new → after.block? other = machine.block? other

theorem present_of_recording (recording : (machine.heap heap).source = .recording budget) :
    heap < machine.heaps.size := by
  by_cases present : heap < machine.heaps.size
  · exact present
  · -- What is asked for a heap that is not there is a system heap.
    rw [Machine.heap_of_absent present] at recording
    cases recording

theorem logged_setHeap {h : Heap} {o : Observer} (present : heap < machine.heaps.size)
    (releases : h.releases = (machine.heap heap).releases ++ old.toList)
    (source : h.source = .recording budget) :
    Logged machine heap old budget ((machine.setHeap heap h).observe o) := by
  have changed : ((machine.setHeap heap h).observe o).heap heap = h :=
    Machine.heap_setHeap_self h present
  refine ⟨?_, ?_, fun other distinct => Machine.heap_setHeap_of_ne machine h distinct⟩
  · rw [changed, releases]
  · rw [changed, source]

theorem block?_setHeap_push {h : Heap} {b : Block} (present : heap < machine.heaps.size)
    (named : (machine.heap heap).id = heap) (same : h.id = (machine.heap heap).id)
    (blocks : h.blocks = (machine.heap heap).blocks.push b) (other : BlockId) :
    (machine.setHeap heap h).block? other =
      if other = { heap, number := (machine.heap heap).blocks.size } then some b
      else machine.block? other := by
  rw [Machine.block?_setHeap present]
  by_cases home : other.heap = heap
  · rw [if_pos home, Heap.block?_of_push same blocks, named, Machine.block?, home]
  · have elsewhere : other ≠ { heap, number := (machine.heap heap).blocks.size } :=
      fun same => home (congrArg BlockId.heap same)
    rw [if_neg home, if_neg elsewhere]

theorem bytes_of_taken (named : (machine.heap heap).id = heap)
    (held : ∀ block ∈ old, ((machine.heap heap).block? block).isSome) :
    (old.map machine.bytes).getD [] =
      ((machine.heap heap).taken old).memory.read 0 ((machine.heap heap).taken old).size := by
  cases old with
  | none => rfl
  | some block =>
      obtain ⟨b, found⟩ := Option.isSome_iff_exists.mp (held block rfl)
      have home : block.heap = heap := by
        rw [Heap.block?] at found
        split at found
        · exact named ▸ ‹block.heap = _›
        · cases found
      have there : machine.block? block = some b := by rw [Machine.block?, home, found]
      simp only [Option.map_some, Option.getD_some, Machine.bytes_of_some there, Heap.taken,
        Option.bind_some, found]

theorem realloc_zero (recording : (machine.heap heap).source = .recording budget)
    (old : Option BlockId) :
    let call := machine.realloc heap old 0
    call.1 = .ok none ∧ Logged machine heap old budget call.2 ∧
      ∀ other, call.2.block? other = machine.block? other := by
  intro call
  obtain ⟨o, done⟩ := (machine.heap heap).realloc_zero old machine.observer
  have present := present_of_recording recording
  let h := { machine.heap heap with releases := (machine.heap heap).releases ++ old.toList }
  have answer : call = (.ok none, (machine.setHeap heap h).observe o) := by
    simp only [call, Machine.realloc, Machine.onHeap, done, h]
  rw [answer]
  refine ⟨rfl, logged_setHeap present rfl recording, fun other => ?_⟩
  refine (Machine.block?_setHeap present h other).trans ?_
  split
  · rw [Machine.block?, ‹other.heap = heap›]
    rfl
  · rfl

theorem realloc_exhausted (positive : 0 < size)
    (recording : (machine.heap heap).source = .recording (some 0)) (old : Option BlockId) :
    ∃ failure : Failure, failure.kind = .memory ∧
      machine.realloc heap old size =
        (.error failure, machine.note (.error failure : Except Failure (Option BlockId))) := by
  have refused := Heap.reallocate_of_exhausted recording old size
  have failed := Heap.realloc_of_none positive refused machine.observer
  refine ⟨Heap.exhausted "reallocate to" "checked_realloc" size, rfl, ?_⟩
  simp only [Machine.realloc, Machine.onHeap, failed]

theorem realloc_granted (named : (machine.heap heap).id = heap)
    (recording : (machine.heap heap).source = .recording budget) (left : budget ≠ some 0)
    (held : ∀ block ∈ old, ((machine.heap heap).block? block).isSome) (positive : 0 < size) :
    let call := machine.realloc heap old size
    ∃ new, call.1 = .ok (some new) ∧ Logged machine heap old (budget.map (· - 1)) call.2 ∧
      Resized machine old size new call.2 := by
  intro call
  have granted := Heap.reallocate_of_recording recording left old size
  obtain ⟨o, done⟩ := Heap.realloc_of_some positive granted machine.observer
  have present := present_of_recording recording
  let new : BlockId := { heap, number := (machine.heap heap).blocks.size }
  let h := (machine.heap heap).resettled (budget.map (· - 1)) old size
  have answer : call = (.ok (some new), (machine.setHeap heap h).observe o) := by
    simp only [call, Machine.realloc, Machine.onHeap, done, named, h, new]
  have same : h.id = (machine.heap heap).id := rfl
  have blocks (other : BlockId) : ((machine.setHeap heap h).observe o).block? other =
      if other = new then some ((machine.heap heap).moved old size) else machine.block? other :=
    block?_setHeap_push present named same rfl other
  rw [answer]
  refine ⟨new, rfl, logged_setHeap present rfl rfl, ?_, ?_, fun other distinct => ?_⟩
  · simp [Machine.block?, Heap.block?, new]
  · intro bytes
    have content : bytes = _ := bytes_of_taken named held
    rw [Machine.bytes_of_some ((blocks new).trans (if_pos rfl)), Heap.read_moved _ _ positive,
      content, Memory.length_read]
  · rw [blocks, if_neg distinct]

/-! Runs. -/

theorem outcomes_cons (heap : HeapId) (event : Event) (history : List Event) :
    outcomes heap (event :: history) =
      outcomes heap history ++ ((event.answer heap).map Option.isSome).toList := by
  rw [outcomes, List.filterMap_cons]
  cases event.answer heap with
  | none => simp [outcomes]
  | some answer => simp [outcomes]

/-- Of the requests that reached a heap with a budget of `k`, the first `k` were granted. -/
structure Spends (heap : HeapId) (k : Nat) (run : Run Machine Event) : Prop where
  source : (run.state.heap heap).source =
    .recording (some (k - (outcomes heap run.history).length))
  told : outcomes heap run.history =
    (List.range (outcomes heap run.history).length).map fun i => decide (i < k)

namespace Spends

variable {k : Nat} {history : List Event} {event : Event}

theorem silent (spends : Spends heap k { state := machine, history })
    (answered : event.answer heap = none)
    (kept : ∀ budget, (machine.heap heap).source = .recording budget →
      (after.heap heap).source = .recording budget) :
    Spends heap k { state := after, history := event :: history } := by
  have same : outcomes heap (event :: history) = outcomes heap history := by
    rw [outcomes_cons, answered, Option.map_none, Option.toList_none, List.append_nil]
  refine ⟨?_, ?_⟩
  · rw [same]
    exact kept _ spends.source
  · rw [same]
    exact spends.told

theorem asked {answer : Option BlockId} (spends : Spends heap k { state := machine, history })
    (answered : event.answer heap = some answer)
    (granted : answer.isSome = decide ((outcomes heap history).length < k))
    (source : (after.heap heap).source =
      .recording (some (k - (outcomes heap history).length - 1))) :
    Spends heap k { state := after, history := event :: history } := by
  have longer : outcomes heap (event :: history) = outcomes heap history ++ [answer.isSome] := by
    rw [outcomes_cons, answered, Option.map_some, Option.toList_some]
  have told : outcomes heap history = _ := spends.told
  refine ⟨?_, ?_⟩
  · rw [longer, List.length_append, List.length_singleton, ← Nat.sub_sub]
    exact source
  · -- Counted from zero, this request has the number of those before it.
    rw [longer, List.length_append, List.length_singleton, List.range_succ, List.map_append,
      ← told, granted]
    rfl

theorem step (spends : Spends heap k { state := machine, history })
    (taken : Step machine event after) :
    Spends heap k { state := after, history := event :: history } := by
  have turn := taken.turns heap
  cases answered : event.answer heap with
  | none =>
      rw [answered] at turn
      cases turn with
      | kept _ _ kept => exact spends.silent answered kept
  | some answer =>
      rw [answered] at turn
      obtain ⟨granted, left⟩ := turn.spends spends.source
      exact spends.asked answered (granted.trans (decide_eq_decide.mpr Nat.sub_pos_iff_lt)) left

end Spends

/-! Room. -/

/-- To resize a block: the program reserves what it takes, and the heap does the rest. -/
def resize (machine : Machine) (heap : HeapId) (old : Option BlockId) (size : Nat) :
    Course (Except Failure (Option BlockId) × Machine) :=
  machine.reserving (machine.requestRoom heap size) (machine.realloc heap old size)

theorem requestRoom_of_exhausted (recording : (machine.heap heap).source = .recording (some 0))
    (size : Nat) : machine.requestRoom heap size = 0 := by
  rw [Machine.requestRoom, recording]
  exact ite_self 0

theorem requestRoom_of_recording (recording : (machine.heap heap).source = .recording budget)
    (left : budget ≠ some 0) (positive : 0 < size) :
    machine.requestRoom heap size = size := by
  have reserved : (machine.heap heap).source.reserved size = max 1 size := by
    rw [recording]
    match budget, left with
    | none, _ => rfl
    | some (_ + 1), _ => rfl
    | some 0, left => exact absurd rfl left
  rw [Machine.requestRoom, if_neg (Nat.ne_of_gt positive), reserved, Nat.max_eq_right positive]

theorem resize_of_room
    (room : machine.session.system.reserves (machine.requestRoom heap size) = true)
    (old : Option BlockId) :
    resize machine heap old size = .reached (machine.realloc heap old size) :=
  System.reserving_of_reserves room

theorem resize_zero (recording : (machine.heap heap).source = .recording budget)
    (old : Option BlockId) :
    ∃ after, resize machine heap old 0 = .reached (.ok none, after) ∧
      Logged machine heap old budget after ∧
      ∀ other, after.block? other = machine.block? other := by
  obtain ⟨answer, logged, kept⟩ := realloc_zero recording old
  refine ⟨_, ?_, logged, kept⟩
  rw [resize_of_room (System.reserves_zero _)]
  exact congrArg Course.reached (Prod.ext answer rfl)

theorem resize_exhausted (positive : 0 < size)
    (recording : (machine.heap heap).source = .recording (some 0)) (old : Option BlockId) :
    ∃ failure : Failure, failure.kind = .memory ∧
      resize machine heap old size = .reached (.error failure,
        machine.note (.error failure : Except Failure (Option BlockId))) := by
  obtain ⟨failure, memory, failed⟩ := realloc_exhausted positive recording old
  refine ⟨failure, memory, ?_⟩
  rw [resize_of_room (requestRoom_of_exhausted recording size ▸ System.reserves_zero _), failed]

theorem resize_granted (named : (machine.heap heap).id = heap)
    (recording : (machine.heap heap).source = .recording budget) (left : budget ≠ some 0)
    (held : ∀ block ∈ old, ((machine.heap heap).block? block).isSome) (positive : 0 < size)
    (reserved : machine.session.system.reserves size = true) :
    ∃ new after, resize machine heap old size = .reached (.ok (some new), after) ∧
      Logged machine heap old (budget.map (· - 1)) after ∧ Resized machine old size new after := by
  obtain ⟨new, answer, logged, resized⟩ := realloc_granted named recording left held positive
  refine ⟨new, _, ?_, logged, resized⟩
  rw [resize_of_room (by rwa [requestRoom_of_recording recording left positive])]
  exact congrArg Course.reached (Prod.ext answer rfl)

theorem resize_aborted (recording : (machine.heap heap).source = .recording budget)
    (left : budget ≠ some 0) (old : Option BlockId) (positive : 0 < size)
    (refused : machine.session.system.reserves size = false) :
    resize machine heap old size = .aborted :=
  System.reserving_of_not_reserves (by rwa [requestRoom_of_recording recording left positive])

/-- A recording heap with any budget, whatever it granted and logged before. To resize one of its
blocks, or none, to size zero gives none, logs the block, and leaves all blocks and the budget as
they are. To resize it to another size fails for want of memory and changes no heap if the budget is
exhausted. Otherwise, if the program can reserve the block, there is a block that was not there
before, with as much of the old content as fits and zeros behind; the old block is logged, one unit
is spent, and all other blocks are as they were. If the program cannot reserve the block, it ends.
Along every run for which there is room, exactly as many of the first requests that reach the heap
are granted as its budget says, whatever their kind. -/
theorem resizing_of_recording (named : (machine.heap heap).id = heap)
    (recording : (machine.heap heap).source = .recording budget) :
    (∀ old : Option BlockId, (∀ block ∈ old, ((machine.heap heap).block? block).isSome) →
      (∃ after, resize machine heap old 0 = .reached (.ok none, after) ∧
        Logged machine heap old budget after ∧
        ∀ other, after.block? other = machine.block? other) ∧
      ∀ size, 0 < size →
        (budget = some 0 → ∃ failure : Failure, failure.kind = .memory ∧
          resize machine heap old size = .reached (.error failure,
            machine.note (.error failure : Except Failure (Option BlockId)))) ∧
        (budget ≠ some 0 → machine.session.system.reserves size = true →
          ∃ new after, resize machine heap old size = .reached (.ok (some new), after) ∧
            Logged machine heap old (budget.map (· - 1)) after ∧
            Resized machine old size new after) ∧
        (budget ≠ some 0 → machine.session.system.reserves size = false →
          resize machine heap old size = .aborted)) ∧
    ∀ k, budget = some k → ∀ commands, hasRoom machine commands = true →
      let asked := outcomes heap (run machine commands).history
      asked = (List.range asked.length).map fun i => decide (i < k) := by
  refine ⟨fun old held => ⟨resize_zero recording old, fun size positive => ⟨?_, ?_, ?_⟩⟩, ?_⟩
  · rintro rfl
    exact resize_exhausted positive recording old
  · exact fun left reserved => resize_granted named recording left held positive reserved
  · exact fun left refused => resize_aborted recording left old positive refused
  · rintro k rfl commands -
    have start : Spends heap k { state := machine } := ⟨recording, rfl⟩
    have spends : Spends heap k (run machine commands) :=
      Run.steps_induction _
        (fun run command spends => spends.step (step_perform run.state command)) start commands
    exact spends.told

/-- A heap that may still grant one block is asked for `2 ^ 63` bytes, which no pointer can span,
and for `2 ^ 62`, which the system refuses: it neither fails nor grants them. -/
theorem not_resizing_of_recording :
    let recorder (machine : Machine) := (machine.addRecorder (some 1)).2
    let vast := recorder { session := { system := { grants := fun _ => true } } }
    let usual := recorder {}
    ((vast.heap 1).source = .recording (some 1) ∧
        resize vast 1 none 0x8000000000000000 = .aborted) ∧
      (usual.heap 1).source = .recording (some 1) ∧
        resize usual 1 none 0x4000000000000000 = .aborted := by
  intro recorder vast usual
  have beyond : vast.session.system.reserves 0x8000000000000000 = false := by decide +kernel
  have refused : usual.session.system.reserves 0x4000000000000000 = false := by decide +kernel
  have left : some 1 ≠ some 0 := by decide
  refine ⟨⟨rfl, ?_⟩, rfl, ?_⟩
  · exact resize_aborted rfl left none (by decide) beyond
  · exact resize_aborted rfl left none (by decide) refused

/-- A heap for four blocks: one of four bytes is written to and grows, another one shrinks, and
requests of all kinds come in between, some of them turned down before they reach the heap. -/
theorem resizing_of_recording_mixed :
    let machine := (({} : Machine).addRecorder (some 4)).2
    let block (number : Nat) : BlockId := { heap := 1, number }
    let written : Memory → Memory := fun m => m.write 0 #[1, 2, 3, 4]
    let before : List Command := [.malloc 1 4, .write (block 0) written]
    let ran := (run machine before).state
    let later : List Command :=
      [.malloc 1 0, .realloc 1 (some (block 0)) 6, .realloc 1 none 0,
        .calloc 1 0x100000000 0x100000000, .calloc 1 2 3, .realloc 1 (some (block 1)) 2,
        .realloc 1 (some (block 2)) 0, .malloc 1 1, .realloc 1 none 5]
    ((ran.heap 1).id = 1 ∧ (ran.heap 1).source = .recording (some 3) ∧
      ((ran.heap 1).block? (block 0)).isSome ∧ hasRoom ran later = true) ∧
      (∃ new after, resize ran 1 (some (block 0)) 6 = .reached (.ok (some new), after) ∧
        after.bytes new = [1, 2, 3, 4, 0, 0]) ∧
      (∃ new after, resize ran 1 (some (block 0)) 3 = .reached (.ok (some new), after) ∧
        after.bytes new = [1, 2, 3]) ∧
      resize ran 1 (some (block 0)) 0x8000000000000000 = .aborted ∧
      outcomes 1 (run ran later).history = [true, true, true, false, false] := by
  intro machine block written before ran later
  have recording : (ran.heap 1).source = .recording (some 3) := rfl
  have held : ∀ id ∈ some (block 0), ((ran.heap 1).block? id).isSome := by
    rintro id ⟨⟩
    decide
  have room : hasRoom ran later = true := by decide
  obtain ⟨resizes, spends⟩ := resizing_of_recording rfl recording
  have ⟨_, resizes⟩ := resizes (some (block 0)) held
  have bytes : ran.bytes (block 0) = [1, 2, 3, 4] := by decide
  refine ⟨⟨rfl, recording, held _ rfl, room⟩, ?_, ?_, ?_, ?_⟩
  · obtain ⟨new, after, granted, -, resized⟩ :=
      (resizes 6 (by decide)).2.1 (by decide) (by decide)
    refine ⟨new, after, granted, ?_⟩
    rw [resized.content, Option.map_some, Option.getD_some, bytes]
    rfl
  · obtain ⟨new, after, granted, -, resized⟩ :=
      (resizes 3 (by decide)).2.1 (by decide) (by decide)
    refine ⟨new, after, granted, ?_⟩
    rw [resized.content, Option.map_some, Option.getD_some, bytes]
    rfl
  · exact (resizes 0x8000000000000000 (by decide)).2.2 (by decide) (by decide +kernel)
  · rw [spends 3 rfl later room]
    decide

end Blocks

end Underlay
