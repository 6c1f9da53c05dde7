import Underlay.Proofs.Blocks.Run

/-!
# What a command does to heaps, scopes and counts

`Heap.Turn` says what becomes of a heap that was not asked, that refused, or that granted a block.
`Step` puts this together for all heaps with what the observer counts and with the number of blocks
that every scope owns. Every command is a step; all that is proved of runs goes by this alone.
-/

namespace Underlay

/-- What becomes of a heap by what it answered. A block that it grants is the next one by number,
and a recording heap that was not asked keeps its budget. -/
inductive Heap.Turn (h : Heap) : Option (Option BlockId) → Heap → Prop where
  | kept {h' : Heap} (id : h'.id = h.id) (blocks : h'.blocks.size = h.blocks.size)
      (source : ∀ budget, h.source = .recording budget → h'.source = .recording budget) :
      Turn h none h'
  | refused {size : Nat} (exhausted : h.source.grant size = none) : Turn h (some none) h
  | granted {h' : Heap} {size : Nat} (id : h'.id = h.id)
      (blocks : h'.blocks.size = h.blocks.size + 1)
      (source : h.source.grant size = some h'.source) :
      Turn h (some (some { heap := h.id, number := h.blocks.size })) h'

namespace Observer

/-- The observer counts, and it has counted so many blocks each way, modulo the word. -/
structure Tallied (o : Observer) (granted returned : Nat) : Prop where
  counts : o.tracking.counts = true
  allocations : o.counters.allocations = Word.wrap granted
  frees : o.counters.frees = Word.wrap returned

/-- Between two observers so many blocks were counted each way. -/
def Tallies (o o' : Observer) (more less : Nat) : Prop :=
  ∀ granted returned, o.Tallied granted returned → o'.Tallied (granted + more) (returned + less)

variable {o o' o'' : Observer} {more less more' less' : Nat}

theorem tallies_self (o : Observer) : o.Tallies o 0 0 :=
  fun _ _ tallied => tallied

theorem Tallies.trans (first : o.Tallies o' more less) (second : o'.Tallies o'' more' less') :
    o.Tallies o'' (more + more') (less + less') := by
  intro granted returned tallied
  simpa only [Nat.add_assoc] using second _ _ (first granted returned tallied)

theorem tallies_emit (o : Observer) (event : Lifecycle.Event) : o.Tallies (o.emit event) 0 0 := by
  intro granted returned tallied
  unfold emit
  split
  · exact ⟨tallied.counts, tallied.allocations, tallied.frees⟩
  · exact tallied

theorem tallies_noteAlloc (o : Observer) (size : Nat) : o.Tallies (o.noteAlloc size) 1 0 := by
  intro granted returned tallied
  -- The counters wrap, so that of the next count only the remainder is known.
  rw [noteAlloc, if_pos tallied.counts]
  refine ⟨tallied.counts, ?_, tallied.frees⟩
  change Word.wrap (o.counters.allocations + 1) = Word.wrap (granted + 1)
  rw [tallied.allocations]
  exact Nat.mod_add_mod _ _ _

theorem tallies_noteFree (o : Observer) (size : Option Nat) : o.Tallies (o.noteFree size) 0 1 := by
  intro granted returned tallied
  have wrapped : Word.wrap (o.counters.frees + 1) = Word.wrap (returned + 1) := by
    rw [tallied.frees]
    exact Nat.mod_add_mod _ _ _
  rw [noteFree, if_pos tallied.counts]
  cases size <;> exact ⟨tallied.counts, tallied.allocations, wrapped⟩

end Observer

namespace Heap

variable {h h' : Heap} {o : Observer} {block : BlockId} {memory : Memory} {size : Nat}
  {reaches : Bool}

theorem Turn.self (h : Heap) : h.Turn none h :=
  .kept rfl rfl fun _ recording => recording

theorem Turn.same_id {answer : Option (Option BlockId)} (turn : h.Turn answer h') :
    h'.id = h.id := by
  cases turn with
  | kept id => exact id
  | refused => rfl
  | granted id => exact id

theorem Turn.blocks_le {answer : Option (Option BlockId)} (turn : h.Turn answer h') :
    h.blocks.size ≤ h'.blocks.size := by
  cases turn with
  | kept _ blocks => exact Nat.le_of_eq blocks.symm
  | refused => exact Nat.le_refl _
  | granted _ blocks => exact blocks ▸ Nat.le_succ _

theorem Turn.next (turn : h.Turn (some (some block)) h') :
    block = { heap := h.id, number := h.blocks.size } ∧
      h'.blocks.size = h.blocks.size + 1 := by
  cases turn with
  | granted _ blocks => exact ⟨rfl, blocks⟩

theorem turn_of_grant (granted : h.grant size memory = some (block, h')) :
    h.Turn (some (some block)) h' := by
  simp only [grant, Option.map_eq_some_iff, Prod.mk.injEq] at granted
  obtain ⟨source, paid, rfl, rfl⟩ := granted
  exact .granted rfl (Array.size_push _) paid

theorem grant_eq_none (refused : h.grant size memory = none) : h.source.grant size = none := by
  simpa [grant] using refused

theorem Turn.release (turn : h.Turn (some (some block)) h') (id : BlockId) :
    h.Turn (some (some block)) (h'.release id) := by
  cases turn with
  | granted same blocks source => exact .granted same blocks source

theorem Turn.modify (turn : h.Turn (some (some block)) h') (id : BlockId)
    (change : Memory → Memory) : h.Turn (some (some block)) (h'.modify id change) := by
  cases turn with
  | granted same blocks source =>
      unfold Heap.modify
      split
      · exact .granted same ((Array.size_modify ..).trans blocks) source
      · exact .granted same blocks source

theorem turn_of_reallocate {old : Option BlockId}
    (granted : h.reallocate old size = some (block, h')) : h.Turn (some (some block)) h' := by
  cases old with
  | none => exact turn_of_grant granted
  | some id =>
      simp only [reallocate, Option.map_eq_some_iff, Prod.mk.injEq] at granted
      obtain ⟨⟨new, grown⟩, granted, rfl, rfl⟩ := granted
      exact (turn_of_grant granted).release id

theorem reallocate_eq_none {old : Option BlockId} (refused : h.reallocate old size = none) :
    h.source.grant size = none := by
  cases old with
  | none => exact grant_eq_none refused
  | some id => exact grant_eq_none (Option.map_eq_none_iff.mp refused)

/-- What a checked request makes of a heap, and of the observer if it is granted. -/
inductive Serves (h : Heap) (o : Observer) (reaches : Bool) :
    Except Failure (BlockId × Heap × Observer) → Prop where
  | rejected (unreached : reaches = false) (failure : Failure) : Serves h o reaches (.error failure)
  | refused (reached : reaches = true) (turn : h.Turn (some none) h) (failure : Failure) :
      Serves h o reaches (.error failure)
  | granted {block : BlockId} {h' : Heap} (turn : h.Turn (some (some block)) h') (bytes : Nat) :
      Serves h o reaches (.ok (block, h', o.noteAlloc bytes))

theorem serves_malloc (h : Heap) (size : Nat) (o : Observer) :
    h.Serves o (decide (0 < size)) (h.malloc size o) := by
  unfold malloc
  by_cases empty : size = 0
  · rw [if_pos empty]
    exact .rejected (by simp [empty]) _
  · rw [if_neg empty]
    cases granted : h.allocate size with
    | none =>
        exact .refused (decide_eq_true (Nat.pos_of_ne_zero empty))
          (.refused (grant_eq_none granted)) _
    | some answer => exact .granted (turn_of_grant granted) size

theorem serves_calloc (h : Heap) (count size : Nat) (o : Observer) :
    h.Serves o (Blocks.askable (count * size)) (h.calloc count size o) := by
  unfold calloc
  by_cases empty : count = 0 ∨ size = 0
  · rw [if_pos empty]
    refine .rejected ?_ _
    have nothing : count * size = 0 := Nat.mul_eq_zero.mpr empty
    simp [Blocks.askable, nothing]
  · rw [if_neg empty]
    have positive : 0 < count * size :=
      Nat.pos_of_ne_zero fun nothing => empty (Nat.mul_eq_zero.mp nothing)
    cases fitting : Word.fit? (count * size) with
    | none =>
        refine .rejected ?_ _
        have large : ¬count * size < Word.limit := by simpa [Word.fit?] using fitting
        simp [Blocks.askable, large]
    | some total =>
        obtain ⟨rfl, fits⟩ := Word.fit?_eq_some.mp fitting
        dsimp only
        cases granted : h.allocateZeroed (count * size) with
        | none =>
            exact .refused (decide_eq_true (And.intro positive fits))
              (.refused (grant_eq_none granted)) _
        | some answer => exact .granted (turn_of_grant granted) _

theorem serves_duplicateText (h : Heap) (text : Array UInt8) (o : Observer) :
    h.Serves o true (h.duplicateText text o) := by
  have served := h.serves_malloc (text.push 0).size o
  rw [Array.size_push, decide_eq_true (Nat.succ_pos _)] at served
  rw [duplicateText, duplicate, Array.size_push]
  generalize h.malloc (text.size + 1) o = result at served ⊢
  cases served with
  | rejected unreached failure => cases unreached
  | refused reached turn failure => exact .refused reached turn failure
  | granted turn bytes => exact .granted (turn.modify _ _) bytes

theorem serves_duplicateTerminated (h : Heap) (text : Option (Array UInt8)) (o : Observer) :
    h.Serves o text.isSome (h.duplicateTerminated text o) := by
  cases text with
  | none => exact .rejected rfl _
  | some bytes => exact h.serves_duplicateText _ o

end Heap

namespace Scope

variable {h : Heap} {o : Observer}

/-- What a checked request of a scope makes of its heap, of the scope, which owns the block if it is
granted, and of the observer. -/
inductive Serves (s : Scope) (h : Heap) (o : Observer) (reaches : Bool) :
    Except Failure (BlockId × Scope × Heap) × Observer → Prop where
  | rejected (unreached : reaches = false) (failure : Failure) {o' : Observer}
      (tallies : o.Tallies o' 0 0) : Serves s h o reaches (.error failure, o')
  | refused (reached : reaches = true) (turn : h.Turn (some none) h) (failure : Failure)
      {o' : Observer} (tallies : o.Tallies o' 0 0) : Serves s h o reaches (.error failure, o')
  | granted {block : BlockId} {h' : Heap} (turn : h.Turn (some (some block)) h')
      (size : Option Nat) {o' : Observer} (tallies : o.Tallies o' 1 0) :
      Serves s h o reaches (.ok (block, { s with owned := { block, size } :: s.owned }, h'), o')

theorem serves_alloc (s : Scope) (h : Heap) (size : Nat) (o : Observer) :
    s.Serves h o (decide (0 < size)) (s.alloc h size o) := by
  have served := h.serves_malloc size o
  unfold alloc
  generalize h.malloc size o = result at served ⊢
  cases served with
  | rejected unreached failure => exact .rejected unreached failure (o.tallies_emit _)
  | refused reached turn failure => exact .refused reached turn failure (o.tallies_emit _)
  | granted turn bytes =>
      exact .granted turn _ ((o.tallies_noteAlloc bytes).trans (Observer.tallies_emit _ _))

theorem serves_allocZeroed (s : Scope) (h : Heap) (count size : Nat) (o : Observer) :
    s.Serves h o (Blocks.askable (count * size)) (s.allocZeroed h count size o) := by
  have served := h.serves_calloc count size o
  unfold allocZeroed
  generalize h.calloc count size o = result at served ⊢
  cases served with
  | rejected unreached failure => exact .rejected unreached failure (o.tallies_emit _)
  | refused reached turn failure => exact .refused reached turn failure (o.tallies_emit _)
  | granted turn bytes =>
      exact .granted turn _ ((o.tallies_noteAlloc bytes).trans (Observer.tallies_emit _ _))

theorem releaseAll_fst (registrations : List Registration) (h : Heap) (o : Observer) :
    (releaseAll registrations h o).1 =
      { h with releases := h.releases ++ registrations.map Registration.block } := by
  induction registrations generalizing h o with
  | nil => simp [releaseAll]
  | cons r rest inductionHypothesis => simp [releaseAll, inductionHypothesis, Heap.release]

theorem tallies_releaseAll (registrations : List Registration) (h : Heap) (o : Observer) :
    o.Tallies (releaseAll registrations h o).2 0 registrations.length := by
  induction registrations generalizing h o with
  | nil => exact o.tallies_self
  | cons r rest inductionHypothesis =>
      have later := inductionHypothesis (h.release r.block) (o.noteFree r.size)
      simpa [releaseAll, Nat.add_comm] using (o.tallies_noteFree r.size).trans later

end Scope

namespace Machine

variable {machine after : Machine}

theorem heap_of_heaps (same : after.heaps = machine.heaps) (id : HeapId) :
    after.heap id = machine.heap id := by
  rw [heap, same, heap]

theorem scopeSize_of_scopes (same : after.scopes = machine.scopes) (id : Nat) :
    after.scopeSize id = machine.scopeSize id := by
  rw [scopeSize, scope?, same, ← scope?, scopeSize]

theorem scopeSize_openScope (heap : HeapId) (id : Nat) :
    (machine.openScope heap).2.scopeSize id = machine.scopeSize id := by
  rw [scopeSize, scope?_openScope, scopeSize]
  cases machine.scope? id with
  | some s => rfl
  | none =>
      rw [Option.none_or]
      split <;> rfl

theorem scopeSize_setScope {scope : Scope} {s : OpenScope}
    (found : machine.scope? scope.id = some s) (id : Nat) :
    (machine.setScope scope).scopeSize id =
      if scope.id = id then scope.owned.length else machine.scopeSize id := by
  by_cases same : scope.id = id
  · subst same
    rw [scopeSize, scope?_setScope_self found, if_pos rfl]
    rfl
  · rw [scopeSize, scope?_setScope_of_ne machine (Ne.symm same), if_neg same, scopeSize]

theorem scopeSize_closeScope (closed id : Nat) :
    (machine.closeScope closed).scopeSize id =
      if closed = id then 0 else machine.scopeSize id := by
  by_cases same : closed = id
  · subst same
    rw [scopeSize, scope?_closeScope_self, if_pos rfl]
    rfl
  · rw [scopeSize, scope?_closeScope_of_ne machine (Ne.symm same), if_neg same, scopeSize]

end Machine

namespace Blocks

open Machine (systemHeap)

/-- How many more blocks are counted as allocated with an event. -/
def Event.allocations : Event → Nat
  | .granted _ _ _ => 1
  | _ => 0

/-- How many more blocks are counted as freed with an event. -/
def Event.frees (machine : Machine) : Event → Nat
  | .released _ => 1
  | .closed scope => machine.scopeSize scope
  | _ => 0

/-- How many blocks a scope owns behind an event. -/
def Event.owned (scope size : Nat) : Event → Nat
  | .granted _ (some owner) _ | .registered owner _ => if owner = scope then size + 1 else size
  | .closed owner => if owner = scope then 0 else size
  | _ => size

structure Step (before : Machine) (event : Event) (after : Machine) : Prop where
  size : after.heaps.size = before.heaps.size
  turns : ∀ heap, (before.heap heap).Turn (event.answer heap) (after.heap heap)
  tallies : before.observer.Tallies after.observer event.allocations (event.frees before)
  owned : ∀ scope, after.scopeSize scope = event.owned scope (before.scopeSize scope)

section Calls

variable {machine after : Machine} {heap : HeapId} {h : Heap} {event : Event}

/-- An event that asks no heap comes with any change to one that leaves its blocks there. -/
theorem turns_of_quiet (quiet : ∀ other, event.answer other = none)
    (turn : (machine.heap heap).Turn none h) (other : HeapId) :
    (machine.heap other).Turn (event.answer other) ((machine.setHeap heap h).heap other) := by
  rw [quiet]
  by_cases same : other = heap
  · subst same
    by_cases present : other < machine.heaps.size
    · rw [Machine.heap_setHeap_self h present]
      exact turn
    · rw [Machine.setHeap_of_absent h present]
      exact .self _
  · rw [Machine.heap_setHeap_of_ne machine h same]
    exact .self _

theorem turns_of_asked {answer : Option BlockId} (present : heap < machine.heaps.size)
    (turn : (machine.heap heap).Turn (some answer) h)
    (asked : ∀ other, event.answer other = if heap = other then some answer else none)
    (other : HeapId) :
    (machine.heap other).Turn (event.answer other) ((machine.setHeap heap h).heap other) := by
  rw [asked]
  by_cases same : heap = other
  · subst same
    rw [if_pos rfl, Machine.heap_setHeap_self h present]
    exact turn
  · rw [if_neg same, Machine.heap_setHeap_of_ne machine h (Ne.symm same)]
    exact .self _

/-- A step that changes neither heaps nor scopes. -/
theorem step_still (heaps : after.heaps = machine.heaps) (scopes : after.scopes = machine.scopes)
    (turns : ∀ heap, (machine.heap heap).Turn (event.answer heap) (machine.heap heap))
    (tallies : machine.observer.Tallies after.observer event.allocations (event.frees machine))
    (unowned : ∀ scope size, event.owned scope size = size) : Step machine event after := by
  refine ⟨congrArg Array.size heaps, fun heap => ?_, tallies, fun scope => ?_⟩
  · rw [Machine.heap_of_heaps heaps]
    exact turns heap
  · rw [Machine.scopeSize_of_scopes scopes, unowned]

theorem step_idle (heaps : after.heaps = machine.heaps) (scopes : after.scopes = machine.scopes)
    (tallies : machine.observer.Tallies after.observer 0 0) : Step machine .idle after :=
  step_still heaps scopes (fun _ => .self _) tallies fun _ _ => rfl

theorem step_self (machine : Machine) : Step machine .idle machine :=
  step_idle rfl rfl machine.observer.tallies_self

theorem step_refused (turn : (machine.heap heap).Turn (some none) (machine.heap heap))
    (heaps : after.heaps = machine.heaps) (scopes : after.scopes = machine.scopes)
    (tallies : machine.observer.Tallies after.observer 0 0) :
    Step machine (.refused heap) after := by
  refine step_still heaps scopes (fun other => ?_) tallies fun _ _ => rfl
  by_cases same : heap = other
  · subst same
    simpa only [Event.answer, if_true] using turn
  · simpa only [Event.answer, if_neg same] using Heap.Turn.self _

/-- A step that changes one heap and no scope. -/
theorem step_setHeap {o : Observer}
    (turns : ∀ other,
      (machine.heap other).Turn (event.answer other) ((machine.setHeap heap h).heap other))
    (tallies : machine.observer.Tallies o event.allocations (event.frees machine))
    (unowned : ∀ scope size, event.owned scope size = size) :
    Step machine event ((machine.setHeap heap h).observe o) :=
  ⟨machine.heaps_size_setHeap heap h, turns, tallies, fun scope => (unowned scope _).symm⟩

theorem step_onHeap {call : Event × Machine}
    (step : heap < machine.heaps.size → Step machine call.1 call.2) :
    Step machine (onHeap machine heap call).1 (onHeap machine heap call).2 := by
  unfold onHeap
  split
  · exact step ‹_›
  · exact step_self machine

/-! Requests to heaps. -/

theorem step_granted {block : BlockId} {o : Observer} (present : heap < machine.heaps.size)
    (turn : (machine.heap heap).Turn (some (some block)) h)
    (tallies : machine.observer.Tallies o 1 0) :
    Step machine (.granted heap none block) ((machine.setHeap heap h).observe o) :=
  step_setHeap (turns_of_asked present turn fun _ => rfl) tallies fun _ _ => rfl

theorem step_asked {reaches : Bool} (present : heap < machine.heaps.size)
    (act : Heap → Observer → Except Failure (BlockId × Heap × Observer))
    (serves : (machine.heap heap).Serves machine.observer reaches
      (act (machine.heap heap) machine.observer)) :
    let call := asked heap none reaches (machine.onHeap heap act)
    Step machine call.1 call.2 := by
  intro call
  simp only [call, Machine.onHeap]
  generalize act (machine.heap heap) machine.observer = result at serves ⊢
  cases serves with
  | rejected unreached failure =>
      rw [unreached]
      exact step_idle rfl rfl machine.observer.tallies_self
  | refused reached turn failure =>
      rw [reached]
      exact step_refused turn rfl rfl machine.observer.tallies_self
  | granted turn bytes => exact step_granted present turn (machine.observer.tallies_noteAlloc bytes)

theorem step_realloc (present : heap < machine.heaps.size) (old : Option BlockId) (size : Nat) :
    let call := resized heap old size (machine.realloc heap old size)
    Step machine call.1 call.2 := by
  intro call
  simp only [call, Machine.realloc, Machine.onHeap, Heap.realloc]
  by_cases empty : size = 0
  · rw [if_pos empty]
    cases old with
    | none =>
        exact step_setHeap (turns_of_quiet (fun _ => rfl) (.self _)) machine.observer.tallies_self
          fun _ _ => rfl
    | some id =>
        exact step_setHeap
          (turns_of_quiet (fun _ => rfl) (.kept rfl rfl fun _ recording => recording))
          (machine.observer.tallies_noteFree none) fun _ _ => rfl
  · rw [if_neg empty]
    cases granted : (machine.heap heap).reallocate old size with
    | none =>
        have positive : 0 < size := Nat.pos_of_ne_zero empty
        simp only [resized, if_pos positive]
        exact step_refused (.refused (Heap.reallocate_eq_none granted)) rfl rfl
          machine.observer.tallies_self
    | some answer =>
        obtain ⟨new, h⟩ := answer
        have turn := Heap.turn_of_reallocate granted
        cases old with
        | none => exact step_granted present turn (machine.observer.tallies_noteAlloc size)
        | some id =>
            exact step_setHeap (turns_of_asked present turn fun _ => rfl)
              machine.observer.tallies_self fun _ _ => rfl

theorem step_free (block : Option BlockId) (size : Option Nat) :
    Step machine ((block.map Event.released).getD .idle) (machine.free heap block size) := by
  cases block with
  | none =>
      exact step_setHeap (turns_of_quiet (fun _ => rfl) (.self _)) machine.observer.tallies_self
        fun _ _ => rfl
  | some block =>
      exact step_setHeap
        (turns_of_quiet (fun _ => rfl) (.kept rfl rfl fun _ recording => recording))
        (machine.observer.tallies_noteFree size) fun _ _ => rfl

theorem step_allocateRaw (present : heap < machine.heaps.size) (size : Nat) (zeroed : Bool) :
    let call := machine.allocateRaw heap size zeroed
    Step machine ((call.1.map (Event.taken heap)).getD (.refused heap)) call.2 := by
  intro call
  obtain ⟨memory, asks⟩ : ∃ memory,
      (if zeroed then (machine.heap heap).allocateZeroed size
        else (machine.heap heap).allocate size) = (machine.heap heap).grant size memory := by
    cases zeroed <;> exact ⟨_, rfl⟩
  simp only [call, Machine.allocateRaw, asks]
  cases granted : (machine.heap heap).grant size memory with
  | none =>
      exact step_refused (.refused (Heap.grant_eq_none granted)) rfl rfl
        machine.observer.tallies_self
  | some answer =>
      exact step_setHeap (turns_of_asked present (Heap.turn_of_grant granted) fun _ => rfl)
        machine.observer.tallies_self fun _ _ => rfl

theorem step_write (block : BlockId) (change : Memory → Memory) :
    Step machine .idle (machine.modifyBlock block change) := by
  refine step_setHeap (turns_of_quiet (fun _ => rfl) ?_) machine.observer.tallies_self
    fun _ _ => rfl
  unfold Heap.modify
  split
  · exact .kept rfl (Array.size_modify ..) fun _ recording => recording
  · exact .self _

theorem step_setSystem (system : System) : Step machine .idle (setSystem system machine) := by
  cases source : (machine.heap systemHeap).source with
  | system given =>
      simp only [setSystem, source]
      refine step_setHeap
        (turns_of_quiet (fun _ => rfl) (.kept rfl rfl fun budget recording => ?_))
        machine.observer.tallies_self fun _ _ => rfl
      rw [source] at recording
      cases recording
  | recording budget =>
      simp only [setSystem, source]
      exact step_self machine

/-! Scopes. -/

theorem step_onScope {scope : Nat} {call : HeapId → Event × Machine}
    (step : ∀ s, machine.scope? scope = some s → s.heap < machine.heaps.size →
      Step machine (call s.heap).1 (call s.heap).2) :
    Step machine (onScope machine scope call).1 (onScope machine scope call).2 := by
  unfold onScope
  cases found : machine.scope? scope with
  | none => exact step_self machine
  | some s => exact step_onHeap (step s found)

/-- One more block for a scope. -/
theorem step_owned {s : OpenScope} {scope : Nat} (found : machine.scope? scope = some s)
    {r : Registration} {o : Observer}
    (turns : ∀ other,
      (machine.heap other).Turn (event.answer other) ((machine.setHeap s.heap h).heap other))
    (tallies : machine.observer.Tallies o event.allocations (event.frees machine))
    (owned : ∀ id size, event.owned id size = if scope = id then size + 1 else size) :
    Step machine event
      (((machine.setHeap s.heap h).setScope
        { s.scope with owned := r :: s.scope.owned }).observe o) := by
  have named := Machine.id_of_scope? found
  subst named
  refine ⟨machine.heaps_size_setHeap s.heap h, turns, tallies, fun id => ?_⟩
  let grown : Scope := { s.scope with owned := r :: s.scope.owned }
  have there : (machine.setHeap s.heap h).scope? grown.id = some s := found
  refine (Machine.scopeSize_setScope there id).trans ?_
  rw [owned]
  by_cases same : s.scope.id = id
  · subst same
    rw [if_pos rfl, if_pos rfl, Machine.scopeSize, found]
    rfl
  · rw [if_neg same, if_neg same]
    rfl

theorem step_scopeAsked {s : OpenScope} {scope : Nat} (found : machine.scope? scope = some s)
    (present : s.heap < machine.heaps.size) {reaches : Bool}
    (act : Scope → Heap → Observer → Except Failure (BlockId × Scope × Heap) × Observer)
    (absent : Except Failure BlockId)
    (serves : s.scope.Serves (machine.heap s.heap) machine.observer reaches
      (act s.scope (machine.heap s.heap) machine.observer)) :
    let call := asked s.heap (some scope) reaches (machine.onScope scope absent act)
    Step machine call.1 call.2 := by
  intro call
  simp only [call, Machine.onScope, found]
  generalize act s.scope (machine.heap s.heap) machine.observer = result at serves ⊢
  cases serves with
  | rejected unreached failure tallies =>
      rw [unreached]
      exact step_idle rfl rfl tallies
  | refused reached turn failure tallies =>
      rw [reached]
      exact step_refused turn rfl rfl tallies
  | granted turn size tallies =>
      exact step_owned found (turns_of_asked present turn fun _ => rfl) tallies fun _ _ => rfl

theorem step_registered {s : OpenScope} {scope : Nat} (found : machine.scope? scope = some s)
    (block : Option BlockId) :
    let call := registered scope block (machine.scopeRegister scope block)
    Step machine call.1 call.2 := by
  intro call
  simp only [call, Machine.scopeRegister, Machine.onScope, found]
  cases block with
  | none => exact step_idle rfl rfl machine.observer.tallies_self
  | some block =>
      exact step_owned found (turns_of_quiet (fun _ => rfl) (.self _))
        (machine.observer.tallies_emit _) fun _ _ => rfl

theorem step_closeScope (scope : Nat) :
    Step machine (.closed scope) (machine.closeScope scope) := by
  refine ⟨machine.heaps_size_closeScope scope, ?_, ?_, machine.scopeSize_closeScope scope⟩
  · intro heap
    unfold Machine.closeScope
    cases machine.scope? scope with
    | none => exact .self _
    | some s =>
        refine turns_of_quiet (fun _ => rfl) ?_ heap
        rw [Scope.close, Scope.releaseAll_fst]
        exact .kept rfl rfl fun _ recording => recording
  · unfold Machine.closeScope
    rw [Event.frees, Machine.scopeSize]
    cases machine.scope? scope with
    | none =>
        -- A scope that is not open owns nothing.
        exact machine.observer.tallies_self
    | some s =>
        exact (Scope.tallies_releaseAll s.scope.owned _ _).trans (Observer.tallies_emit _ _)

end Calls

theorem step_perform (machine : Machine) (command : Command) :
    Step machine (perform machine command).1 (perform machine command).2 := by
  cases command with
  | malloc heap size =>
      exact step_onHeap fun present =>
        step_asked present (fun h o => h.malloc size o) (Heap.serves_malloc _ size _)
  | calloc heap count size =>
      exact step_onHeap fun present =>
        step_asked present (fun h o => h.calloc count size o) (Heap.serves_calloc _ count size _)
  | realloc heap block size =>
      exact step_onHeap fun present => step_realloc present block size
  | free heap block size => exact step_onHeap fun _ => step_free block size
  | copyText text =>
      exact step_onHeap fun present =>
        step_asked present (fun h o => h.duplicateText text.toArray o)
          (Heap.serves_duplicateText _ text.toArray _)
  | copyTerminated text =>
      have serves := Heap.serves_duplicateTerminated (machine.heap systemHeap)
        (text.map List.toArray) machine.observer
      rw [Option.isSome_map] at serves
      exact step_onHeap fun present =>
        step_asked present (fun h o => h.duplicateTerminated (text.map List.toArray) o) serves
  | allocateRaw heap size zeroed =>
      exact step_onHeap fun present => step_allocateRaw present size zeroed
  | write block change => exact step_write block change
  | openScope heap =>
      exact ⟨rfl, fun _ => .self _, machine.observer.tallies_emit _,
        Machine.scopeSize_openScope heap⟩
  | scopeAlloc scope size =>
      exact step_onScope fun s found present =>
        step_scopeAsked found present (fun s h o => s.alloc h size o) _
          (s.scope.serves_alloc _ size _)
  | scopeAllocZeroed scope count size =>
      exact step_onScope fun s found present =>
        step_scopeAsked found present (fun s h o => s.allocZeroed h count size o) _
          (s.scope.serves_allocZeroed _ count size _)
  | scopeRegister scope block =>
      exact step_onScope fun s found _ => step_registered found block
  | closeScope scope => exact step_closeScope scope
  | keepRecords on =>
      refine step_idle rfl rfl fun granted returned tallied => ?_
      refine ⟨?_, tallied.allocations, tallied.frees⟩
      cases on <;> rfl
  | setSystem system => exact step_setSystem system

end Blocks

end Underlay
