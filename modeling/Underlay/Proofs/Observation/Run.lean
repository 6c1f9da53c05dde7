import Underlay.Proofs.Observation.Entries
import Underlay.Proofs.Observation.Operations

/-!
# The level of tracking decides nothing

Two machines that differ in nothing but the observer go through a sequence of operations side by
side. One step keeps them so and gives the same answer, unless the operation reads the observer;
by induction the whole sequence does. What a sequence shows are its answers and the states behind
each of them without the observer: it is the same at every level.
-/

namespace Underlay.Observation

open Machine

variable {γ ε κ υ α : Type}

theorem Core.blind (operation : Core ε κ υ α) : Blind operation.perform := by
  intro machine o
  cases operation <;> exact ⟨o, rfl⟩

/-- Every operation on memory is blind, but those that are about the observer. -/
theorem Membrane.blind (operation : Membrane α) (unread : operation.reads = false) :
    Blind operation.perform := by
  cases operation with
  | addRecorder budget => exact blind_addRecorder budget
  | allocateRaw id size zeroed => exact blind_allocateRaw id size zeroed
  | malloc id size => exact blind_onHeap id (Heap.blind_malloc size)
  | calloc id count size => exact blind_onHeap id (Heap.blind_calloc count size)
  | realloc id old size => exact blind_onHeap id (Heap.blind_realloc old size)
  | free id block size => exact (steady_free id block size).blind
  | copyText text => exact blind_onHeap _ (Heap.blind_duplicateText _)
  | copyTerminated text => exact blind_onHeap _ (Heap.blind_duplicateTerminated _)
  | modifyBlock block change => exact fun _ o => ⟨o, rfl⟩
  | readBlock block offset count => exact blind_view fun _ _ => rfl
  | heap id => exact blind_view fun _ _ => rfl
  | copy dest src => exact blind_note _ _
  | move buffer src dest count => exact blind_note _ _
  | fill dest byte count => exact blind_note _ _
  | copyRegion dest src destSize srcSize overlapping => exact blind_note _ _
  | moveRegion buffer src dest count destSize => exact blind_note _ _
  | fillRegion dest destSize byte count => exact blind_note _ _
  | openScope id => exact blind_openScope id
  | scopeAlloc id size => exact blind_scopeAlloc id size
  | scopeAllocZeroed id count size => exact blind_scopeAllocZeroed id count size
  | scopeRegister id block => exact blind_scopeRegister id block
  | scope id => exact blind_view fun _ _ => rfl
  | closeScope id => exact (steady_closeScope id).blind
  | openPool capacity => exact blind_openPool capacity
  | poolAlloc id size => exact blind_poolAlloc id size
  | poolBytes id handle => exact blind_onPool_quiet id _ _
  | poolWrite id handle start bytes => exact blind_onPool_quiet id _ _
  | poolFill id handle byte => exact blind_onPool_quiet id _ _
  | poolAddress id handle => exact blind_onPool_quiet id _ _
  | pool id => exact blind_view fun _ _ => rfl
  | resetPool id => exact (steady_resetPool id).blind
  | closePool id => exact (steady_closePool id).blind
  | share payload destructor children => exact blind_share payload destructor children
  | retain id => exact (steady_retain id).blind
  | release id => exact blind_release id
  | object id => exact blind_view fun _ _ => rfl
  | addRegistry => exact blind_addRegistry
  | register id entry => exact (steady_register id entry).blind
  | cleanUp id => exact blind_cleanUp id
  | registry id => exact blind_view fun _ _ => rfl
  | setTracking level => exact fun _ o => ⟨{ o with tracking := level }, rfl⟩
  | setPoolCapacity capacity => exact fun _ o => ⟨o, rfl⟩
  | poolCapacity => exact blind_view fun _ _ => rfl
  | setSystem system => exact fun _ o => ⟨o, rfl⟩
  | resetCounters => exact fun _ o => ⟨{ o with counters := {} }, rfl⟩
  | tracking => cases unread
  | counters => cases unread
  | hasLeaks => cases unread
  | records => cases unread
  | drainLog => cases unread

/-- Every entry point is blind, but those that answer with counters. -/
theorem Entry.blind (operation : Entry γ ε κ υ α) (unread : operation.reads = false) :
    Blind operation.perform := by
  cases operation with
  | normalizeIndex index n => exact Boundary.blind_answer _ _
  | normalizeSlice slice n out => exact Boundary.blind_normalizeSlice slice n out
  | progressionLength start stop step => exact Boundary.blind_answer _ _
  | progressionContains start stop step value => exact Boundary.blind_answer _ _
  | slicePosition slice place => exact Boundary.blind_answer _ _
  | length container size => exact Boundary.blind_answer _ _
  | truthy container size => exact Boundary.blind_answer _ _
  | element table container index => exact (Boundary.blind_answer none _).map (·, _)
  | lookup table container key => exact (Boundary.blind_answer none _).map (·, _)
  | contains table container key => exact (Boundary.blind_answer 0 _).map (·, _)
  | sequenceContains table container target same =>
      exact (Boundary.blind_answer 0 _).map (·, _)
  | enumerate table container visitor => exact (Boundary.blind_answer (-1) _).map (·, _)
  | items table container visitor => exact blind_note _ _
  | equal table a b same => exact (Boundary.blind_answer 0 _).map (·, _)
  | mapEqual table a b same => exact (Boundary.blind_answer 0 _).map (·, _)
  | writeSlice table container spec out capacity =>
      exact (Boundary.blind_answer (-1) _).map (·, _)
  | malloc size => exact (blind_onHeap _ (Heap.blind_malloc size)).map Except.toOption
  | calloc count size => exact (blind_onHeap _ (Heap.blind_calloc count size)).map Except.toOption
  | realloc block size =>
      exact (blind_onHeap _ (Heap.blind_realloc block size)).map fun result => result.toOption.join
  | free block => exact (steady_free _ block none).blind
  | copy dest destSize src srcSize overlapping =>
      exact Boundary.blind_copy dest destSize src srcSize overlapping
  | fill dest value count destSize => exact Boundary.blind_fill dest value count destSize
  | copyText text =>
      exact (blind_onHeap _ (Heap.blind_duplicateTerminated _)).map Except.toOption
  | setTracking level => exact fun _ o => ⟨{ o with tracking := .ofNumber level }, rfl⟩
  | counters out => exact Boundary.blind_counters unread
  | resetCounters => exact fun _ o => ⟨{ o with counters := {} }, rfl⟩
  | hasLeaks => cases unread
  | newScope => exact blind_openScope _
  | scopeAlloc id size => exact (Boundary.blind_onScope id _ (blind_scopeAlloc · size)).map _
  | scopeAllocZeroed id count size =>
      exact (Boundary.blind_onScope id _ (blind_scopeAllocZeroed · count size)).map _
  | scopeRegister id block =>
      exact (Boundary.blind_onScope id _ (blind_scopeRegister · block)).map _
  | scopeSize id => exact blind_view fun _ _ => rfl
  | freeScope id => exact (Boundary.steady_behind id steady_closeScope).blind
  | newPool capacity => exact (blind_openPool (some capacity)).map Except.toOption
  | poolAlloc id size => exact Boundary.blind_poolAlloc id size
  | resetPool id => exact (Boundary.steady_behind id steady_resetPool).blind
  | poolUsed id => exact blind_view fun _ _ => rfl
  | poolCapacity id => exact blind_view fun _ _ => rfl
  | freePool id => exact (Boundary.steady_behind id steady_closePool).blind
  | newObject size destructor => exact Boundary.blind_newObject size destructor
  | retain id => exact Boundary.blind_retain id
  | release id => exact Boundary.blind_release id
  | holders id => exact blind_view fun _ _ => rfl
  | payload id written => exact Boundary.blind_payload id written
  | newRegistry => exact blind_addRegistry
  | register id resource cleanup name => exact Boundary.blind_register id resource cleanup name
  | cleanUp id => exact Boundary.blind_cleanUp id
  | registrySize id => exact blind_view fun _ _ => rfl
  | setFailure number text location => exact fun _ o => ⟨o, rfl⟩
  | code => exact blind_view fun _ _ => rfl
  | message => exact blind_view fun _ _ => rfl
  | hasFailure => exact blind_view fun _ _ => rfl
  | print => exact blind_view fun _ _ => rfl

/-- An operation of any of the families. -/
inductive Operation (γ ε κ υ α : Type) where
  | core (operation : Core ε κ υ α)
  | membrane (operation : Membrane α)
  | entry (operation : Entry γ ε κ υ α)

def Operation.perform (machine : Machine) : Operation γ ε κ υ α → α × Machine
  | core operation => operation.perform machine
  | membrane operation => operation.perform machine
  | entry operation => operation.perform machine

/-- Whether the answer is about the observer. -/
def Operation.reads : Operation γ ε κ υ α → Bool
  | core _ => false
  | membrane operation => operation.reads
  | entry operation => operation.reads

theorem Operation.blind (operation : Operation γ ε κ υ α) (unread : operation.reads = false) :
    Blind operation.perform := by
  cases operation with
  | core operation => exact operation.blind
  | membrane operation => exact operation.blind unread
  | entry operation => exact operation.blind unread

/-- An operation with the type of its answer. -/
structure Step (γ ε κ υ : Type) where
  type : Type
  operation : Operation γ ε κ υ type

/-- What a sequence of operations shows: each answer, and the state behind it without the
observer. -/
def trail (machine : Machine) : List (Step γ ε κ υ) → List ((type : Type) × type × Machine)
  | [] => []
  | step :: rest =>
      let (answer, after) := step.operation.perform machine
      ⟨step.type, answer, after.observe {}⟩ :: trail after rest

/-- The machine at a level of tracking. -/
def atLevel (machine : Machine) (level : Tracking) : Machine :=
  { machine with session := machine.session.setTracking level }

/-- A sequence that reads nothing of the observer shows the same with any other. -/
theorem trail_observe (machine : Machine) (o : Observer) {steps : List (Step γ ε κ υ)}
    (unread : ∀ step ∈ steps, step.operation.reads = false) :
    trail (machine.observe o) steps = trail machine steps := by
  induction steps generalizing machine o with
  | nil => rfl
  | cons step rest inductionHypothesis =>
      obtain ⟨blind, later⟩ := List.forall_mem_cons.mp unread
      obtain ⟨noted, law⟩ := step.operation.blind blind machine o
      simp only [trail, law]
      rw [inductionHypothesis _ noted later]
      rfl

/-- Begun at any two levels, a sequence of operations that reads neither counters nor log nor the
level gives the same answers and passes through the same states, but for the observer. -/
theorem trail_of_levels (machine : Machine) (level level' : Tracking) {steps : List (Step γ ε κ υ)}
    (unread : ∀ step ∈ steps, step.operation.reads = false) :
    trail (atLevel machine level) steps = trail (atLevel machine level') steps := by
  have observed (level : Tracking) : trail (atLevel machine level) steps = trail machine steps :=
    trail_observe machine { machine.observer with tracking := level } unread
  rw [observed level, observed level']

/-- A block is taken, a scope is closed and a request is refused, untracked and traced. -/
theorem trail_of_levels_refused :
    let steps : List (Step Unit Unit Unit Unit) :=
      [⟨_, .membrane (.openScope 0)⟩, ⟨_, .membrane (.scopeAlloc 1 16)⟩,
        ⟨_, .membrane (.closeScope 1)⟩, ⟨_, .entry (.malloc 0)⟩]
    (∀ step ∈ steps, step.operation.reads = false) ∧
      trail (atLevel {} .off) steps = trail (atLevel {} .trace) steps := by
  intro steps
  have unread : ∀ step ∈ steps, step.operation.reads = false := by
    simp [steps, Operation.reads, Membrane.reads, Entry.reads]
  exact ⟨unread, trail_of_levels {} .off .trace unread⟩

end Underlay.Observation
