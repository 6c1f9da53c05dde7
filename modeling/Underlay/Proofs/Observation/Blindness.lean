import Underlay.Machine.Holders
import Underlay.Proofs.Observation.Acts

/-!
# Operations that do not look at the observer

An operation on a machine is blind if another observer in the place of the machine's own changes
neither its answer nor anything else of the machine behind. Operations are blind because the acts
that they carry out are, and because they find heaps, scopes and pools without the observer.
-/

namespace Underlay.Machine

variable {α β : Type}

/-- With another observer the operation answers the same and leaves the same, but for what the
observer has noted. -/
def Blind (act : Machine → α × Machine) : Prop :=
  ∀ machine o, ∃ noted,
    act (machine.observe o) = ((act machine).1, (act machine).2.observe noted)

/-- The same for a change that answers nothing. -/
def Steady (change : Machine → Machine) : Prop :=
  ∀ machine o, ∃ noted, change (machine.observe o) = (change machine).observe noted

section Observe

variable (machine : Machine) (o : Observer)

@[simp]
theorem observer_observe : (machine.observe o).observer = o := rfl

@[simp]
theorem system_observe : (machine.observe o).session.system = machine.session.system := rfl

@[simp]
theorem cells_observe : (machine.observe o).cells = machine.cells := rfl

@[simp]
theorem heap_observe (id : HeapId) : (machine.observe o).heap id = machine.heap id := rfl

@[simp]
theorem scope?_observe (id : Nat) : (machine.observe o).scope? id = machine.scope? id := rfl

@[simp]
theorem pool?_observe (id : Nat) : (machine.observe o).pool? id = machine.pool? id := rfl

end Observe

/-! Ways to build blind operations. -/

theorem Steady.blind {change : Machine → Machine} (steady : Steady change) :
    Blind fun machine => ((), change machine) := by
  intro machine o
  obtain ⟨noted, law⟩ := steady machine o
  exact ⟨noted, congrArg (fun after => ((), after)) law⟩

theorem Blind.map {act : Machine → α × Machine} (blind : Blind act) (f : α → β) :
    Blind fun machine => (f (act machine).1, (act machine).2) := by
  intro machine o
  obtain ⟨noted, law⟩ := blind machine o
  exact ⟨noted, congrArg (fun answer => (f answer.1, answer.2)) law⟩

theorem blind_view {view : Machine → α}
    (same : ∀ machine o, view (machine.observe o) = view machine) :
    Blind fun machine => (view machine, machine) := by
  intro machine o
  exact ⟨o, congrArg (fun a => (a, machine.observe o)) (same machine o)⟩

theorem blind_note (a : α) (result : Except Failure β) :
    Blind fun machine => (a, machine.note result) :=
  fun _ o => ⟨o, rfl⟩

theorem blind_onHeap (id : HeapId) {act : Heap → Observer → Except Failure (α × Heap × Observer)}
    (blind : Heap.Blind act) : Blind (·.onHeap id act) := by
  intro machine o
  obtain ⟨noted, law⟩ := blind (machine.heap id) machine.observer o
  dsimp only [onHeap]
  rw [heap_observe, observer_observe, law]
  cases act (machine.heap id) machine.observer with
  | error failure => exact ⟨o, rfl⟩
  | ok answer => exact ⟨noted, rfl⟩

theorem blind_onScope (id : Nat) (absent : Except Failure α)
    {act : Scope → Heap → Observer → Except Failure (α × Scope × Heap) × Observer}
    (same : ∀ s h o o', (act s h o').1 = (act s h o).1) : Blind (·.onScope id absent act) := by
  intro machine o
  dsimp only [onScope]
  rw [scope?_observe]
  cases machine.scope? id with
  | none => exact ⟨o, rfl⟩
  | some s =>
      have law := same s.scope (machine.heap s.heap) machine.observer o
      dsimp only
      rw [heap_observe, observer_observe]
      rcases before : act s.scope (machine.heap s.heap) machine.observer with ⟨result, seen⟩
      rcases behind : act s.scope (machine.heap s.heap) o with ⟨result', noted⟩
      rw [before, behind] at law
      obtain rfl : result' = result := law
      cases result' with
      | error failure => exact ⟨noted, rfl⟩
      | ok answer => exact ⟨noted, rfl⟩

theorem blind_onPool (id : Nat) (absent : Except Failure α)
    {act : Machine → Pool → Observer → Except Failure (α × Pool) × Observer}
    (apart : ∀ machine o, act (machine.observe o) = act machine)
    (same : ∀ machine p o o', (act machine p o').1 = (act machine p o).1) :
    Blind fun machine => machine.onPool id absent (act machine) := by
  intro machine o
  dsimp only [onPool]
  rw [pool?_observe, apart]
  cases machine.pool? id with
  | none => exact ⟨o, rfl⟩
  | some p =>
      have law := same machine p machine.observer o
      dsimp only
      rw [observer_observe]
      rcases before : act machine p machine.observer with ⟨result, seen⟩
      rcases behind : act machine p o with ⟨result', noted⟩
      rw [before, behind] at law
      obtain rfl : result' = result := law
      cases result' with
      | error failure => exact ⟨noted, rfl⟩
      | ok answer => exact ⟨noted, rfl⟩

/-! Heaps -/

theorem blind_addRecorder (budget : Option Nat) : Blind (·.addRecorder budget) :=
  fun _ o => ⟨o, rfl⟩

theorem blind_allocateRaw (id : HeapId) (size : Nat) (zeroed : Bool) :
    Blind (·.allocateRaw id size zeroed) := by
  intro machine o
  refine ⟨o, ?_⟩
  dsimp only [allocateRaw]
  rw [heap_observe]
  cases zeroed with
  | true => cases (machine.heap id).allocateZeroed size <;> rfl
  | false => cases (machine.heap id).allocate size <;> rfl

theorem steady_free (id : HeapId) (block : Option BlockId) (size : Option Nat) :
    Steady (·.free id block size) := by
  intro machine o
  cases block with
  | none => exact ⟨o, rfl⟩
  | some block => exact ⟨_, rfl⟩

/-! Scopes -/

theorem blind_openScope (heap : HeapId) : Blind (·.openScope heap) :=
  fun _ _ => ⟨_, rfl⟩

theorem blind_scopeAlloc (id size : Nat) : Blind (·.scopeAlloc id size) :=
  blind_onScope id _ fun s h o o' => s.alloc_observer h o o' size

theorem blind_scopeAllocZeroed (id count size : Nat) : Blind (·.scopeAllocZeroed id count size) :=
  blind_onScope id _ fun s h o o' => s.allocZeroed_observer h o o' count size

theorem blind_scopeRegister (id : Nat) (block : Option BlockId) :
    Blind (·.scopeRegister id block) := by
  apply blind_onScope
  intro s h o o'
  dsimp only
  rw [s.register_observer o o' block]

theorem steady_closeScope (id : Nat) : Steady (·.closeScope id) := by
  intro machine o
  dsimp only [closeScope]
  rw [scope?_observe]
  cases machine.scope? id with
  | none => exact ⟨o, rfl⟩
  | some s =>
      have law := s.scope.close_observer (machine.heap s.heap) machine.observer o
      refine ⟨(s.scope.close (machine.heap s.heap) o).2, ?_⟩
      dsimp only
      rw [heap_observe, observer_observe, law]
      rfl

/-! Pools -/

theorem blind_openPool (asked : Option Nat) : Blind (·.openPool asked) := by
  intro machine o
  have law := Pool.make_observer machine.session.system machine.observer o
    (machine.session.poolsOpened + 1)
    (if asked.getD 0 = 0 then machine.session.poolCapacity else asked.getD 0)
  rcases made : Pool.make machine.session.system (machine.session.poolsOpened + 1)
      (if asked.getD 0 = 0 then machine.session.poolCapacity else asked.getD 0)
      machine.observer with ⟨result, seen⟩
  rcases other : Pool.make machine.session.system (machine.session.poolsOpened + 1)
      (if asked.getD 0 = 0 then machine.session.poolCapacity else asked.getD 0)
      o with ⟨result', noted⟩
  rw [made, other] at law
  obtain rfl : result' = result := law
  refine ⟨noted, ?_⟩
  dsimp only
  cases result' with
  | error failure =>
      have there : (machine.observe o).openPool asked = _ := openPool_of_make_error other
      rw [openPool_of_make_error made, there]
      rfl
  | ok p =>
      have there : (machine.observe o).openPool asked = _ := openPool_of_make_ok other
      rw [openPool_of_make_ok made, there]
      rfl

theorem blind_poolAlloc (id size : Nat) : Blind (·.poolAlloc id size) := by
  apply blind_onPool id
  · intro machine o
    rfl
  · intro machine p o o'
    exact p.alloc_observer _ o o' size

/-- Where a pool is only looked at or written, nothing is noted. -/
theorem blind_onPool_quiet (id : Nat) (absent : Except Failure α)
    (act : Pool → Except Failure (α × Pool)) :
    Blind (·.onPool id absent fun p o => (act p, o)) :=
  blind_onPool id absent (fun _ _ => rfl) fun _ _ _ _ => rfl

theorem steady_resetPool (id : Nat) : Steady (·.resetPool id) := by
  intro machine o
  dsimp only [resetPool]
  rw [pool?_observe]
  cases machine.pool? id with
  | none => exact ⟨o, rfl⟩
  | some p => exact ⟨_, rfl⟩

theorem steady_closePool (id : Nat) : Steady (·.closePool id) := by
  intro machine o
  dsimp only [closePool]
  rw [pool?_observe]
  cases machine.pool? id with
  | none => exact ⟨o, rfl⟩
  | some p => exact ⟨_, rfl⟩

/-! Shared objects and registries -/

theorem blind_share (payload : String) (destructor : Option (Destructor String))
    (children : List ObjectId) : Blind (·.share payload destructor children) :=
  fun _ _ => ⟨_, rfl⟩

theorem steady_retain (id : ObjectId) : Steady (·.retain id) := by
  intro machine o
  have law := machine.objects.retain_observer id machine.observer o
  refine ⟨(machine.objects.retain id o).2, ?_⟩
  change { machine.observe _ with objects := (machine.objects.retain id o).1 } = _
  rw [law]
  rfl

theorem blind_release (id : ObjectId) :
    Blind fun machine =>
      let (destroyed, happened, after) := machine.release id
      ((destroyed, happened), after) := by
  intro machine o
  obtain ⟨objects, happened⟩ := machine.objects.giveUp_observer machine.observer o [id]
  refine ⟨(machine.objects.giveUp o [id]).2.1, ?_⟩
  change ((machine.objects.count id == 1, (machine.objects.giveUp o [id]).2.2),
    { machine.observe _ with objects := (machine.objects.giveUp o [id]).1 }) = _
  rw [objects, happened]
  rfl

theorem blind_addRegistry : Blind (·.addRegistry) :=
  fun _ o => ⟨o, rfl⟩

theorem steady_register (id : RegistryId) (entry : Registry.Entry) :
    Steady (·.register id entry) :=
  fun _ _ => ⟨_, rfl⟩

theorem blind_cleanUp (id : RegistryId) : Blind (·.cleanUp id) := by
  intro machine o
  have law := Registry.runAll_observer (machine.registry id).pending machine.observer o
  refine ⟨(Registry.runAll (machine.registry id).pending o).2, ?_⟩
  change ((Registry.runAll (machine.registry id).pending o).1, _) = _
  rw [law]
  rfl

end Underlay.Machine
