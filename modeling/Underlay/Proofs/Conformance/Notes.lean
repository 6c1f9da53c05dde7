import Underlay.Proofs.Observation.Acts

/-!
# What acts tell the observer

An act tells the observer a list of notes. Which notes these are, and what the act gives, does not
depend on the observer that hears them. So it is known of every act what it appends to whatever an
observer has counted and logged before.
-/

namespace Underlay

/-- What an observer is told. -/
inductive Note where
  | alloc (size : Nat)
  | free (size : Option Nat)
  | event (event : Lifecycle.Event)

namespace Observer

def hear (o : Observer) : Note → Observer
  | .alloc size => o.noteAlloc size
  | .free size => o.noteFree size
  | .event event => o.emit event

def hearAll (o : Observer) (notes : List Note) : Observer :=
  notes.foldl hear o

@[simp]
theorem hearAll_nil (o : Observer) : o.hearAll [] = o := rfl

@[simp]
theorem hearAll_cons (o : Observer) (note : Note) (notes : List Note) :
    o.hearAll (note :: notes) = (o.hear note).hearAll notes := rfl

@[simp]
theorem hearAll_append (o : Observer) (notes more : List Note) :
    o.hearAll (notes ++ more) = (o.hearAll notes).hearAll more :=
  List.foldl_append

theorem foldl_emit (events : List Lifecycle.Event) (o : Observer) :
    events.foldl emit o = o.hearAll (events.map .event) := by
  rw [hearAll, List.foldl_map]
  rfl

end Observer

/-- Whoever observes the act, it gives `a`, and it tells every observer the same. -/
def Gives {α : Type} (act : Observer → α × Observer) (a : α) : Prop :=
  ∃ notes, ∀ o, act o = (a, o.hearAll notes)

theorem gives_self {α : Type} (a : α) : Gives (fun o => (a, o)) a :=
  ⟨[], fun _ => rfl⟩

theorem gives_emit {α : Type} (a : α) (event : Lifecycle.Event) :
    Gives (fun o => (a, o.emit event)) a :=
  ⟨[.event event], fun _ => rfl⟩

theorem Gives.bind {α β : Type} {act : Observer → α × Observer}
    {next : α → Observer → β × Observer} {a : α} {b : β} (first : Gives act a)
    (second : Gives (next a) b) : Gives (fun o => next (act o).1 (act o).2) b := by
  obtain ⟨notes, law⟩ := first
  obtain ⟨more, laterLaw⟩ := second
  refine ⟨notes ++ more, fun o => ?_⟩
  simp only [law, laterLaw, Observer.hearAll_append]

theorem Heap.malloc_eq (h : Heap) (size : Nat) :
    ∃ result : Except Failure (BlockId × Heap), ∀ o,
      h.malloc size o = result.map fun (block, h) => (block, h, o.noteAlloc size) := by
  by_cases empty : size = 0
  · exact ⟨.error (.raise .value "cannot allocate zero bytes" "checked_malloc"),
      fun o => by rw [malloc, if_pos empty]; rfl⟩
  · cases granted : h.allocate size with
    | none =>
        exact ⟨.error (exhausted "allocate" "checked_malloc" size),
          fun o => by rw [malloc, if_neg empty, granted]; rfl⟩
    | some answer =>
        exact ⟨.ok answer, fun o => by rw [malloc, if_neg empty, granted]; rfl⟩

namespace Scope

/-- Allocating depends on what a scope owns, and not on its number. -/
theorem gives_alloc (owned : List Registration) (h : Heap) (size : Nat) :
    ∃ result : Except Failure (BlockId × Heap), ∀ id, Gives (alloc { id, owned } h size)
      (result.map fun (block, h) => (block, { id, owned := ⟨block, some size⟩ :: owned }, h)) := by
  obtain ⟨result, law⟩ := h.malloc_eq size
  refine ⟨result, fun id => ?_⟩
  cases result with
  | error failure =>
      exact ⟨[.event _], fun o => by
        simp only [alloc, law, Except.map]
        rfl⟩
  | ok answer =>
      exact ⟨[.alloc size, .event _], fun o => by
        simp only [alloc, law, Except.map]
        rfl⟩

theorem gives_releaseAll (owned : List Registration) (h : Heap) :
    ∃ heap, Gives (releaseAll owned h) heap := by
  induction owned generalizing h with
  | nil => exact ⟨h, gives_self h⟩
  | cons r rest inductionHypothesis =>
      obtain ⟨heap, notes, law⟩ := inductionHypothesis (h.release r.block)
      refine ⟨heap, .free r.size :: notes, fun o => ?_⟩
      rw [releaseAll, law]
      rfl

theorem gives_close (owned : List Registration) (h : Heap) :
    ∃ heap, ∀ id, Gives (close { id, owned } h) heap := by
  obtain ⟨heap, notes, law⟩ := gives_releaseAll owned h
  refine ⟨heap, fun id => ?_⟩
  let closed : Lifecycle.Event :=
    event { id, owned } "close" (" released=" ++ toString owned.length)
  refine ⟨notes ++ [.event closed], fun o => ?_⟩
  rw [close, law, Observer.hearAll_append]
  rfl

end Scope

/-- Systems that grant the same sizes. -/
def System.Agrees (system system' : System) : Prop :=
  ∀ size, system'.grants size = system.grants size

namespace Pool

/-- What requests see of a pool: neither its number nor what its buffer holds. -/
structure Shape where
  capacity : Nat
  used : Nat
  growths : Nat

def shape (p : Pool) : Shape :=
  { capacity := p.capacity, used := p.used, growths := p.growths }

/-- A pool of a given shape. -/
def ofShape (shape : Shape) : Pool :=
  { id := 0, capacity := shape.capacity, used := shape.used, growths := shape.growths }

variable (system : System)

/-- Opening a pool depends on its capacity and on whether the system grants it. -/
theorem gives_make (capacity : Nat) :
    ∃ result : Except Failure Shape, ∀ system', system.Agrees system' → ∀ id,
      ∃ made, made.map shape = result ∧ Gives (make system' id capacity) made := by
  refine ⟨(make system 0 capacity {}).1.map shape, fun system' agrees id => ?_⟩
  have same : refusal? system' capacity = refusal? system capacity := by
    unfold refusal?
    rw [agrees]
  unfold make
  rw [same]
  cases refusal? system capacity with
  | some failure => exact ⟨.error failure, rfl, gives_self _⟩
  | none =>
      exact ⟨.ok { id, capacity, memory := system'.fresh.fill 0 capacity 0 }, rfl,
        [.alloc capacity, .event _], fun _ => rfl⟩

/-- Growing depends on the shape of a pool and on what the system grants. -/
theorem gives_grow (p : Pool) (needed : Nat) :
    ∃ result : Except Failure Shape, ∀ system', system.Agrees system' →
      ∀ p' : Pool, p'.shape = p.shape →
        ∃ grown, grown.map shape = result ∧ Gives (p'.grow system' needed) grown := by
  refine ⟨(p.grow system needed {}).1.map shape, fun system' agrees p' same => ?_⟩
  simp only [shape, Shape.mk.injEq] at same
  obtain ⟨capacity, used, growths⟩ := same
  unfold grow
  rw [capacity, growths]
  cases enlarge p.capacity needed with
  | none => exact ⟨.error _, rfl, gives_self _⟩
  | some enlarged =>
      dsimp only
      cases admitBuffer enlarged with
      | error failure => exact ⟨.error failure, rfl, gives_self _⟩
      | ok =>
          dsimp only
          rw [agrees]
          split
          · refine ⟨.ok _, ?_, [.alloc _, .event _], fun _ => rfl⟩
            simp [Except.map, shape, used]
          · exact ⟨.error _, rfl, gives_emit _ _⟩

/-- So does carving a block. -/
theorem gives_alloc (p : Pool) (size : Nat) :
    ∃ result : Except Failure (Nat × Shape), ∀ system', system.Agrees system' →
      ∀ p' : Pool, p'.shape = p.shape →
        ∃ carved, carved.map (fun (handle, p) => (handle.offset, p.shape)) = result ∧
          Gives (p'.alloc system' size) carved := by
  have demanded {p' : Pool} (same : p'.shape = p.shape) : p'.demand? size = p.demand? size := by
    simp only [shape, Shape.mk.injEq] at same
    rw [demand?, same.2.1, ← demand?]
  cases needs : p.demand? size with
  | none =>
      let failure : Failure := .raise .memory
        ("pool request of " ++ toString size ++ " bytes overflows") "pool_alloc"
      refine ⟨.error failure, fun system' _ p' same => ⟨.error failure, rfl, [], fun o => ?_⟩⟩
      rw [alloc, demanded same, needs]
      rfl
  | some needed =>
      by_cases short : p.capacity < needed
      · obtain ⟨result, grows⟩ := gives_grow system p needed
        refine ⟨result.map fun shape => (p.used, { shape with used := needed }), ?_⟩
        intro system' agrees p' same
        obtain ⟨grown, rfl, notes, law⟩ := grows system' agrees p' same
        have needs' := (demanded same).trans needs
        simp only [shape, Shape.mk.injEq] at same
        obtain ⟨capacity, used, -⟩ := same
        let handle : Handle :=
          { pool := p'.id, offset := p'.used, length := size, epoch := p'.epoch }
        refine ⟨grown.map fun grown => (handle,
          { grown with used := needed, allocations := p'.allocations + 1 }), ?_, notes,
          fun o => ?_⟩
        · cases grown with
          | error failure => rfl
          | ok grown => simp [Except.map, shape, handle, used]
        · simp only [alloc, needs', capacity, short, if_true, law]
          rfl
      · refine ⟨.ok (p.used, { p.shape with used := needed }), fun system' _ p' same => ?_⟩
        have needs' := (demanded same).trans needs
        simp only [shape, Shape.mk.injEq] at same
        obtain ⟨capacity, used, growths⟩ := same
        let handle : Handle :=
          { pool := p'.id, offset := p'.used, length := size, epoch := p'.epoch }
        refine ⟨.ok (handle, { p' with used := needed, allocations := p'.allocations + 1 }), ?_, [],
          fun o => ?_⟩
        · simp [Except.map, shape, handle, used, capacity, growths]
        · rw [← capacity] at short
          simp only [alloc, needs', short, if_false]
          rfl

theorem gives_reset (p : Pool) :
    Gives p.reset { p with used := 0, allocations := 0, epoch := p.epoch + 1 } :=
  gives_emit _ _

theorem close_eq (p : Pool) : ∃ notes, ∀ o, p.close o = o.hearAll notes :=
  ⟨[.event _, .free (some p.capacity)], fun _ => rfl⟩

end Pool

namespace Objects

variable {π : Type}

theorem gives_retain (s : Objects π) (id : ObjectId) : ∃ objects, Gives (s.retain id) objects := by
  unfold retain
  cases s.get? id with
  | none => exact ⟨s, gives_self s⟩
  | some object => exact ⟨_, gives_emit _ _⟩

/-- Giving up holders tells every observer the same. -/
theorem giveUp_eq (s : Objects π) (pending : List ObjectId) :
    ∃ objects happened notes, ∀ o,
      s.giveUp o pending = (objects, o.hearAll notes, happened) := by
  generalize (⟨.off, {}, {}⟩ : Observer) = o₀
  fun_induction giveUp s o₀ pending with
  | case1 s => exact ⟨s, [], [], fun o => by rw [giveUp]; rfl⟩
  | case2 s o id rest absent inductionHypothesis =>
      obtain ⟨objects, happened, notes, law⟩ := inductionHypothesis
      refine ⟨objects, happened, notes, fun o => ?_⟩
      rw [giveUp]
      split
      · exact law o
      · simp_all
  | case3 s o id rest object present shared left _ _ _ _ inductionHypothesis =>
      obtain ⟨objects, happened, notes, law⟩ := inductionHypothesis
      refine ⟨objects, .released id left :: happened,
        .event (event "release" id ("count=" ++ toString left)) :: notes, fun o => ?_⟩
      rw [giveUp]
      split
      · simp_all
      · rename_i object' present'
        obtain rfl := Option.some.inj (present.symm.trans present')
        rw [if_pos shared]
        simp only [left] at law ⊢
        rw [law]
        rfl
  | case4 s o id rest object present unshared _ _ _ _ inductionHypothesis =>
      obtain ⟨objects, happened, notes, law⟩ := inductionHypothesis
      let reports := (object.destructor.map Destructor.reports).getD []
      refine ⟨objects, .released id 0 :: ending id object ++ happened,
        .event (event "destroy" id) :: (reports.map .event ++ notes), fun o => ?_⟩
      rw [giveUp]
      split
      · simp_all
      · rename_i object' present'
        obtain rfl := Option.some.inj (present.symm.trans present')
        rw [if_neg unshared]
        simp only [law, report, Observer.foldl_emit]
        rw [Observer.hearAll_cons, Observer.hearAll_append]
        rfl

end Objects

namespace Registry

theorem gives_register (r : Registry) (entry : Entry) :
    Gives (r.register entry) { pending := entry :: r.pending } :=
  gives_emit _ _

theorem gives_runAll (entries : List Entry) :
    Gives (runAll entries) (entries.map Entry.cleanup) := by
  induction entries with
  | nil => exact gives_self []
  | cons entry rest inductionHypothesis =>
      obtain ⟨notes, law⟩ := inductionHypothesis
      let started : Lifecycle.Event :=
        { component := "registry", name := "cleanup", details := entry.label }
      refine ⟨.event started :: (entry.reports.map .event ++ notes), fun o => ?_⟩
      simp only [runAll, Observer.foldl_emit, law]
      rw [Observer.hearAll_cons, Observer.hearAll_append]
      rfl

end Registry

end Underlay
