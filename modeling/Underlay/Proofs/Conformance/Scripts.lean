import Underlay.Conformance.Verdict
import Underlay.Proofs.Conformance.Notes

/-!
# Executions follow a script

What an execution answers and what it leaves in the slot is settled by the capacity of pools
opened without one, by the sizes that the system grants, and by the slot that it finds. Neither the
observer nor the numbers of pools and scopes decide anything: the numbers only stand in what the
observer is told, and that does not depend on what it was told before.
-/

namespace Underlay

namespace Session

/-- Sessions with one capacity of pools opened without one, to which the system grants the same
sizes. -/
structure Akin (s s' : Session) : Prop where
  poolCapacity : s'.poolCapacity = s.poolCapacity
  agrees : s.system.Agrees s'.system

/-- Sessions that moreover hold the same failure. They may differ in their observers, in what fresh
memory holds, and in how many pools and scopes were opened. -/
structure Alike (s s' : Session) : Prop extends Akin s s' where
  slot : s'.slot = s.slot

theorem Alike.setSlot {s s' : Session} (alike : s.Alike s') (slot : Slot) :
    Alike { s with slot } { s' with slot } :=
  { alike with slot := rfl }

end Session

namespace Conformance

/-- In every session like `s`, whoever observes it, the act answers `a` and leaves the slot `slot`.
What it tells depends on the numbers of pools and scopes only. -/
def Scripted {α : Type} (act : Session → α × Session) (s : Session) (a : α) (slot : Slot) : Prop :=
  ∀ s', s.Alike s' → ∃ pools scopes notes, ∀ o,
    act (s'.observe o) =
      (a, { s' with slot, poolsOpened := pools, scopesOpened := scopes,
                    observer := o.hearAll notes })

/-- An answer that is given at once, without a look at the session. -/
theorem scripted_self {α : Type} (a : α) (s : Session) : Scripted (fun s => (a, s)) s a s.slot :=
  fun s' alike => ⟨s'.poolsOpened, s'.scopesOpened, [], fun o => by rw [← alike.slot]; rfl⟩

theorem scripted_note {α β : Type} (a : α) (s : Session) (result : Except Failure β) :
    Scripted (fun s => (a, s.note result)) s a (s.slot.after result) :=
  fun s' alike => ⟨s'.poolsOpened, s'.scopesOpened, [], fun o => by rw [← alike.slot]; rfl⟩

namespace Execution

theorem scripted_settle (s : Session) (answer : Except Refusal (Except Failure String)) :
    ∃ a slot, Scripted (settle · answer) s a slot := by
  cases answer with
  | error refusal =>
      exact ⟨.error refusal, s.slot, scripted_self _ s⟩
  | ok result =>
      exact ⟨.ok (shown result), s.slot.after result, scripted_note _ s result⟩

theorem scripted_runContains (inputs : Json) (s : Session) :
    ∃ a slot, Scripted (runContains inputs) s a slot := by
  unfold runContains
  dsimp only
  split
  · rename_i refusal _
    exact ⟨.error refusal, s.slot, scripted_self _ s⟩
  · rename_i made _
    exact ⟨_, s.slot.after made, scripted_note _ s made⟩

/-- Allocating in a scope does not depend on the number of the scope. -/
theorem allocateAll_eq (sizes : List Nat) (owned : List Registration) (heap : Heap) (s : Session) :
    ∃ blocks failure owned' heap' slot, ∀ id s', s.Alike s' → ∃ notes, ∀ o,
      allocateAll sizes { id, owned } heap (s'.observe o) =
        (blocks, failure, { id, owned := owned' }, heap',
          { s' with slot, observer := o.hearAll notes }) := by
  induction sizes generalizing owned heap with
  | nil =>
      exact ⟨[], none, owned, heap, s.slot, fun id s' alike =>
        ⟨[], fun o => by rw [← alike.slot]; rfl⟩⟩
  | cons size rest inductionHypothesis =>
      obtain ⟨result, allocates⟩ := Scope.gives_alloc owned heap size
      cases result with
      | error failure =>
          refine ⟨[], some failure, owned, heap, .ofFailure failure, fun id s' alike => ?_⟩
          obtain ⟨notes, law⟩ := allocates id
          refine ⟨notes, fun o => ?_⟩
          simp only [allocateAll, Session.observe, law, Except.map, Session.note, Slot.after_error]
      | ok answer =>
          obtain ⟨block, heap⟩ := answer
          obtain ⟨blocks, failure, owned', heap', slot, later⟩ :=
            inductionHypothesis (⟨block, some size⟩ :: owned) heap
          refine ⟨block :: blocks, failure, owned', heap', slot, fun id s' alike => ?_⟩
          obtain ⟨notes, law⟩ := allocates id
          obtain ⟨more, later⟩ := later id s' alike
          refine ⟨notes ++ more, fun o => ?_⟩
          have later := later (o.hearAll notes)
          simp only [Session.observe] at later
          simp only [allocateAll, Session.observe, law, Except.map, Session.note, Slot.after_ok,
            later, Observer.hearAll_append]

theorem scripted_runScope (inputs : Json) (s : Session) :
    ∃ a slot, Scripted (runScope inputs) s a slot := by
  unfold runScope
  split
  · rename_i refusal _
    exact ⟨.error refusal, s.slot, scripted_self _ s⟩
  · rename_i sizes budget _
    obtain ⟨blocks, failure, owned, heap, slot, law⟩ :=
      allocateAll_eq sizes [] { source := .recording budget } s
    obtain ⟨closed, closes⟩ := Scope.gives_close owned heap
    refine ⟨.ok (scopeText blocks failure closed), slot, fun s' alike => ?_⟩
    let id := s'.scopesOpened + 1
    obtain ⟨notes, law⟩ := law id { s' with scopesOpened := id } { alike with }
    obtain ⟨more, closes⟩ := closes id
    refine ⟨s'.poolsOpened, id, .event (Scope.event { id } "open") :: (notes ++ more), fun o => ?_⟩
    have law := law (o.emit (Scope.event { id } "open"))
    simp only [Session.observe] at law
    simp only [Session.openScope, Scope.make, Session.observe, id, law, closes]
    rw [Observer.hearAll_cons, Observer.hearAll_append]
    rfl

theorem scripted_runDoubleRegistration (s : Session) :
    ∃ a slot, Scripted runDoubleRegistration s a slot := by
  refine ⟨.ok ("releases=" ++ toString 2), s.slot, fun s' alike => ?_⟩
  let id := s'.scopesOpened + 1
  let block : BlockId := { heap := 0, number := 0 }
  let adopted (owned : List Registration) : Note :=
    .event { Scope.event { id } "register" (" live=" ++ toString owned.length) with
      subject := some 0 }
  refine ⟨s'.poolsOpened, id, [.event (Scope.event { id } "open"), adopted [⟨block, none⟩],
    adopted [⟨block, none⟩, ⟨block, none⟩], .free none, .free none,
    .event (Scope.event { id } "close" (" released=" ++ toString 2))], fun o => ?_⟩
  rw [← alike.slot]
  rfl

/-- With every pool of the shape, in every session like `s`, whoever observes it, the act answers
`a` and leaves a pool of the shape `shape'` and the slot `slot`. -/
def Draws {α : Type} (act : Pool → Session → α × Pool × Session) (shape : Pool.Shape) (s : Session)
    (a : α) (shape' : Pool.Shape) (slot : Slot) : Prop :=
  ∀ (p : Pool) (s' : Session), p.shape = shape → s.Alike s' → ∃ p' notes, p'.shape = shape' ∧
    ∀ o, act p (s'.observe o) = (a, p', { s' with slot, observer := o.hearAll notes })

theorem draws_self {α : Type} (a : α) (shape : Pool.Shape) (s : Session) :
    Draws (fun p s => (a, p, s)) shape s a shape s.slot :=
  fun p _ same alike => ⟨p, [], same, fun o => by rw [← alike.slot]; rfl⟩

/-- Carving does not depend on the number of the pool, nor on what its buffer holds. -/
theorem draws_carveAll (sizes : List Nat) (shape : Pool.Shape) (s : Session) :
    ∃ a shape' slot, Draws (carveAll sizes) shape s a shape' slot := by
  induction sizes generalizing shape with
  | nil =>
      exact ⟨.ok [], shape, s.slot, draws_self _ shape s⟩
  | cons size rest inductionHypothesis =>
      obtain ⟨result, carves⟩ := Pool.gives_alloc s.system (.ofShape shape) size
      cases result with
      | error failure =>
          refine ⟨.error failure, shape, .ofFailure failure, fun p s' same alike => ?_⟩
          obtain ⟨carved, failed, notes, law⟩ := carves s'.system alike.agrees p same
          cases carved with
          | ok answer => cases failed
          | error failure =>
              obtain rfl := Except.error.inj failed
              refine ⟨p, notes, same, fun o => ?_⟩
              simp only [carveAll, Session.observe, law, Session.note, Slot.after_error]
      | ok answer =>
          obtain ⟨offset, shape⟩ := answer
          obtain ⟨offsets, shape', slot, later⟩ := inductionHypothesis shape
          refine ⟨offsets.map (offset :: ·), shape', slot, fun p s' same alike => ?_⟩
          obtain ⟨carved, done, notes, law⟩ := carves s'.system alike.agrees p same
          cases carved with
          | error failure => cases done
          | ok answer =>
              obtain ⟨handle, p⟩ := answer
              obtain ⟨rfl, same⟩ := Prod.mk.inj (Except.ok.inj done)
              obtain ⟨p', more, left, later⟩ := later p s' same alike
              refine ⟨p', notes ++ more, left, fun o => ?_⟩
              have later := later (o.hearAll notes)
              simp only [Session.observe] at later
              simp only [carveAll, Session.observe, law, Session.note, Slot.after_ok, later,
                Observer.hearAll_append]

theorem draws_carveListed (inputs : Json) (field : String) (shape : Pool.Shape) (s : Session) :
    ∃ a shape' slot, Draws (carveListed inputs field) shape s a shape' slot := by
  unfold carveListed
  cases Inputs.sizes inputs field with
  | error refusal => exact ⟨.error refusal, shape, s.slot, draws_self _ shape s⟩
  | ok sizes =>
      obtain ⟨offsets, shape', slot, draws⟩ := draws_carveAll sizes shape s
      refine ⟨.ok offsets, shape', slot, fun p s' same alike => ?_⟩
      obtain ⟨p', notes, left, law⟩ := draws p s' same alike
      exact ⟨p', notes, left, fun o => by simp only [law]⟩

theorem draws_usePool (inputs : Json) (shape : Pool.Shape) (s : Session) :
    ∃ a shape' slot, Draws (usePool inputs) shape s a shape' slot := by
  obtain ⟨a, shape', slot, draws⟩ := draws_carveListed inputs "sizes" shape s
  rcases a with refusal | failure | offsets
  · refine ⟨.error refusal, shape', slot, fun p s' same alike => ?_⟩
    obtain ⟨p', notes, left, law⟩ := draws p s' same alike
    exact ⟨p', notes, left, fun o => by simp only [usePool, law]⟩
  · refine ⟨.ok (shownFailure failure), shape', slot, fun p s' same alike => ?_⟩
    obtain ⟨p', notes, left, law⟩ := draws p s' same alike
    exact ⟨p', notes, left, fun o => by simp only [usePool, law]⟩
  · let text := "offsets=" ++ listed offsets ++ " used=" ++ toString shape'.used ++
      " growths=" ++ toString shape'.growths
    by_cases once : (inputs.get? "after_reset").isNone
    · refine ⟨.ok text, shape', slot, fun p s' same alike => ?_⟩
      obtain ⟨p', notes, rfl, law⟩ := draws p s' same alike
      refine ⟨p', notes, rfl, fun o => ?_⟩
      simp only [usePool, law, once, if_true]
      rfl
    · obtain ⟨again, shape'', slot', redraws⟩ := draws_carveListed inputs "after_reset"
        { shape' with used := 0 } { s with slot }
      let told : Except Refusal String := match again with
        | .error refusal => .error refusal
        | .ok (.error failure) => .ok (shownFailure failure)
        | .ok (.ok more) => .ok (text ++ " after_reset=" ++ listed more)
      refine ⟨told, shape'', slot', fun p s' same alike => ?_⟩
      obtain ⟨p', notes, rfl, law⟩ := draws p s' same alike
      obtain ⟨cleared, clears⟩ := p'.gives_reset
      obtain ⟨p'', more, left, later⟩ :=
        redraws { p' with used := 0, allocations := 0, epoch := p'.epoch + 1 } { s' with slot } rfl
          (alike.setSlot slot)
      refine ⟨p'', notes ++ cleared ++ more, left, fun o => ?_⟩
      have later := later ((o.hearAll notes).hearAll cleared)
      simp only [Session.observe] at later
      simp only [usePool, law]
      rw [if_neg once]
      simp only [clears, Session.observe, later, Observer.hearAll_append]
      rcases again with refusal | failure | more <;> rfl

theorem scripted_runPool (inputs : Json) (s : Session) :
    ∃ a slot, Scripted (runPool inputs) s a slot := by
  unfold runPool
  cases Inputs.size inputs "capacity" with
  | error refusal =>
      exact ⟨.error refusal, s.slot, scripted_self _ s⟩
  | ok capacity =>
      let asked := if capacity = 0 then s.poolCapacity else capacity
      obtain ⟨result, makes⟩ := Pool.gives_make s.system asked
      cases result with
      | error failure =>
          refine ⟨.ok (shownFailure failure), .ofFailure failure, fun s' alike => ?_⟩
          obtain ⟨made, failed, notes, law⟩ := makes s'.system alike.agrees (s'.poolsOpened + 1)
          cases made with
          | ok p => cases failed
          | error failure =>
              obtain rfl := Except.error.inj failed
              refine ⟨s'.poolsOpened, s'.scopesOpened, notes, fun o => ?_⟩
              have law := law o
              simp only [asked, ← alike.poolCapacity] at law
              simp only [Session.openPool, Session.observe, Option.getD_some, law, Session.note,
                Slot.after_error]
              rfl
      | ok shape =>
          obtain ⟨a, shape', slot, draws⟩ := draws_usePool inputs shape s
          refine ⟨a, slot, fun s' alike => ?_⟩
          obtain ⟨made, done, notes, law⟩ := makes s'.system alike.agrees (s'.poolsOpened + 1)
          cases made with
          | error failure => cases done
          | ok p =>
              let opened : Session := { s' with poolsOpened := s'.poolsOpened + 1 }
              obtain ⟨p', more, -, later⟩ := draws p opened (Except.ok.inj done) { alike with }
              obtain ⟨last, closes⟩ := p'.close_eq
              refine ⟨s'.poolsOpened + 1, s'.scopesOpened, notes ++ more ++ last, fun o => ?_⟩
              have law := law o
              have later := later (o.hearAll notes)
              simp only [asked, ← alike.poolCapacity] at law
              simp only [Session.observe, opened] at later
              simp only [Session.openPool, Session.observe, Option.getD_some, law, Session.note,
                Slot.after_ok, if_true, later, closes, Observer.hearAll_append]

theorem gives_retainAll (id : ObjectId) (count : Nat) (objects : Objects Unit) :
    ∃ objects', Gives (retainAll id count objects) objects' := by
  induction count generalizing objects with
  | zero => exact ⟨objects, gives_self objects⟩
  | succ count inductionHypothesis =>
      obtain ⟨next, retains⟩ := objects.gives_retain id
      obtain ⟨objects', more⟩ := inductionHypothesis next
      exact ⟨objects', retains.bind more⟩

theorem releaseAll_eq (id : ObjectId) (number count : Nat) (objects : Objects Unit) :
    ∃ last happened notes, ∀ o,
      releaseAll id number count objects o = (last, happened, o.hearAll notes) := by
  induction count generalizing objects number with
  | zero => exact ⟨none, [], [], fun _ => rfl⟩
  | succ count inductionHypothesis =>
      obtain ⟨next, happened, notes, law⟩ := objects.giveUp_eq [id]
      obtain ⟨last, later, more, laterLaw⟩ := inductionHypothesis (number + 1) next
      refine ⟨last.or (if objects.count id == 1 then some number else none), happened ++ later,
        notes ++ more, fun o => ?_⟩
      simp only [releaseAll, Objects.release, law, laterLaw, Observer.hearAll_append]

theorem scripted_runShared (inputs : Json) (s : Session) :
    ∃ a slot, Scripted (runShared inputs) s a slot := by
  unfold runShared
  cases Inputs.size inputs "retains" with
  | error refusal =>
      exact ⟨.error refusal, s.slot, scripted_self _ s⟩
  | ok retains =>
      let made : Objects Unit :=
        { slots := [some { count := 1, payload := (), destructor := some { tag := "" } }] }
      obtain ⟨held, notes, law⟩ := gives_retainAll 0 retains made
      obtain ⟨last, happened, more, later⟩ := releaseAll_eq 0 1 (retains + 1) held
      refine ⟨.ok (sharedText retains last happened), s.slot, fun s' alike =>
        ⟨s'.poolsOpened, s'.scopesOpened, .event (Objects.event "new" 0) :: (notes ++ more),
          fun o => ?_⟩⟩
      have law := law (o.emit (Objects.event "new" 0))
      simp only [made] at law
      simp only [Objects.create, Session.observe, List.nil_append, List.length_nil, law, later,
        Observer.hearAll_cons, Observer.hearAll_append, Observer.hear, alike.slot]

/-- Registering resources tells every observer the same. -/
theorem gives_registerAll (names : List String) (registry : Registry) :
    ∃ registry', Gives (fun o => names.foldl (fun (registry, o) name =>
      Registry.register registry { name := some name, cleanup := .resource name } o) (registry, o))
        registry' := by
  induction names generalizing registry with
  | nil => exact ⟨registry, gives_self registry⟩
  | cons name rest inductionHypothesis =>
      let entry : Registry.Entry := { name := some name, cleanup := .resource name }
      obtain ⟨first, law⟩ := registry.gives_register entry
      obtain ⟨registry', more, later⟩ :=
        inductionHypothesis { pending := entry :: registry.pending }
      refine ⟨registry', first ++ more, fun o => ?_⟩
      simp only [entry] at law later
      simp only [List.foldl_cons, law, later, Observer.hearAll_append]

theorem scripted_runRegistry (inputs : Json) (s : Session) :
    ∃ a slot, Scripted (runRegistry inputs) s a slot := by
  unfold runRegistry
  cases Inputs.texts inputs "names" with
  | error refusal =>
      exact ⟨.error refusal, s.slot, scripted_self _ s⟩
  | ok names =>
      obtain ⟨registry, notes, law⟩ := gives_registerAll names {}
      obtain ⟨more, later⟩ := Registry.gives_runAll registry.pending
      refine ⟨.ok (registryText (registry.pending.map Registry.Entry.cleanup)), s.slot,
        fun s' alike => ⟨s'.poolsOpened, s'.scopesOpened, notes ++ more, fun o => ?_⟩⟩
      have law := law o
      simp only [Session.observe, law, Registry.cleanup, later, Observer.hearAll_append, alike.slot]

end Execution

open Execution in
/-- Every operation follows a script. -/
theorem scripted_run (operation : Operation) (inputs : Json) (s : Session) :
    ∃ a slot, Scripted (operation.run inputs) s a slot := by
  cases operation
  case progressionContains => exact scripted_runContains inputs s
  case scope => exact scripted_runScope inputs s
  case doubleRegistration => exact scripted_runDoubleRegistration s
  case pool => exact scripted_runPool inputs s
  case shared => exact scripted_runShared inputs s
  case registry => exact scripted_runRegistry inputs s
  all_goals exact scripted_settle s _

/-- The same as `Scripted` for acts that do not even look at the slot. -/
def Repeats {α : Type} (act : Session → α × Session) (s : Session) (a : α) (slot : Slot) : Prop :=
  ∀ s', s.Akin s' → ∃ pools scopes notes, ∀ o,
    act (s'.observe o) =
      (a, { s' with slot, poolsOpened := pools, scopesOpened := scopes,
                    observer := o.hearAll notes })

theorem repeats_execute (function : String) (inputs : Json) (s : Session) :
    ∃ a slot, Repeats (execute function inputs) s a slot := by
  cases named : Operation.ofName? function with
  | none =>
      refine ⟨.error (.unknownFunction function), .clear, fun s' _ =>
        ⟨s'.poolsOpened, s'.scopesOpened, [], fun o => ?_⟩⟩
      simp only [execute, named, Session.observe, Observer.hearAll_nil]
  | some operation =>
      obtain ⟨a, slot, scripted⟩ := scripted_run operation inputs { s with slot := .clear }
      refine ⟨a, slot, fun s' akin => ?_⟩
      obtain ⟨pools, scopes, notes, law⟩ :=
        scripted { s' with slot := .clear } { akin with slot := rfl }
      refine ⟨pools, scopes, notes, fun o => ?_⟩
      have law := law o
      simp only [Session.observe] at law
      simp only [execute, named, Session.observe, law]

theorem repeats_verify (c : Case) (family : String) (s : Session) :
    ∃ verdict slot, Repeats (c.verify family) s verdict slot := by
  obtain ⟨result, slot, repeats⟩ := repeats_execute c.function c.inputs s
  refine ⟨c.judge family result, slot, fun s' akin => ?_⟩
  obtain ⟨pools, scopes, notes, law⟩ := repeats s' akin
  exact ⟨pools, scopes, notes, fun o => by simp only [Case.verify, law]⟩

end Conformance

end Underlay
