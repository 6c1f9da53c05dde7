import Mathlib.Logic.Relation
import Underlay.Proofs.Lifecycle.Trail

/-!
# Callbacks that only report

A machine gives up a handle, or cleans up a registry, in one operation: what its callbacks report is
recorded at their places. Taken in steps, in a program whose callbacks make just these records, the
same comes to the same machine.
-/

namespace Underlay

namespace Objects

variable {π : Type} {s s' : Objects π} {o o' : Observer} {id : ObjectId} {object : Object π}

/-- What the destructors of a store report is nothing that is read. -/
def Quiet (s : Objects π) : Prop :=
  ∀ id object, s.get? id = some object → ∀ destructor ∈ object.destructor,
    ∀ report ∈ destructor.reports, ¬ Trail.Counts report

/-- A holder that is let go of leaves the destructors as they are, or takes one out. -/
theorem Quiet.letGo (quiet : s.Quiet) (id : ObjectId) (o : Observer) :
    (s.letGo id o).2.1.Quiet ∧ ∀ object ∈ (s.letGo id o).1,
      ∀ destructor ∈ object.destructor, ∀ report ∈ destructor.reports, ¬ Trail.Counts report := by
  cases present : s.get? id with
  | none =>
      simp only [Objects.letGo, present]
      refine ⟨quiet, ?_⟩
      rintro destroyed ⟨⟩
  | some object =>
      by_cases shared : 1 < object.count
      · rw [letGo_of_lt present shared]
        refine ⟨forall_get?_set quiet present ?_, ?_⟩
        · rintro recounted ⟨⟩
          exact quiet id object present
        · rintro destroyed ⟨⟩
      · rw [letGo_of_last present shared]
        refine ⟨forall_get?_set quiet present ?_, ?_⟩
        · rintro kept ⟨⟩
        · rintro destroyed ⟨⟩
          exact quiet id object present

end Objects

namespace Trail

variable {program : Program} {state : State} {reports : List Lifecycle.Event}

/-- Some number of steps come from one state to another. -/
def Comes (program : Program) : State → State → Prop :=
  Relation.ReflTransGen fun state next => (step program state).2 = next

theorem comes_step : Comes program state (step program state).2 :=
  .single rfl

def reported {π : Type} (destructor : Destructor π) : List Command :=
  destructor.reports.map .record

/-- Callbacks make the records that they are said to report, and do nothing else. -/
def reporting : Program where
  destructor := reported
  cellDestructor := reported
  cleanup entry := entry.reports.map .record

/-- Records are made one after the other. -/
theorem comes_reports (unread : ∀ report ∈ reports, ¬ Counts report) (state : State) :
    Comes program (state.first ((reports.map .record).map .command)) { state with
      machine := state.machine.observe (reports.foldl Observer.emit state.machine.observer) } := by
  induction reports generalizing state with
  | nil => exact .refl
  | cons report rest inductionHypothesis =>
      obtain ⟨foreign, others⟩ := List.forall_mem_cons.mp unread
      let next : State := { state with
        machine := state.machine.observe (state.machine.observer.emit report) }
      have first : (step program
          (state.first (((report :: rest).map .record).map .command))).2 =
          next.first ((rest.map .record).map .command) := by
        change (ifHeld _ (¬ Counts report) _).2 = _
        rw [ifHeld, if_pos foreign]
        rfl
      exact .head first (inductionHypothesis others next)

/-- A callback that only reports leaves its records behind, and then the tasks behind it follow. -/
theorem comes_enter (unread : ∀ report ∈ reports, ¬ Counts report) (callback : Callback)
    (behind : List Task) :
    Comes program (state.enter callback (reports.map .record) behind) (State.first { state with
      machine := state.machine.observe (reports.foldl Observer.emit state.machine.observer) }
      behind) := by
  let under : State := { state with
    tasks := .leave :: behind ++ state.tasks
    running := { callback, since := state.next } :: state.running }
  have entered : state.enter callback (reports.map .record) behind =
      under.first ((reports.map .record).map .command) := by
    simp only [State.enter, State.first, under, List.append_assoc]
  rw [entered]
  exact (comes_reports unread under).trans comes_step

/-! ## Handles -/

/-- One of the stores of a machine, and the tasks that give up its handles. -/
structure Store (π : Type) where
  objects : Machine → Objects π
  place : Machine → Objects π × Observer → Machine
  part : ObjectId → Task
  callback : ObjectId → Callback
  objects_place : ∀ machine left, objects (place machine left) = left.1
  observer_place : ∀ machine left, (place machine left).observer = left.2
  place_place : ∀ machine left later, place (place machine left) later = place machine later
  place_self : ∀ machine, place machine (objects machine, machine.observer) = machine
  observe_place : ∀ machine left o, (place machine left).observe o = place machine (left.1, o)
  attend_part : ∀ state id, (attend reporting state (part id)).2 =
    let (last, left) := (objects state.machine).letGo id state.machine.observer
    conclude { state with machine := place state.machine left } last (callback id) reported part

namespace Store

def objectStore : Store String where
  objects := Machine.objects
  place machine left := { machine.observe left.2 with objects := left.1 }
  part := .letGo
  callback := .destructor
  objects_place _ _ := rfl
  observer_place _ _ := rfl
  place_place _ _ _ := rfl
  place_self _ := rfl
  observe_place _ _ _ := rfl
  attend_part _ _ := rfl

def cellStore : Store Block where
  objects := Machine.cells
  place machine left := { machine.observe left.2 with cells := left.1 }
  part := .letGoCell
  callback := .cellDestructor
  objects_place _ _ := rfl
  observer_place _ _ := rfl
  place_place _ _ _ := rfl
  place_self _ := rfl
  observe_place _ _ _ := rfl
  attend_part _ _ := rfl

variable {π : Type} (store : Store π)

/-- The end of an object comes to what its destructor reports, and to its children. -/
theorem comes_conclude (state : State) {object : Object π}
    (unread : ∀ destructor ∈ object.destructor, ∀ report ∈ destructor.reports, ¬ Counts report)
    (callback : Callback) :
    Comes reporting (conclude state (some object) callback reported store.part)
      (State.first { state with
        machine := state.machine.observe (Objects.report object state.machine.observer) }
        (object.children.map store.part)) := by
  cases declared : object.destructor with
  | none =>
      simp only [conclude, Objects.report, declared]
      exact .refl
  | some destructor =>
      simp only [conclude, Objects.report, declared]
      exact comes_enter (unread destructor declared) callback _

/-- The first handle is let go of, and the others are still to be given up. -/
theorem step_parts (state : State) {id : ObjectId} {rest : List ObjectId}
    {last : Option (Object π)} {left : Objects π × Observer}
    (letsGo : (store.objects state.machine).letGo id state.machine.observer = (last, left)) :
    (step reporting (state.first ((id :: rest).map store.part))).2 =
      conclude
        (State.first { state with machine := store.place state.machine left }
          (rest.map store.part))
        last (store.callback id) reported store.part := by
  refine (store.attend_part (state.first (rest.map store.part)) id).trans ?_
  simp only [State.first, letsGo]

/-- Handles are given up one by one, and those that an object kept before the others. -/
theorem comes_leave {s : Objects π} {o : Observer} (pending : List ObjectId) (quiet : s.Quiet)
    (state : State) (objects : store.objects state.machine = s)
    (observes : state.machine.observer = o) :
    Comes reporting (state.first (pending.map store.part)) { state with
      machine := store.place state.machine (s.leave o pending) } := by
  induction s, o, pending using Objects.leave_induction generalizing state with
  | nil s o =>
      subst objects observes
      rw [Objects.leave_nil, store.place_self]
      exact .refl
  | kept s o id rest s' o' letsGo inductionHypothesis =>
      subst objects observes
      have quiet' := (quiet.letGo id state.machine.observer).1
      rw [letsGo] at quiet'
      let next : State := { state with machine := store.place state.machine (s', o') }
      have behind := inductionHypothesis quiet' next (store.objects_place _ _)
        (store.observer_place _ _)
      rw [store.place_place] at behind
      rw [Objects.leave_cons, letsGo]
      exact .head (store.step_parts state letsGo) behind
  | last s o id rest object s' o' letsGo inductionHypothesis =>
      subst objects observes
      obtain ⟨quiet', unread⟩ := quiet.letGo id state.machine.observer
      rw [letsGo] at quiet' unread
      let next : State := { state with machine := store.place state.machine (s', o') }
      let ended : State :=
        { state with machine := store.place state.machine (s', Objects.report object o') }
      have concluded := store.comes_conclude (next.first (rest.map store.part))
        (unread object rfl) (store.callback id)
      have parts : State.first { next.first (rest.map store.part) with
            machine := next.machine.observe (Objects.report object next.machine.observer) }
          (object.children.map store.part) =
          ended.first ((object.children ++ rest).map store.part) := by
        simp only [State.first, next, ended, store.observe_place, store.observer_place,
          List.map_append, List.append_assoc]
      have behind := inductionHypothesis quiet' ended (store.objects_place _ _)
        (store.observer_place _ _)
      rw [store.place_place] at behind
      rw [Objects.leave_cons, letsGo]
      exact .head (store.step_parts state letsGo) (concluded.trans (parts ▸ behind))

end Store

/-- To release a handle of an object is what the steps come to that give it up. -/
theorem comes_release (quiet : state.machine.objects.Quiet) (id : ObjectId) :
    Comes reporting (state.first [.letGo id])
      { state with machine := (state.machine.release id).2.2 } :=
  Store.objectStore.comes_leave [id] quiet state rfl rfl

/-- So it is with a handle of generated code. -/
theorem comes_releaseCell (quiet : state.machine.cells.Quiet) (id : ObjectId) :
    Comes reporting (state.first [.letGoCell id])
      { state with machine := (Boundary.release (some id) state.machine).2.2 } :=
  Store.cellStore.comes_leave [id] quiet state rfl rfl

/-! ## Registries -/

theorem setRegistry_of_pending_nil {machine : Machine} {id : RegistryId}
    (empty : (machine.registry id).pending = []) : machine.setRegistry id {} = machine := by
  by_cases present : id < machine.registries.size
  · have same : machine.registries[id] = {} := by
      rw [Machine.registry, Array.getD_eq_getD_getElem?, Array.getElem?_eq_getElem present] at empty
      exact congrArg Registry.mk empty
    simp [Machine.setRegistry, Array.setIfInBounds, present, ← same]
  · simp [Machine.setRegistry, Array.setIfInBounds, present]

theorem setRegistry_setRegistry (machine : Machine) (id : RegistryId) (r r' : Registry) :
    (machine.setRegistry id r).setRegistry id r' = machine.setRegistry id r' := by
  simp [Machine.setRegistry]

/-- Entries are taken out and run one by one, the newest first. -/
theorem comes_runAll {id : RegistryId} {entries : List Registry.Entry}
    (quiet : ∀ entry ∈ entries, ∀ report ∈ entry.reports, ¬ Counts report) (state : State)
    (pending : (state.machine.registry id).pending = entries) :
    Comes reporting (state.first [.exhaust id]) { state with
      machine := (state.machine.setRegistry id {}).observe
        (Registry.runAll entries state.machine.observer).2 } := by
  induction entries generalizing state with
  | nil =>
      rw [setRegistry_of_pending_nil pending]
      refine .single ?_
      change (attend reporting state (.exhaust id)).2 = _
      simp only [attend, Machine.takeEntry, pending]
      rfl
  | cons entry rest inductionHypothesis =>
      obtain ⟨unread, others⟩ := List.forall_mem_cons.mp quiet
      have present : id < state.machine.registries.size := by
        by_contra absent
        simp [Machine.registry, absent] at pending
      let taken : State := { state with
        machine := (state.machine.setRegistry id { pending := rest }).observe
          (state.machine.observer.emit entry.announcement) }
      let next : State := { taken with
        machine := taken.machine.observe
          (entry.reports.foldl Observer.emit taken.machine.observer) }
      have first : (step reporting (state.first [.exhaust id])).2 =
          taken.enter (.cleanup entry) (entry.reports.map .record) [.exhaust id] := by
        change (attend reporting state (.exhaust id)).2 = _
        simp only [attend, Machine.takeEntry, pending]
        rfl
      have behind := inductionHypothesis others next
        (congrArg Registry.pending (Machine.registry_setRegistry_self present _))
      have same : next.machine.setRegistry id {} =
          (state.machine.setRegistry id {}).observe next.machine.observer :=
        congrArg (Machine.observe · next.machine.observer)
          (setRegistry_setRegistry state.machine id { pending := rest } {})
      rw [same] at behind
      exact .head first ((comes_enter unread _ _).trans behind)

/-- To clean a registry up is what the steps come to that run its entries. -/
theorem comes_cleanUp {id : RegistryId}
    (quiet : ∀ entry ∈ (state.machine.registry id).pending, ∀ report ∈ entry.reports,
      ¬ Counts report) :
    Comes reporting (state.first [.exhaust id])
      { state with machine := (state.machine.cleanUp id).2 } :=
  comes_runAll quiet state rfl

end Trail

end Underlay
