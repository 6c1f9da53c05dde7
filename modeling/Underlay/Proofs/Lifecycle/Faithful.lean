import Underlay.Proofs.Conformance.Recording
import Underlay.Proofs.Lifecycle.Callbacks

/-!
# The lifecycle trace is faithful

A run begins with an empty log and with nothing that was recorded about. As long as the log has
room, its trace is faithful after every step: the records of objects add up to the holders and the
objects there are, those of a scope repeat its calls, number its blocks and tell its closing, and
those of registries add up to what is pending. Whatever is recorded in the course of a callback
stands behind the record that announces the callback.
-/

namespace Underlay.Trail

open Lifecycle (Log Record tally)

variable {state : State} {machine : Machine} {history : List Event} {first : Nat}
  {records more : List Lifecycle.Event} {running : Running}

/-- Records are kept, in a log that is empty, and nothing was opened or registered yet. -/
structure Begins (machine : Machine) : Prop where
  traces : machine.observer.tracking = .trace
  room : machine.observer.log.capacity = 4096
  empty : machine.observer.log.slots = #[] ∧ machine.observer.log.oldest = 0
  objects : ∀ id, machine.objects.get? id = none
  cells : ∀ id, machine.cells.get? id = none
  scopes : machine.scopes = []
  registries : ∀ registry ∈ machine.registries, registry.pending = []

/-- What records tell about objects, scopes and registries is so. -/
structure Faithful (state : State) (history : List Event) (records : List Lifecycle.Event) :
    Prop where
  holders : tally "refcount" "new" records + tally "refcount" "retain" records =
    state.holders + tally "refcount" "release" records + tally "refcount" "destroy" records
  living : tally "refcount" "new" records = state.living + tally "refcount" "destroy" records
  registered : ∀ scope, (Scope.registrations scope records).map Lifecycle.Event.name =
    (past scope history).registered
  live : ∀ scope place record, (Scope.registrations scope records)[place]? = some record →
    record.details = "scope=" ++ toString scope ++ (" live=" ++ toString (place + 1))
  refused : ∀ scope, Scope.refusals scope records =
    (past scope history).refused.map fun call =>
      ({ id := scope } : Scope).refusal call.1 call.2
  closed : ∀ scope, Scope.closings scope records =
    if (past scope history).closed then
      [({ id := scope } : Scope).event "close"
        (" released=" ++ toString (past scope history).registered.length)]
    else []
  pending : tally "registry" "register" records =
    tally "registry" "cleanup" records + state.pending

theorem Tracks.faithful (tracks : Tracks state history records) :
    Faithful state history records := by
  obtain ⟨census, scopes, entered⟩ := tracks
  exact ⟨census.outside ▸ census.holders, census.living,
    fun scope => (scopes.told scope).registered, fun scope => (scopes.told scope).live,
    fun scope => (scopes.told scope).refused, fun scope => (scopes.told scope).closed, entered⟩

/-! ## The beginning -/

theorem total_of_vacant {π : Type} {s : Objects π} (vacant : ∀ id, s.get? id = none)
    (measure : Object π → Nat) : Objects.total measure s.slots = 0 := by
  refine Nat.eq_zero_of_not_pos fun positive => ?_
  obtain ⟨id, object, present, -⟩ := Objects.exists_of_total_pos positive
  have found : s.get? id = some object := by
    rw [Objects.get?, present]
    rfl
  cases (vacant id).symm.trans found

theorem counted_of_vacant {π : Type} {s : Objects π} (vacant : ∀ id, s.get? id = none) :
    s.Counted [] := by
  refine ⟨fun id => ?_, fun id object present => ?_⟩
  · rw [Objects.count, vacant, Objects.stored, total_of_vacant vacant]
    rfl
  · cases (vacant id).symm.trans present

namespace Begins

theorem circular (begins : Begins machine) : machine.observer.log.Circular := by
  have room := begins.room
  obtain ⟨slots, oldest⟩ := begins.empty
  have none : machine.observer.log.slots.size = 0 := congrArg Array.size slots
  exact ⟨by omega, by omega, fun _ => oldest, by omega⟩

theorem tracks (begins : Begins machine) (commands : List Command) :
    Tracks { machine, tasks := commands.map .command } [] [] := by
  have objects := total_of_vacant begins.objects
  have cells := total_of_vacant begins.cells
  have handles : ({ machine, tasks := commands.map .command } : State).handles = [] :=
    filterMap_handle?_command commands
  have cellHandles : ({ machine, tasks := commands.map .command } : State).cellHandles = [] :=
    filterMap_cellHandle?_command commands
  have absent (scope : Nat) : machine.scope? scope = none := by
    rw [Machine.scope?, begins.scopes]
    rfl
  refine ⟨⟨?_, ?_, ?_, ?_, ?_⟩, ⟨fun scope => ?_, fun scope _ => ?_⟩, ?_⟩
  · rw [handles]
    exact counted_of_vacant begins.objects
  · rw [cellHandles]
    exact counted_of_vacant begins.cells
  · simp [Objects.holders, objects, cells, tally]
  · simp [State.living, Objects.living, objects, cells, tally]
  · simp [State.holders, handles, cellHandles, Objects.holders, Objects.kept, objects, cells]
  · rw [absent]
    exact Scope.Told.start scope
  · exact ⟨absent scope, rfl⟩
  · have none : (machine.registries.toList.map Registry.length).sum = 0 := by
      refine List.sum_eq_zero (List.forall_mem_map.mpr fun registry listed => ?_)
      rw [Registry.length, begins.registries registry (Array.mem_toList_iff.mp listed)]
      rfl
    rw [Entered, State.pending, none]
    rfl

end Begins

/-! ## Callbacks under way -/

/-- The last record before a callback began announces it. Records are numbered from the first on. -/
def Heralded (first : Nat) (records : List Lifecycle.Event) (running : Running) : Prop :=
  ∃ place, records[place]? = some running.callback.announcement ∧
    running.since = first + place + 1

theorem Heralded.append (heralded : Heralded first records running)
    (more : List Lifecycle.Event) : Heralded first (records ++ more) running := by
  obtain ⟨place, found, since⟩ := heralded
  refine ⟨place, ?_, since⟩
  obtain ⟨inside, -⟩ := List.getElem?_eq_some_iff.mp found
  rw [List.getElem?_append_left inside]
  exact found

theorem Heralded.since_le (heralded : Heralded first records running) :
    running.since ≤ first + records.length := by
  obtain ⟨place, found, since⟩ := heralded
  obtain ⟨inside, -⟩ := List.getElem?_eq_some_iff.mp found
  omega

theorem Announced.heralded (announced : Announced state more running)
    (next : state.next = first + (records ++ more).length) :
    Heralded first (records ++ more) running := by
  obtain ⟨since, last⟩ := announced
  have filled : more ≠ [] := by
    rintro rfl
    cases last
  have positive : 0 < more.length := List.length_pos_iff.mpr filled
  rw [List.length_append] at next
  refine ⟨records.length + (more.length - 1), ?_, by omega⟩
  rw [List.getElem?_append_right (Nat.le_add_right _ _), Nat.add_sub_cancel_left,
    ← List.getLast?_eq_getElem?]
  exact last

/-- Every callback that is or was under way was announced before it began. -/
structure Attended (first : Nat) (records : List Lifecycle.Event) (ran : Run State Moment) :
    Prop where
  running : ∀ running ∈ ran.state.running, Heralded first records running
  moments : ∀ moment ∈ ran.history, ∀ running ∈ moment.running,
    Heralded first records running ∧ running.since ≤ moment.first

/-! ## Runs -/

/-- A run leaves records behind that are in step with its state and its history. -/
theorem exists_records_run (program : Program) (begins : Begins machine)
    (commands : List Command) (steps : Nat) :
    ∃ records,
      machine.observer.Records (run program machine commands steps).state.machine.observer records ∧
      Tracks (run program machine commands steps).state
        (events (run program machine commands steps).history) records ∧
      Attended machine.observer.log.nextId records (run program machine commands steps) := by
  induction steps with
  | zero =>
      exact ⟨[], machine.observer.records_self, begins.tracks commands, nofun, nofun⟩
  | succ steps inductionHypothesis =>
      obtain ⟨records, made, tracks, attended⟩ := inductionHypothesis
      obtain ⟨more, later, tracks, began⟩ := tracks.step program
      have next : (run program machine commands steps).state.next =
          machine.observer.log.nextId + records.length := by
        rw [State.next, (made begins.traces).2, Log.nextId_foldl_record]
      have made := made.trans later
      refine ⟨records ++ more, made, tracks, fun running listed => ?_,
        List.forall_mem_cons.mpr ⟨fun running listed => ?_, fun moment listed running under => ?_⟩⟩
      -- What is under way now was so before, or the step has just announced it.
      · rcases began running listed with before | announced
        · exact (attended.running running before).append more
        · refine announced.heralded ?_
          rw [State.next, (made begins.traces).2, Log.nextId_foldl_record]
      · have heralded := attended.running running listed
        exact ⟨heralded.append more, next ▸ heralded.since_le⟩
      · obtain ⟨heralded, since⟩ := attended.moments moment listed running under
        exact ⟨heralded.append more, since⟩

/-- A log with enough room retains everything that is recorded. -/
theorem toList_foldl_of_fits {log : Log} (circular : log.Circular) (empty : log.toList = [])
    (fits : records.length ≤ log.capacity) :
    (records.foldl Log.record log).toList = Lifecycle.numbered log.nextId records := by
  have many : (Lifecycle.numbered log.nextId records).length = records.length := by
    rw [← List.length_map (f := Record.event), Lifecycle.events_numbered]
  rw [Log.toList_foldl_record circular empty, List.rtake, many, Nat.sub_eq_zero_of_le fits,
    List.drop_zero]

/-- After every step of a run that begins with an empty log at the level that logs, with no object,
scope or entry of a registry, and in which no more is recorded than the log has room for, the trace
is faithful. It tells the holders and the objects, for every scope the calls that registered a
block, those that failed and its closing, and what is pending. Whatever is recorded while a
callback is under way, by it or by the callbacks it brings about, stands behind its announcement,
which is the last record before it began. -/
theorem faithful_of_run (program : Program) (begins : Begins machine) (commands : List Command)
    (steps : Nat)
    (few : (run program machine commands steps).state.next ≤
      machine.observer.log.nextId + 4096) :
    let ran := run program machine commands steps
    let trace := ran.state.machine.observer.log.toList
    Faithful ran.state (events ran.history) (trace.map Record.event) ∧
      ∀ moment ∈ ran.history, ∀ running ∈ moment.running, ∀ record ∈ moment.made trace,
        ∃ announcing ∈ trace, announcing.event = running.callback.announcement ∧
          announcing.id + 1 = running.since ∧ announcing.id < record.id := by
  intro ran trace
  obtain ⟨records, made, tracks, attended⟩ := exists_records_run program begins commands steps
  obtain ⟨-, log⟩ := made begins.traces
  have fits : records.length ≤ machine.observer.log.capacity := by
    rw [State.next, log, Log.nextId_foldl_record] at few
    rw [begins.room]
    omega
  have whole : trace = Lifecycle.numbered machine.observer.log.nextId records := by
    have empty : machine.observer.log.toList = [] := by
      simp [Log.toList, begins.empty.1]
    rw [← toList_foldl_of_fits begins.circular empty fits, ← log]
  rw [whole]
  refine ⟨?_, fun moment listed running under record recorded => ?_⟩
  · rw [Lifecycle.events_numbered]
    exact tracks.faithful
  · obtain ⟨⟨place, found, since⟩, before⟩ := attended.moments moment listed running under
    have behind : moment.first ≤ record.id := by
      have within := (List.mem_filter.mp recorded).2
      exact (of_decide_eq_true within).1
    refine ⟨{ id := machine.observer.log.nextId + place, event := running.callback.announcement },
      List.mem_of_getElem? (i := place) ?_, rfl, since.symm, ?_⟩
    · rw [Lifecycle.getElem?_numbered, found]
      rfl
    · change machine.observer.log.nextId + place < record.id
      omega

/-- A machine that records from its start on. -/
def traced : Machine :=
  { session := { observer := { tracking := .trace } } }

theorem begins_traced : Begins traced where
  traces := rfl
  room := rfl
  empty := ⟨rfl, rfl⟩
  objects := fun _ => rfl
  cells := fun _ => rfl
  scopes := rfl
  registries := nofun

/-- The destructor of a table keeps its row for as long as it works in a scope of its own. A cleanup
gives up the table. -/
def everyCallback : Program where
  destructor _ := [.keep 0, .openScope 0, .release 0, .closeScope 2]
  cellDestructor _ := []
  cleanup _ := [.release 1, .record { component := "net", name := "closed" }]

/-- A scope whose second allocation fails, a row that is destroyed with its table, and an entry of a
registry that is cleaned up. -/
def everyComponent : List Command :=
  [.openScope 0, .alloc 1 24, .setHeap 0 { source := .recording (some 0) }, .alloc 1 24,
    .closeScope 1, .share "row" none [], .share "table" (some { tag := "drop" }) [0], .addRegistry,
    .register 0 { name := some "conn", cleanup := .action "close" }, .cleanUp 0]

theorem faithful_of_run_everyComponent :
    let ran := run everyCallback traced everyComponent 24
    let trace := ran.state.machine.observer.log.toList
    ran.state.next = 14 ∧ ran.state.tasks.length = 0 ∧
      past 1 (events ran.history) =
        { registered := ["alloc"], refused := [("alloc", 24)], closed := true } ∧
      Faithful ran.state (events ran.history) (trace.map Record.event) ∧
      ∃ moment ∈ ran.history, moment.running.length = 2 ∧ ∃ record ∈ moment.made trace,
        record.event.name = "close" ∧ ∀ running ∈ moment.running, ∃ announcing ∈ trace,
          announcing.event = running.callback.announcement ∧ announcing.id < record.id := by
  have few : (run everyCallback traced everyComponent 24).state.next = 14 := by
    decide +kernel
  obtain ⟨faithful, attended⟩ :=
    faithful_of_run everyCallback begins_traced everyComponent 24 (by rw [few]; decide)
  have nested : ∃ moment ∈ (run everyCallback traced everyComponent 24).history,
      moment.running.length = 2 ∧
      ∃ record ∈ moment.made
          (run everyCallback traced everyComponent 24).state.machine.observer.log.toList,
        record.event.name = "close" := by
    decide +kernel
  obtain ⟨moment, listed, two, record, made, closes⟩ := nested
  refine ⟨few, by decide +kernel, by decide +kernel, faithful, moment, listed, two, record, made,
    closes, fun running under => ?_⟩
  obtain ⟨announcing, recorded, announces, -, before⟩ :=
    attended moment listed running under record made
  exact ⟨announcing, recorded, announces, before⟩

end Underlay.Trail
