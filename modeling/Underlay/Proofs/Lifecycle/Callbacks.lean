import Underlay.Proofs.Lifecycle.Commands

/-!
# Callbacks keep in step

When the last holder of an object goes, what the object holds becomes what is to be given up, behind
all that its destructor does. When an entry is taken out of a registry it is no longer pending. Both
are recorded in the same step, before the callback does anything: a callback that begins in a step
is announced by the last record of the step.
-/

namespace Underlay.Trail

variable {state : State} {history : List Event} {records : List Lifecycle.Event}

section Handles

variable (ids : List ObjectId) (commands : List Command)

@[simp]
theorem filterMap_handle?_command : (commands.map Task.command).filterMap Task.handle? = [] :=
  List.filterMap_eq_nil_iff.mpr (List.forall_mem_map.mpr fun _ _ => rfl)

@[simp]
theorem filterMap_cellHandle?_command :
    (commands.map Task.command).filterMap Task.cellHandle? = [] :=
  List.filterMap_eq_nil_iff.mpr (List.forall_mem_map.mpr fun _ _ => rfl)

@[simp]
theorem filterMap_handle?_letGo : (ids.map Task.letGo).filterMap Task.handle? = ids := by
  rw [List.filterMap_map]
  exact List.filterMap_some

@[simp]
theorem filterMap_cellHandle?_letGo : (ids.map Task.letGo).filterMap Task.cellHandle? = [] :=
  List.filterMap_eq_nil_iff.mpr (List.forall_mem_map.mpr fun _ _ => rfl)

@[simp]
theorem filterMap_handle?_letGoCell : (ids.map Task.letGoCell).filterMap Task.handle? = [] :=
  List.filterMap_eq_nil_iff.mpr (List.forall_mem_map.mpr fun _ _ => rfl)

@[simp]
theorem filterMap_cellHandle?_letGoCell :
    (ids.map Task.letGoCell).filterMap Task.cellHandle? = ids := by
  rw [List.filterMap_map]
  exact List.filterMap_some

variable (state : State) (callback : Callback) (behind : List Task)

/-- What a callback does itself gives up nothing yet. -/
theorem handles_enter : (state.enter callback commands behind).handles =
    state.held ++ (behind.filterMap Task.handle? ++ state.tasks.filterMap Task.handle?) := by
  rw [State.handles, State.enter, List.filterMap_append, List.filterMap_append,
    filterMap_handle?_command]
  rfl

theorem cellHandles_enter : (state.enter callback commands behind).cellHandles =
    state.cells ++ (behind.filterMap Task.cellHandle? ++
      state.tasks.filterMap Task.cellHandle?) := by
  rw [State.cellHandles, State.enter, List.filterMap_append, List.filterMap_append,
    filterMap_cellHandle?_command]
  rfl

end Handles

/-! The end of an object -/

section Conclude

variable {π : Type} {object : Object π} (callback : Callback)
  (commands : Destructor π → List Command) (part : ObjectId → Task)

theorem conclude_of_none (none : object.destructor = none) :
    conclude state (some object) callback commands part =
      state.first (object.children.map part) := by
  simp only [conclude, none]

theorem conclude_of_some {destructor : Destructor π}
    (declared : object.destructor = some destructor) :
    conclude state (some object) callback commands part =
      state.enter callback (commands destructor) (object.children.map part) := by
  simp only [conclude, declared]

variable (object)

@[simp]
theorem machine_conclude :
    (conclude state (some object) callback commands part).machine = state.machine := by
  cases declared : object.destructor with
  | none => rw [conclude_of_none callback commands part declared, State.first]
  | some destructor => rw [conclude_of_some callback commands part declared, State.enter]

/-- What the object holds is to be given up, whether a destructor runs or not. -/
theorem handles_conclude :
    (conclude state (some object) callback commands part).handles =
      state.held ++ ((object.children.map part).filterMap Task.handle? ++
        state.tasks.filterMap Task.handle?) := by
  cases declared : object.destructor with
  | none =>
      rw [conclude_of_none callback commands part declared, State.handles, State.first,
        List.filterMap_append]
  | some destructor =>
      rw [conclude_of_some callback commands part declared, handles_enter]

theorem cellHandles_conclude :
    (conclude state (some object) callback commands part).cellHandles =
      state.cells ++ ((object.children.map part).filterMap Task.cellHandle? ++
        state.tasks.filterMap Task.cellHandle?) := by
  cases declared : object.destructor with
  | none =>
      rw [conclude_of_none callback commands part declared, State.cellHandles, State.first,
        List.filterMap_append]
  | some destructor =>
      rw [conclude_of_some callback commands part declared, cellHandles_enter]

theorem running_conclude {running : Running}
    (listed : running ∈ (conclude state (some object) callback commands part).running) :
    running = { callback, since := state.next } ∨ running ∈ state.running := by
  cases declared : object.destructor with
  | none =>
      rw [conclude_of_none callback commands part declared] at listed
      exact .inr listed
  | some destructor =>
      rw [conclude_of_some callback commands part declared] at listed
      exact List.mem_cons.mp listed

end Conclude

namespace Tracks

/-- An object that is destroyed is announced before its destructor begins. -/
theorem of_concluded {π : Type} {before : State} {object : Object π} {callback : Callback}
    {commands : Destructor π → List Command} {part : ObjectId → Task}
    (tracks : Tracks before history records)
    (made : before.machine.observer.Records state.machine.observer [callback.announcement])
    (ours : callback.announcement.component = "refcount")
    (census : Census (conclude state (some object) callback commands part)
      (records ++ [callback.announcement]))
    (scopes : state.machine.scopes = before.machine.scopes)
    (opened : state.machine.session.scopesOpened = before.machine.session.scopesOpened)
    (registries : state.machine.registries = before.machine.registries)
    (running : state.running = before.running) :
    Continues before history records
      (.idle, conclude state (some object) callback commands part) := by
  refine tracks.of_census ?_ ?_ census ?_ ?_ ?_ ?_
  · rwa [machine_conclude]
  · exact List.forall_mem_cons.mpr ⟨ours, List.forall_mem_nil _⟩
  · rwa [machine_conclude]
  · rwa [machine_conclude]
  · rwa [machine_conclude]
  · intro under listed
    rcases running_conclude object callback commands part listed with rfl | listed
    · exact .inr ⟨by rw [State.next, State.next, machine_conclude], rfl⟩
    · exact .inl (running ▸ listed)

theorem step_letGo (state : State) {id : ObjectId}
    (tracks : Tracks { state with tasks := .letGo id :: state.tasks } history records)
    (program : Program) :
    Continues { state with tasks := .letGo id :: state.tasks } history records
      (attend program state (.letGo id)) := by
  have counted : state.machine.objects.Counted (id :: state.handles) :=
    tracks.census.objects.of_perm List.perm_middle
  obtain ⟨object, present⟩ := counted.live_of_mem List.mem_cons_self
  by_cases shared : 1 < object.count
  · have shift := (Objects.shift_letGo counted present shared).of_perm
      List.perm_middle.symm (.refl _)
    simp only [attend, Machine.letGo, Objects.letGo_of_lt present shared, conclude]
    exact tracks.of_counted (Observer.records_emit _ _) rfl
      (tracks.census.of_objects shift rfl rfl) rfl rfl rfl rfl
  · have shift := (Objects.shift_letGo_last counted present shared).of_perm
      List.perm_middle.symm (List.perm_append_comm_assoc _ _ _)
    simp only [attend, Machine.letGo, Objects.letGo_of_last present shared]
    refine of_concluded tracks (Observer.records_emit _ _) rfl
      (tracks.census.of_objects ?_ ?_ ?_) rfl rfl rfl rfl
    · rw [machine_conclude, handles_conclude, filterMap_handle?_letGo]
      exact shift
    · rw [machine_conclude]
      rfl
    · rw [cellHandles_conclude, filterMap_cellHandle?_letGo]
      rfl

theorem step_letGoCell (state : State) {id : ObjectId}
    (tracks : Tracks { state with tasks := .letGoCell id :: state.tasks } history records)
    (program : Program) :
    Continues { state with tasks := .letGoCell id :: state.tasks } history records
      (attend program state (.letGoCell id)) := by
  have counted : state.machine.cells.Counted (id :: state.cellHandles) :=
    tracks.census.cells.of_perm List.perm_middle
  obtain ⟨object, present⟩ := counted.live_of_mem List.mem_cons_self
  by_cases shared : 1 < object.count
  · have shift := (Objects.shift_letGo counted present shared).of_perm
      List.perm_middle.symm (.refl _)
    simp only [attend, Machine.letGoCell, Objects.letGo_of_lt present shared, conclude]
    exact tracks.of_counted (Observer.records_emit _ _) rfl
      (tracks.census.of_cells shift rfl rfl) rfl rfl rfl rfl
  · have shift := (Objects.shift_letGo_last counted present shared).of_perm
      List.perm_middle.symm (List.perm_append_comm_assoc _ _ _)
    simp only [attend, Machine.letGoCell, Objects.letGo_of_last present shared]
    refine of_concluded tracks (Observer.records_emit _ _) rfl
      (tracks.census.of_cells ?_ ?_ ?_) rfl rfl rfl rfl
    · rw [machine_conclude, cellHandles_conclude, filterMap_cellHandle?_letGoCell]
      exact shift
    · rw [machine_conclude]
      rfl
    · rw [handles_conclude, filterMap_handle?_letGoCell]
      rfl

/-- An entry that is taken out is announced before its cleanup begins. -/
theorem step_exhaust (state : State) {registry : RegistryId}
    (tracks : Tracks { state with tasks := .exhaust registry :: state.tasks } history records)
    (program : Program) :
    Continues { state with tasks := .exhaust registry :: state.tasks } history records
      (attend program state (.exhaust registry)) := by
  unfold attend
  cases newest : (state.machine.registry registry).pending with
  | nil =>
      simp only [Machine.takeEntry, newest]
      exact tracks.aside (Observer.records_self _) nofun rfl rfl rfl rfl rfl (.refl _) (.refl _)
        fun _ listed => listed
  | cons entry pending =>
      simp only [Machine.takeEntry, newest]
      refine tracks.of_entered (Observer.records_emit _ _) (List.forall_mem_singleton.mpr rfl)
        (tracks.entered.step_takeEntry newest _) rfl rfl rfl rfl ?_ ?_ fun running listed => ?_
      · rw [handles_enter]
        exact .refl _
      · rw [cellHandles_enter]
        exact .refl _
      · rcases List.mem_cons.mp listed with rfl | listed
        · exact .inr ⟨rfl, rfl⟩
        · exact .inl listed

/-- A command or the end of a callback is done with when it is taken from the tasks. -/
theorem of_done (state : State) {task : Task}
    (tracks : Tracks { state with tasks := task :: state.tasks } history records)
    (handle : task.handle? = none) (cellHandle : task.cellHandle? = none) :
    Tracks state history records := by
  obtain ⟨census, scopes, entered⟩ := tracks
  have handles : ({ state with tasks := task :: state.tasks } : State).handles = state.handles := by
    simp [State.handles, handle]
  have cellHandles :
      ({ state with tasks := task :: state.tasks } : State).cellHandles = state.cellHandles := by
    simp [State.cellHandles, cellHandle]
  obtain ⟨objects, cells, holders, living, outside⟩ := census
  refine ⟨⟨handles ▸ objects, cellHandles ▸ cells, holders, living, ?_⟩, scopes, entered⟩
  simpa only [State.holders, handles, cellHandles] using outside

theorem step (tracks : Tracks state history records) (program : Program) :
    Continues state history records (step program state) := by
  rcases state with ⟨machine, held, cells, tasks, running⟩
  cases tasks with
  | nil => exact tracks.stay
  | cons task rest =>
      let popped : State := { machine, held, cells, tasks := rest, running }
      cases task with
      | command command => exact (of_done popped tracks rfl rfl).step_perform command
      | letGo id => exact step_letGo popped tracks program
      | letGoCell id => exact step_letGoCell popped tracks program
      | exhaust registry => exact step_exhaust popped tracks program
      | leave =>
          exact (of_done popped tracks rfl rfl).aside (Observer.records_self _) nofun
            rfl rfl rfl rfl rfl (.refl _) (.refl _) fun _ listed => List.mem_of_mem_tail listed

end Tracks

end Underlay.Trail
