import Underlay.Proofs.Lifecycle.Steps

/-!
# Every command keeps in step

What the records tell, what the state is and what the history knows are in step, and every command
keeps them so: behind the records that were made before come those of the command.
-/

namespace Underlay.Trail

variable {state next : State} {machine : Machine} {history : List Event}
  {records more : List Lifecycle.Event} {event : Event} {s : OpenScope}

structure Tracks (state : State) (history : List Event) (records : List Lifecycle.Event) :
    Prop where
  census : Census state records
  scopes : ScopesTell state.machine history records
  entered : Entered state records

/-- A callback under way that began just now, with its announcement as the last record. -/
def Announced (state : State) (more : List Lifecycle.Event) (running : Running) : Prop :=
  running.since = state.next ∧ more.getLast? = some running.callback.announcement

/-- What is recorded on the way, behind the records before, is in step with what comes out. -/
def Continues (state : State) (history : List Event) (records : List Lifecycle.Event)
    (outcome : Event × State) : Prop :=
  ∃ more, state.machine.observer.Records outcome.2.machine.observer more ∧
    Tracks outcome.2 (outcome.1 :: history) (records ++ more) ∧
    ∀ running ∈ outcome.2.running, running ∈ state.running ∨ Announced outcome.2 more running

theorem apart {component other : String} (ours : ∀ record ∈ more, record.component = component)
    (distinct : component ≠ other) : ∀ record ∈ more, record.component ≠ other :=
  fun record listed => ours record listed ▸ distinct

namespace Tracks

/-- What others do changes nothing that is recorded about objects, scopes and registries. -/
theorem aside (tracks : Tracks state history records)
    (made : state.machine.observer.Records next.machine.observer more)
    (others : ∀ record ∈ more, ¬ Counts record)
    (objects : next.machine.objects = state.machine.objects)
    (cells : next.machine.cells = state.machine.cells)
    (scopes : next.machine.scopes = state.machine.scopes)
    (opened : next.machine.session.scopesOpened = state.machine.session.scopesOpened)
    (registries : next.machine.registries = state.machine.registries)
    (handles : state.handles.Perm next.handles)
    (cellHandles : state.cellHandles.Perm next.cellHandles)
    (running : ∀ running ∈ next.running, running ∈ state.running) :
    Continues state history records (.idle, next) := by
  have apart {component : String} (counted : component ∈ ["scope", "refcount", "registry"]) :
      ∀ record ∈ more, record.component ≠ component := by
    rintro record listed rfl
    exact others record listed counted
  exact ⟨more, made,
    ⟨tracks.census.aside objects cells handles cellHandles (apart (by decide)),
      tracks.scopes.aside silent_idle scopes opened (apart (by decide)),
      tracks.entered.aside registries (apart (by decide))⟩,
    fun under listed => .inl (running under listed)⟩

theorem stay (tracks : Tracks state history records) :
    Continues state history records (.idle, state) :=
  tracks.aside (Observer.records_self _) nofun rfl rfl rfl rfl rfl (.refl _) (.refl _)
    fun _ listed => listed

/-- Commands on pools, the system and heaps only change the machine, and record as pools. -/
theorem of_pools (tracks : Tracks state history records)
    (noted : Pool.Noted state.machine.observer machine.observer)
    (objects : machine.objects = state.machine.objects)
    (cells : machine.cells = state.machine.cells) (scopes : machine.scopes = state.machine.scopes)
    (opened : machine.session.scopesOpened = state.machine.session.scopesOpened)
    (registries : machine.registries = state.machine.registries) :
    Continues state history records (.idle, { state with machine }) := by
  obtain ⟨more, made, ours⟩ := noted
  refine tracks.aside made (fun record listed => ?_) objects cells scopes opened registries
    (.refl _) (.refl _) fun _ listed => listed
  rw [Counts, ours record listed]
  decide

/-- One record of a scope is made, and it tells what the command did. -/
theorem of_scopes (tracks : Tracks state history records) {record : Lifecycle.Event}
    (made : state.machine.observer.Records machine.observer [record])
    (ours : record.component = "scope")
    (scopes : ScopesTell machine (event :: history) (records ++ [record]))
    (objects : machine.objects = state.machine.objects)
    (cells : machine.cells = state.machine.cells)
    (registries : machine.registries = state.machine.registries) :
    Continues state history records (event, { state with machine }) := by
  have all : ∀ record' ∈ [record], record'.component = "scope" :=
    List.forall_mem_singleton.mpr ours
  exact ⟨_, made,
    ⟨tracks.census.aside objects cells (.refl _) (.refl _) (apart all (by decide)), scopes,
      tracks.entered.aside registries (apart all (by decide))⟩,
    fun _ listed => .inl listed⟩

/-- Records of objects are made, and they count what the step did. -/
theorem of_census (tracks : Tracks state history records)
    (made : state.machine.observer.Records next.machine.observer more)
    (ours : ∀ record ∈ more, record.component = "refcount")
    (census : Census next (records ++ more))
    (scopes : next.machine.scopes = state.machine.scopes)
    (opened : next.machine.session.scopesOpened = state.machine.session.scopesOpened)
    (registries : next.machine.registries = state.machine.registries)
    (running : ∀ running ∈ next.running, running ∈ state.running ∨ Announced next more running) :
    Continues state history records (.idle, next) :=
  ⟨more, made,
    ⟨census, tracks.scopes.aside silent_idle scopes opened (apart ours (by decide)),
      tracks.entered.aside registries (apart ours (by decide))⟩,
    running⟩

/-- Records of registries are made, and they count what the step did. -/
theorem of_entered (tracks : Tracks state history records)
    (made : state.machine.observer.Records next.machine.observer more)
    (ours : ∀ record ∈ more, record.component = "registry")
    (entered : Entered next (records ++ more))
    (objects : next.machine.objects = state.machine.objects)
    (cells : next.machine.cells = state.machine.cells)
    (scopes : next.machine.scopes = state.machine.scopes)
    (opened : next.machine.session.scopesOpened = state.machine.session.scopesOpened)
    (handles : state.handles.Perm next.handles)
    (cellHandles : state.cellHandles.Perm next.cellHandles)
    (running : ∀ running ∈ next.running, running ∈ state.running ∨ Announced next more running) :
    Continues state history records (.idle, next) :=
  ⟨more, made,
    ⟨tracks.census.aside objects cells handles cellHandles (apart ours (by decide)),
      tracks.scopes.aside silent_idle scopes opened (apart ours (by decide)), entered⟩,
    running⟩

/-! Scopes -/

theorem step_onScope (tracks : Tracks state history records) {scope : Nat} {call : Event × Machine}
    (performs : ∀ s, state.machine.scope? scope = some s →
      Continues state history records (call.1, { state with machine := call.2 })) :
    Continues state history records (onScope state scope call) := by
  unfold onScope
  cases found : state.machine.scope? scope with
  | none => exact tracks.stay
  | some s => exact performs s found

theorem of_registered (tracks : Tracks state history records)
    (found : state.machine.scope? s.scope.id = some s) {call : String}
    (registers : call ∈ ["alloc", "alloc_zeroed", "register"]) {block : BlockId}
    {size : Option Nat} {heap : Heap} {o : Observer}
    (made : state.machine.observer.Records o [s.scope.registration call block size]) :
    Continues state history records (.registered s.scope.id call, { state with
      machine := ((state.machine.setHeap s.heap heap).setScope
        { s.scope with owned := { block, size } :: s.scope.owned }).observe o }) :=
  tracks.of_scopes made rfl (tracks.scopes.step_register found registers block size heap o)
    rfl rfl rfl

/-- A call that allocates is refused and recorded as that, or it registers a block. -/
theorem step_allocation (tracks : Tracks state history records)
    (found : state.machine.scope? s.scope.id = some s) {call : String}
    (registers : call ∈ ["alloc", "alloc_zeroed", "register"]) {size : Nat}
    {act : Scope → Heap → Observer → Except Failure (BlockId × Scope × Heap) × Observer}
    (noted : s.scope.Noted state.machine.observer call size
      (act s.scope (state.machine.heap s.heap) state.machine.observer))
    (absent : Except Failure BlockId) :
    let made := outcome (.registered s.scope.id call) (.refused s.scope.id call size)
      (state.machine.onScope s.scope.id absent act)
    Continues state history records (made.1, { state with machine := made.2 }) := by
  have opens : call ≠ "close" := fun closes => absurd (closes ▸ registers) (by decide)
  simp only [Machine.onScope, found]
  generalize act s.scope (state.machine.heap s.heap) state.machine.observer = result at noted
  cases noted with
  | refused failure made =>
      refine tracks.of_scopes made rfl ?_ rfl rfl rfl
      exact tracks.scopes.step_refuse found opens size rfl rfl
  | registered block size heap made => exact tracks.of_registered found registers made

theorem step_adoption (tracks : Tracks state history records)
    (found : state.machine.scope? s.scope.id = some s) (block : Option BlockId) :
    let made := outcome (.registered s.scope.id "register") .idle
      (state.machine.scopeRegister s.scope.id block)
    Continues state history records (made.1, { state with machine := made.2 }) := by
  simp only [Machine.scopeRegister, Machine.onScope, found]
  cases block with
  | none => exact tracks.of_pools (Pool.noted_self _) rfl rfl rfl rfl rfl
  | some block => exact tracks.of_registered found (by decide) (Observer.records_emit _ _)

theorem step_closing (tracks : Tracks state history records)
    (found : state.machine.scope? s.scope.id = some s) :
    Continues state history records
      (.closed s.scope.id, { state with machine := state.machine.closeScope s.scope.id }) := by
  have made := s.scope.records_close (state.machine.heap s.heap) state.machine.observer
  have scopes := tracks.scopes.step_close found
  rw [Machine.closeScope, found] at scopes ⊢
  exact tracks.of_scopes made rfl scopes rfl rfl rfl

/-! Objects -/

theorem step_ifHeld (tracks : Tracks state history records) {held : Prop} [Decidable held]
    {call : Event × State} (performs : held → Continues state history records call) :
    Continues state history records (ifHeld state held call) := by
  unfold ifHeld
  split
  · exact performs ‹_›
  · exact tracks.stay

/-- One record of an object is made, and no callback begins. -/
theorem of_counted (tracks : Tracks state history records) {record : Lifecycle.Event}
    (made : state.machine.observer.Records next.machine.observer [record])
    (ours : record.component = "refcount") (census : Census next (records ++ [record]))
    (scopes : next.machine.scopes = state.machine.scopes)
    (opened : next.machine.session.scopesOpened = state.machine.session.scopesOpened)
    (registries : next.machine.registries = state.machine.registries)
    (running : next.running = state.running) :
    Continues state history records (.idle, next) :=
  tracks.of_census made (List.forall_mem_singleton.mpr ours) census scopes opened registries
    fun _ listed => .inl (running ▸ listed)

theorem step_share (tracks : Tracks state history records) (payload : String)
    (destructor : Option (Destructor String)) {children : List ObjectId}
    (taken : ∀ child ∈ children, children.count child ≤ state.held.count child) :
    let made := state.machine.share payload destructor children
    Continues state history records
      (.idle, { state with machine := made.2, held := made.1 :: state.held.diff children }) := by
  have apart : state.handles.Perm
      (children ++ (state.held.diff children ++ state.tasks.filterMap Task.handle?)) := by
    rw [← List.append_assoc]
    exact (List.subperm_append_diff_self_of_count_le taken).symm.append_right _
  have shift := Objects.shift_create tracks.census.objects apart payload destructor
    state.machine.observer
  exact tracks.of_counted (Observer.records_emit _ _) rfl
    (tracks.census.of_objects shift rfl rfl) rfl rfl rfl rfl

theorem step_retain (tracks : Tracks state history records) {id : ObjectId}
    {object : Object String} (present : state.machine.objects.get? id = some object) :
    Continues state history records
      (.idle, { state with machine := state.machine.retain id, held := id :: state.held }) := by
  have shift := Objects.shift_retain tracks.census.objects present state.machine.observer
  exact tracks.of_counted (Objects.records_retain present _) rfl
    (tracks.census.of_objects shift rfl rfl) rfl rfl rfl rfl

/-- A handle that is given up is no longer held, but is still to be given up. -/
theorem step_release (tracks : Tracks state history records) {id : ObjectId}
    (held : id ∈ state.held) :
    Continues state history records
      (.idle, { state with held := state.held.erase id }.first [.letGo id]) := by
  have moved : state.handles.Perm
      (state.held.erase id ++ (id :: state.tasks.filterMap Task.handle?)) :=
    ((List.perm_cons_erase held).append_right _).trans List.perm_middle.symm
  exact tracks.aside (Observer.records_self _) nofun rfl rfl rfl rfl rfl moved (.refl _)
    fun _ listed => listed

/-- A payload takes and gives handles, which changes nothing of what is counted. -/
theorem step_refill (tracks : Tracks state history records) (id : ObjectId)
    (children : List ObjectId) :
    Continues state history records (refill state id children) := by
  unfold refill
  cases present : state.machine.objects.get? id with
  | none => exact tracks.stay
  | some object =>
      refine tracks.step_ifHeld fun taken => ?_
      have moved : (object.children ++ state.handles).Perm
          (children ++ ((object.children ++ state.held).diff children ++
            state.tasks.filterMap Task.handle?)) := by
        rw [State.handles, ← List.append_assoc, ← List.append_assoc]
        exact (List.subperm_append_diff_self_of_count_le taken).symm.append_right _
      have shift := Objects.shift_refill tracks.census.objects present moved
      exact tracks.of_census (Observer.records_self _) (List.forall_mem_nil _)
        (tracks.census.of_objects shift rfl rfl) rfl rfl rfl fun _ listed => .inl listed

theorem filterMap_handle?_eraseP (tasks : List Task) (id : ObjectId) :
    (tasks.eraseP fun task => task.handle? == some id).filterMap Task.handle? =
      (tasks.filterMap Task.handle?).erase id := by
  induction tasks with
  | nil => rfl
  | cons task rest inductionHypothesis =>
      cases held : task.handle? with
      | none => simp [held, inductionHypothesis]
      | some other =>
          by_cases same : other = id
          · simp [held, same]
          · simp [held, same, inductionHypothesis]

theorem cellHandle?_of_handle? {task : Task} {id : ObjectId} (held : task.handle? = some id) :
    task.cellHandle? = none := by
  cases task with
  | letGo other => rfl
  | _ => cases held

theorem filterMap_cellHandle?_eraseP (tasks : List Task) (id : ObjectId) :
    (tasks.eraseP fun task => task.handle? == some id).filterMap Task.cellHandle? =
      tasks.filterMap Task.cellHandle? := by
  induction tasks with
  | nil => rfl
  | cons task rest inductionHypothesis =>
      by_cases held : task.handle? = some id
      · simp [held, cellHandle?_of_handle? held]
      · rw [List.eraseP_cons_of_neg (by simpa using held), List.filterMap_cons,
          List.filterMap_cons, inductionHypothesis]

/-- A handle that is kept is held, and is no longer to be given up. -/
theorem step_keep (tracks : Tracks state history records) {id : ObjectId}
    (listed : id ∈ state.tasks.filterMap Task.handle?) :
    Continues state history records
      (.idle, { state with
        held := id :: state.held
        tasks := state.tasks.eraseP fun task => task.handle? == some id }) := by
  have moved : state.handles.Perm (id :: state.held ++
      (state.tasks.eraseP fun task => task.handle? == some id).filterMap Task.handle?) := by
    rw [filterMap_handle?_eraseP]
    exact ((List.perm_cons_erase listed).append_left _).trans List.perm_middle
  refine tracks.aside (Observer.records_self _) nofun rfl rfl rfl rfl rfl moved ?_
    fun _ listed => listed
  rw [State.cellHandles, State.cellHandles, filterMap_cellHandle?_eraseP]

theorem step_newCell (tracks : Tracks state history records) (size : Nat)
    (destructor : Option (Destructor Block)) :
    let made := Boundary.newObject size destructor state.machine
    Continues state history records
      (.idle, { state with machine := made.2, cells := made.1.toList ++ state.cells }) := by
  unfold Boundary.newObject
  split
  · have shift := Objects.shift_create tracks.census.cells (List.Perm.refl ([] ++ _))
      { size := Boundary.payloadRoom size, memory := .filled 0 } destructor
      state.machine.observer
    exact tracks.of_counted (Observer.records_emit _ _) rfl
      (tracks.census.of_cells shift rfl rfl) rfl rfl rfl rfl
  · exact tracks.of_pools (Pool.noted_self _) rfl rfl rfl rfl rfl

theorem step_retainCell (tracks : Tracks state history records) {id : ObjectId}
    {object : Object Block} (present : state.machine.cells.get? id = some object) :
    Continues state history records
      (.idle, { state with machine := (Boundary.retain (some id) state.machine).2,
                           cells := id :: state.cells }) := by
  have shift := Objects.shift_retain tracks.census.cells present state.machine.observer
  exact tracks.of_counted (Objects.records_retain present _) rfl
    (tracks.census.of_cells shift rfl rfl) rfl rfl rfl rfl

theorem step_releaseCell (tracks : Tracks state history records) {id : ObjectId}
    (held : id ∈ state.cells) :
    Continues state history records
      (.idle, { state with cells := state.cells.erase id }.first [.letGoCell id]) := by
  have moved : state.cellHandles.Perm
      (state.cells.erase id ++ (id :: state.tasks.filterMap Task.cellHandle?)) :=
    ((List.perm_cons_erase held).append_right _).trans List.perm_middle.symm
  exact tracks.aside (Observer.records_self _) nofun rfl rfl rfl rfl rfl (.refl _) moved
    fun _ listed => listed

/-! Registries -/

theorem step_addRegistry (tracks : Tracks state history records) :
    Continues state history records
      (.idle, { state with machine := state.machine.addRegistry.2 }) := by
  have same : ({ state with machine := state.machine.addRegistry.2 } : State).pending =
      state.pending := by
    simp [State.pending, Machine.addRegistry, Registry.length]
  refine tracks.of_entered (Observer.records_self _) (List.forall_mem_nil _) ?_ rfl rfl rfl rfl
    (.refl _) (.refl _) fun _ listed => .inl listed
  rw [Entered, same, List.append_nil]
  exact tracks.entered

theorem step_register (tracks : Tracks state history records) {registry : RegistryId}
    (present : registry < state.machine.registries.size) (entry : Registry.Entry) :
    Continues state history records
      (.idle, { state with machine := state.machine.register registry entry }) :=
  tracks.of_entered (Registry.records_register _ entry state.machine.observer)
    (List.forall_mem_singleton.mpr rfl) (tracks.entered.step_register present entry) rfl rfl rfl rfl
    (.refl _) (.refl _) fun _ listed => .inl listed

/-! Pools -/

theorem step_openPool (tracks : Tracks state history records) (capacity : Option Nat) :
    Continues state history records
      (.idle, { state with machine := (state.machine.openPool capacity).2 }) := by
  rcases made : Pool.make state.machine.session.system (state.machine.session.poolsOpened + 1)
      (if capacity.getD 0 = 0 then state.machine.session.poolCapacity else capacity.getD 0)
      state.machine.session.observer with ⟨failure | p, o⟩
  · have noted := made ▸ Pool.noted_make ..
    rw [Machine.openPool_of_make_error made]
    exact tracks.of_pools noted rfl rfl rfl rfl rfl
  · have noted := made ▸ Pool.noted_make ..
    rw [Machine.openPool_of_make_ok made]
    exact tracks.of_pools noted rfl rfl rfl rfl rfl

theorem step_carve (tracks : Tracks state history records) (pool size : Nat) :
    Continues state history records
      (.idle, { state with machine := (state.machine.poolAlloc pool size).2 }) := by
  rw [Machine.poolAlloc]
  cases found : state.machine.pool? pool with
  | none =>
      rw [Machine.onPool, found]
      exact tracks.stay
  | some p =>
      have noted := p.noted_alloc state.machine.session.system size state.machine.observer
      rcases Machine.onPool_cases found (.ok default) fun pool o =>
          pool.alloc state.machine.session.system size o with
        ⟨failure, o, carved, answer⟩ | ⟨handle, p', o, carved, answer⟩
      · rw [carved] at noted
        rw [answer]
        exact tracks.of_pools noted rfl rfl rfl rfl rfl
      · rw [carved] at noted
        rw [answer]
        exact tracks.of_pools noted rfl rfl rfl rfl rfl

theorem step_resetPool (tracks : Tracks state history records) (pool : Nat) :
    Continues state history records
      (.idle, { state with machine := state.machine.resetPool pool }) := by
  unfold Machine.resetPool
  cases state.machine.pool? pool with
  | none => exact tracks.stay
  | some p => exact tracks.of_pools (Pool.noted_emit _ _ rfl) rfl rfl rfl rfl rfl

theorem step_closePool (tracks : Tracks state history records) (pool : Nat) :
    Continues state history records
      (.idle, { state with machine := state.machine.closePool pool }) := by
  unfold Machine.closePool
  cases state.machine.pool? pool with
  | none => exact tracks.stay
  | some p => exact tracks.of_pools (p.noted_close _) rfl rfl rfl rfl rfl

/-! Commands -/

theorem step_record (tracks : Tracks state history records) {record : Lifecycle.Event}
    (foreign : ¬ Counts record) :
    Continues state history records (.idle, { state with
      machine := state.machine.observe (state.machine.observer.emit record) }) :=
  tracks.aside (Observer.records_emit _ _) (List.forall_mem_singleton.mpr foreign) rfl rfl rfl rfl
    rfl (.refl _) (.refl _) fun _ listed => listed

theorem step_perform (tracks : Tracks state history records) (command : Command) :
    Continues state history records (perform state command) := by
  cases command with
  | openScope heap =>
      exact tracks.of_scopes (Observer.records_emit _ _) rfl (tracks.scopes.step_open heap) rfl rfl
        rfl
  | alloc scope size =>
      refine tracks.step_onScope fun s found => ?_
      obtain rfl := Machine.id_of_scope? found
      exact tracks.step_allocation found (by decide) (s.scope.noted_alloc _ size _) _
  | allocZeroed scope count size =>
      refine tracks.step_onScope fun s found => ?_
      obtain rfl := Machine.id_of_scope? found
      exact tracks.step_allocation found (by decide) (s.scope.noted_allocZeroed _ count size _) _
  | adopt scope block =>
      refine tracks.step_onScope fun s found => ?_
      obtain rfl := Machine.id_of_scope? found
      exact tracks.step_adoption found block
  | closeScope scope =>
      refine tracks.step_onScope fun s found => ?_
      obtain rfl := Machine.id_of_scope? found
      exact tracks.step_closing found
  | share payload destructor children =>
      exact tracks.step_ifHeld fun taken => tracks.step_share payload destructor taken
  | retain id =>
      refine tracks.step_ifHeld fun present => ?_
      obtain ⟨object, present⟩ := Option.isSome_iff_exists.mp present
      exact tracks.step_retain present
  | release id => exact tracks.step_ifHeld tracks.step_release
  | refill id children => exact tracks.step_refill id children
  | keep id => exact tracks.step_ifHeld tracks.step_keep
  | newCell size destructor => exact tracks.step_newCell size destructor
  | retainCell id =>
      refine tracks.step_ifHeld fun present => ?_
      obtain ⟨object, present⟩ := Option.isSome_iff_exists.mp present
      exact tracks.step_retainCell present
  | releaseCell id => exact tracks.step_ifHeld tracks.step_releaseCell
  | addRegistry => exact tracks.step_addRegistry
  | register registry entry =>
      exact tracks.step_ifHeld fun present => tracks.step_register present entry
  | cleanUp registry =>
      exact tracks.step_ifHeld fun _ => tracks.aside (Observer.records_self _) nofun rfl rfl rfl
        rfl rfl (.refl _) (.refl _) fun _ listed => listed
  | openPool capacity => exact tracks.step_openPool capacity
  | carve pool size => exact tracks.step_carve pool size
  | resetPool pool => exact tracks.step_resetPool pool
  | closePool pool => exact tracks.step_closePool pool
  | setPoolCapacity capacity => exact tracks.of_pools (Pool.noted_self _) rfl rfl rfl rfl rfl
  | setSystem system => exact tracks.of_pools (Pool.noted_self _) rfl rfl rfl rfl rfl
  | setHeap id heap => exact tracks.of_pools (Pool.noted_self _) rfl rfl rfl rfl rfl
  | record record => exact tracks.step_ifHeld tracks.step_record

end Tracks

end Underlay.Trail
