import Underlay.Proofs.Pools.Step

/-!
# Blocks of pools do not touch each other

`Holds` compares an open pool with the history: its memory is what was written to it, its buffer
was never written to behind its end, current handles lie in the used part, no two of them overlap,
and what a holder was promised is what the memory holds. Carving keeps all of this for the history
as it was, also when the buffer moves, so that only the new handle has to be looked at. Events
about other pools change nothing (`Holds.frame`), which carries the invariant to any number of
pools.
-/

namespace Underlay.Pools

/-! Events about other pools. -/

section Frame

variable {event : Event} {handle : Handle} {pool : Nat}

theorem isCurrent_cons_of_ne (about : event.pool? ≠ some handle.pool) (past : List Event) :
    isCurrent handle (event :: past) = isCurrent handle past := by
  cases event with
  | issued other =>
      have distinct : other ≠ handle := by
        rintro rfl
        exact about rfl
      simp [isCurrent, distinct]
  | reset pool | closed pool =>
      have distinct : pool ≠ handle.pool := fun same => about (congrArg some same)
      simp [isCurrent, distinct]
  | _ => rfl

theorem written_cons_of_ne (about : event.pool? ≠ some pool) (past : List Event) :
    written pool (event :: past) = written pool past := by
  cases event with
  | opened other | written other start bytes =>
      exact if_neg fun same => about (congrArg some same)
  | _ => rfl

theorem content_cons_of_ne (about : event.pool? ≠ some handle.pool) (past : List Event) :
    content handle (event :: past) = content handle past := by
  cases event with
  | issued other | written other start bytes =>
      refine if_neg ?_
      rintro rfl
      exact about rfl
  | _ => rfl

end Frame

/-- No byte belongs to both blocks. An empty block may stand where another begins. -/
def Apart (handle other : Handle) : Prop :=
  handle.offset + handle.length ≤ other.offset ∨ other.offset + other.length ≤ handle.offset

structure Holds (p : Pool) (history : List Event) : Prop where
  room : p.used ≤ p.capacity
  memory : ∀ i < p.capacity, p.memory i = written p.id history i
  /-- Growth has to find zeros behind the buffer. -/
  beyond : ∀ i, p.capacity ≤ i → written p.id history i = 0
  honoured : ∀ handle, handle.pool = p.id → isCurrent handle history → p.check handle = .ok ()
  /-- Epochs tell the current handles from those that were forgotten. -/
  epochs : ∀ handle, handle.pool = p.id → .issued handle ∈ history →
    handle.epoch ≤ p.epoch ∧ (handle.epoch = p.epoch → isCurrent handle history)
  apart : ∀ handle other, handle.pool = p.id → other.pool = p.id →
    isCurrent handle history → isCurrent other history → handle ≠ other → Apart handle other
  promised : ∀ handle, handle.pool = p.id → isCurrent handle history →
    ∀ i, handle.offset ≤ i → i < handle.offset + handle.length →
      content handle history i = written p.id history i

namespace Holds

variable {p p' : Pool} {history : List Event} {event : Event} {handle : Handle}

theorem frame (holds : Holds p history) (about : event.pool? ≠ some p.id) :
    Holds p (event :: history) := by
  have current {handle : Handle} (owner : handle.pool = p.id) :
      isCurrent handle (event :: history) = isCurrent handle history :=
    isCurrent_cons_of_ne (by rwa [owner]) history
  refine ⟨holds.room, ?_, ?_, ?_, ?_, ?_, ?_⟩
  · rw [written_cons_of_ne about]
    exact holds.memory
  · rw [written_cons_of_ne about]
    exact holds.beyond
  · intro handle owner
    rw [current owner]
    exact holds.honoured handle owner
  · intro handle owner issued
    rw [current owner]
    refine holds.epochs handle owner ?_
    rcases List.mem_cons.mp issued with rfl | earlier
    · exact absurd (congrArg some owner) about
    · exact earlier
  · intro handle other owner owner'
    rw [current owner, current owner']
    exact holds.apart handle other owner owner'
  · intro handle owner
    rw [current owner, written_cons_of_ne about, content_cons_of_ne (by rwa [owner])]
    exact holds.promised handle owner

/-- Carving keeps what the pool holds, though the buffer may have moved and grown. -/
theorem carve {size : Nat} (holds : Holds p history) (carved : p.Carved size p') :
    Holds p' history := by
  have used : p.used ≤ p'.used := by
    rw [carved.used]
    exact Nat.le_add_right _ _
  refine ⟨carved.room, ?_, ?_, ?_, ?_, ?_, ?_⟩
  · intro i inside
    rw [carved.id]
    by_cases old : i < p.capacity
    · rw [carved.kept i old]
      exact holds.memory i old
    · have behind : p.capacity ≤ i := Nat.le_of_not_lt old
      rw [carved.zero i behind inside, holds.beyond i behind]
  · intro i behind
    rw [carved.id]
    exact holds.beyond i (Nat.le_trans carved.grown behind)
  · intro handle owner current
    obtain ⟨-, epoch, inside⟩ :=
      Pool.check_eq_ok.mp (holds.honoured handle (owner.trans carved.id) current)
    exact Pool.check_eq_ok.mpr ⟨owner, epoch.trans carved.epoch.symm, Nat.le_trans inside used⟩
  · rw [carved.id, carved.epoch]
    exact holds.epochs
  · rw [carved.id]
    exact holds.apart
  · rw [carved.id]
    exact holds.promised

/-- A handle may be issued for an honoured block behind all current ones. -/
theorem issue (holds : Holds p history) (honoured : p.check handle = .ok ())
    (behind : ∀ other, other.pool = p.id → isCurrent other history →
      other.offset + other.length ≤ handle.offset) :
    Holds p (.issued handle :: history) := by
  have current (other : Handle) :
      isCurrent other (.issued handle :: history) ↔ handle = other ∨ isCurrent other history := by
    simp [isCurrent]
  refine ⟨holds.room, holds.memory, holds.beyond, ?_, ?_, ?_, ?_⟩
  · intro other owner now
    rcases (current other).mp now with rfl | earlier
    · exact honoured
    · exact holds.honoured other owner earlier
  · intro other owner issued
    rcases List.mem_cons.mp issued with new | earlier
    · obtain rfl : other = handle := by simpa using new
      have epoch := (Pool.check_eq_ok.mp honoured).2.1
      exact ⟨Nat.le_of_eq epoch, fun _ => (current other).mpr (.inl rfl)⟩
    · obtain ⟨bound, same⟩ := holds.epochs other owner earlier
      exact ⟨bound, fun epoch => (current other).mpr (.inr (same epoch))⟩
  · intro one other owner owner' now now' distinct
    rcases (current one).mp now with rfl | earlier
    · rcases (current other).mp now' with rfl | earlier'
      · exact absurd rfl distinct
      · exact .inr (behind other owner' earlier')
    · rcases (current other).mp now' with rfl | earlier'
      · exact .inl (behind one owner earlier)
      · exact holds.apart one other owner owner' earlier earlier' distinct
  · intro other owner now i start inside
    change (if handle = other then written other.pool history else content other history) i =
      written p.id history i
    split
    · rw [owner]
    · rename_i distinct
      have earlier := ((current other).mp now).resolve_left distinct
      exact holds.promised other owner earlier i start inside

/-- A write through a handle reaches the bytes of that handle and no others. -/
theorem write (holds : Holds p history) {start : Nat} {bytes : List UInt8}
    (issued : .issued handle ∈ history) (honoured : p.check handle = .ok ())
    (fitting : bytes.length ≤ handle.length - start) :
    Holds { p with memory := p.memory.write (handle.offset + start) bytes.toArray }
      (.written handle start bytes :: history) := by
  obtain ⟨owner, epoch, inside⟩ := Pool.check_eq_ok.mp honoured
  have now : isCurrent handle history = true := (holds.epochs handle owner issued).2 epoch
  have laid : written p.id (.written handle start bytes :: history) =
      (written p.id history).write (handle.offset + start) bytes.toArray :=
    if_pos owner
  have room := holds.room
  refine ⟨room, ?_, ?_, holds.honoured, ?_, holds.apart, ?_⟩
  · intro i below
    rw [laid]
    exact Memory.write_apply_congr (holds.memory i below) _ _
  · intro i behind
    have behind : p.capacity ≤ i := behind
    have outside : i < handle.offset + start ∨ handle.offset + start + bytes.length ≤ i := by
      omega
    rw [laid, Memory.write_apply_outside outside]
    exact holds.beyond i behind
  · intro other owner' issued'
    exact holds.epochs other owner' (by simpa using issued')
  · intro other owner' now' i first last
    rw [laid]
    by_cases same : handle = other
    · subst same
      have promised := holds.promised handle owner now i first last
      simpa [content] using Memory.write_apply_congr promised _ bytes.toArray
    · have outside : i < handle.offset + start ∨ handle.offset + start + bytes.length ≤ i := by
        rcases holds.apart handle other owner owner' now now' same with before | behind <;> omega
      have untouched : (written p.id history).write (handle.offset + start) bytes.toArray i =
          written p.id history i :=
        Memory.write_apply_outside outside
      have promised := holds.promised other owner' now' i first last
      simpa [content, same, untouched] using promised

theorem reset (holds : Holds p history) :
    Holds { p with used := 0, allocations := 0, epoch := p.epoch + 1 }
      (.reset p.id :: history) := by
  have forgotten {handle : Handle} (owner : handle.pool = p.id) :
      isCurrent handle (.reset p.id :: history) = false := by
    simp [isCurrent, owner]
  refine ⟨Nat.zero_le _, holds.memory, holds.beyond, ?_, ?_, ?_, ?_⟩
  · intro handle owner now
    simp [forgotten owner] at now
  · intro handle owner issued
    have bound := (holds.epochs handle owner (by simpa using issued)).1
    refine ⟨Nat.le_succ_of_le bound, fun epoch => ?_⟩
    have epoch : handle.epoch = p.epoch + 1 := epoch
    omega
  · intro handle other owner owner' now
    simp [forgotten owner] at now
  · intro handle owner now
    simp [forgotten owner] at now

theorem opened (empty : p.used = 0) (zero : ∀ i < p.capacity, p.memory i = 0)
    (unused : ∀ event ∈ history, event.pool? ≠ some p.id)
    (unborn : ∀ handle, handle.pool = p.id → isCurrent handle history = false) :
    Holds p (.opened p.id :: history) := by
  have blank : written p.id (.opened p.id :: history) = .filled 0 := if_pos rfl
  refine ⟨?_, ?_, ?_, ?_, ?_, ?_, ?_⟩
  · rw [empty]
    exact Nat.zero_le _
  · rw [blank]
    exact zero
  · rw [blank]
    exact fun _ _ => rfl
  · intro handle owner now
    exact absurd now (by simp [isCurrent, unborn handle owner])
  · intro handle owner issued
    have earlier : .issued handle ∈ history := by simpa using issued
    exact absurd (congrArg some owner) (unused _ earlier)
  · intro handle other owner owner' now
    exact absurd now (by simp [isCurrent, unborn handle owner])
  · intro handle owner now
    exact absurd now (by simp [isCurrent, unborn handle owner])

end Holds

/-- What the history says about a pool that may be closed. -/
def Agrees (pool : Nat) (history : List Event) : Option Pool → Prop
  | none => ∀ handle, handle.pool = pool → isCurrent handle history = false
  | some p => p.id = pool ∧ Holds p history

theorem Agrees.frame {pool : Nat} {history : List Event} {state : Option Pool} {event : Event}
    (agrees : Agrees pool history state) (about : event.pool? ≠ some pool) :
    Agrees pool (event :: history) state := by
  cases state with
  | none =>
      intro handle owner
      rw [isCurrent_cons_of_ne (by rwa [owner])]
      exact agrees handle owner
  | some p =>
      obtain ⟨rfl, holds⟩ := agrees
      exact ⟨rfl, holds.frame about⟩

theorem Agrees.change {p : Pool} {history : List Event} {event : Event} {p' : Option Pool}
    (holds : Holds p history) (change : Change history p event p') :
    Agrees p.id (event :: history) p' := by
  cases change with
  | issued carved =>
      refine ⟨carved.id, (holds.carve carved).issue ?_ ?_⟩
      · refine Pool.check_eq_ok.mpr ⟨carved.id.symm, carved.epoch.symm, ?_⟩
        rw [carved.used]
        exact Nat.add_le_add_left (Word.le_roundUp _ (by decide)) p.used
      · intro other owner now
        exact (Pool.check_eq_ok.mp (holds.honoured other (owner.trans carved.id) now)).2.2
  | carved carved =>
      have kept := holds.carve carved
      exact ⟨carved.id, kept.room, kept.memory, kept.beyond, kept.honoured,
        fun handle owner issued => kept.epochs handle owner (by simpa using issued),
        kept.apart, kept.promised⟩
  | written issued honoured fitting => exact ⟨rfl, holds.write issued honoured fitting⟩
  | reset => exact ⟨rfl, holds.reset⟩
  | closed =>
      intro handle owner
      simp [isCurrent, owner]

/-- The open pools of a machine hold what the history says, and the numbers of pools to come are
in neither. -/
structure Tracks (run : Run Machine Event) : Prop where
  unused : ∀ pool, run.state.session.poolsOpened < pool →
    run.state.pool? pool = none ∧ ∀ event ∈ run.history, event.pool? ≠ some pool
  agrees : ∀ pool, Agrees pool run.history (run.state.pool? pool)

namespace Tracks

variable {before after : Machine} {history : List Event} {event : Event}

theorem step_quiet (tracks : Tracks { state := before, history }) (about : event.pool? = none)
    (pools : after.pool? = before.pool?)
    (counter : after.session.poolsOpened = before.session.poolsOpened) :
    Tracks { state := after, history := event :: history } := by
  refine ⟨?_, ?_⟩
  · intro pool above
    simp only [counter] at above
    obtain ⟨absent, unheard⟩ := tracks.unused pool above
    simp only [pools, List.forall_mem_cons, about]
    exact ⟨absent, by simp, unheard⟩
  · intro pool
    simp only [pools]
    exact (tracks.agrees pool).frame (by simp [about])

theorem step_opened (tracks : Tracks { state := before, history }) (p : Pool)
    (number : p.id = before.session.poolsOpened + 1) (empty : p.used = 0)
    (zero : ∀ i < p.capacity, p.memory i = 0)
    (pools : ∀ id, after.pool? id = (before.pool? id).or (if p.id = id then some p else none))
    (counter : after.session.poolsOpened = p.id) :
    Tracks { state := after, history := .opened p.id :: history } := by
  refine ⟨?_, ?_⟩
  · intro pool above
    simp only [counter] at above
    obtain ⟨absent, unheard⟩ := tracks.unused pool (by simp only; omega)
    have distinct : p.id ≠ pool := Nat.ne_of_lt above
    simp only [pools, absent, List.forall_mem_cons]
    exact ⟨by simp [distinct], by simp [Event.pool?, distinct], unheard⟩
  · intro pool
    by_cases same : p.id = pool
    · subst same
      obtain ⟨absent, unheard⟩ := tracks.unused p.id (by simp only; omega)
      have unborn := tracks.agrees p.id
      have found : after.pool? p.id = some p := by
        simp only [pools, absent, if_true, Option.none_or]
      simp only [absent] at unborn
      simp only [found]
      exact ⟨rfl, Holds.opened empty zero unheard unborn⟩
    · have kept : after.pool? pool = before.pool? pool := by
        rw [pools, if_neg same, Option.or_none]
      simp only [kept]
      exact (tracks.agrees pool).frame (by simpa [Event.pool?] using same)

theorem step_changed (tracks : Tracks { state := before, history }) {id : Nat} {p : Pool}
    {p' : Option Pool} (about : event.pool? = some id) (found : before.pool? id = some p)
    (change : Change history p event p') (pools : after.pool? = Function.update before.pool? id p')
    (counter : after.session.poolsOpened = before.session.poolsOpened) :
    Tracks { state := after, history := event :: history } := by
  obtain ⟨rfl, holds⟩ : Agrees id history (some p) := found ▸ tracks.agrees id
  refine ⟨?_, ?_⟩
  · intro pool above
    simp only [counter] at above
    obtain ⟨absent, unheard⟩ := tracks.unused pool above
    have distinct : pool ≠ p.id := by
      rintro rfl
      simp [found] at absent
    simp only [pools, Function.update_of_ne distinct, List.forall_mem_cons, about]
    exact ⟨absent, by simp [distinct.symm], unheard⟩
  · intro pool
    simp only [pools]
    by_cases same : pool = p.id
    · subst same
      rw [Function.update_self]
      exact Agrees.change holds change
    · rw [Function.update_of_ne same]
      exact (tracks.agrees pool).frame (by simp [about, Ne.symm same])

theorem step (tracks : Tracks { state := before, history })
    (taken : Step before history event after) :
    Tracks { state := after, history := event :: history } := by
  cases taken with
  | quiet about pools counter => exact tracks.step_quiet about pools counter
  | opened p number empty zero pools counter =>
      exact tracks.step_opened p number empty zero pools counter
  | changed about found change pools counter =>
      exact tracks.step_changed about found change pools counter

end Tracks

theorem tracks_run {machine : Machine} (idle : machine.pools = []) (commands : List Command) :
    Tracks (run machine commands) := by
  refine Run.steps_induction perform ?_ ?_ commands
  · intro run command tracks
    exact tracks.step (step_perform run command)
  · have absent (pool : Nat) : machine.pool? pool = none := by
      rw [Machine.pool?, idle]
      rfl
    refine ⟨fun pool above => ⟨absent pool, by simp⟩, fun pool => ?_⟩
    simp only [absent]
    exact fun handle owner => rfl

section Promise

variable {run : Run Machine Event} {handle : Handle}

theorem Tracks.holds (tracks : Tracks run) (current : isCurrent handle run.history = true) :
    ∃ p, run.state.pool? handle.pool = some p ∧ p.id = handle.pool ∧ Holds p run.history := by
  have agrees := tracks.agrees handle.pool
  cases found : run.state.pool? handle.pool with
  | none =>
      rw [found] at agrees
      simp [agrees handle rfl] at current
  | some p =>
      rw [found] at agrees
      exact ⟨p, rfl, agrees⟩

theorem Tracks.poolBytes (tracks : Tracks run) (current : isCurrent handle run.history = true) :
    (run.state.poolBytes handle.pool handle).1 =
      .ok ((content handle run.history).read handle.offset handle.length) := by
  obtain ⟨p, found, owner, holds⟩ := tracks.holds current
  have honoured := holds.honoured handle owner.symm current
  have same : p.memory.read handle.offset handle.length =
      (content handle run.history).read handle.offset handle.length := by
    apply Memory.read_congr
    intro i first last
    have inside := (Pool.check_eq_ok.mp honoured).2.2
    have room := holds.room
    rw [holds.memory i (by omega), holds.promised handle owner.symm current i first last]
  simp [Machine.poolBytes, Machine.onPool, found, Pool.bytes, honoured, Except.map, same]

theorem isCurrent_cons {event : Event} {past : List Event}
    (current : isCurrent handle past = true) (undisturbed : disturbs handle event = false) :
    isCurrent handle (event :: past) = true := by
  cases event <;> simp_all [isCurrent, disturbs]

/-- A handle that is issued again has no bytes that the second issue could change. -/
theorem Tracks.content_cons (tracks : Tracks run) (current : isCurrent handle run.history = true)
    {event : Event} (undisturbed : disturbs handle event = false) {i : Nat}
    (first : handle.offset ≤ i) (last : i < handle.offset + handle.length) :
    content handle (event :: run.history) i = content handle run.history i := by
  cases event with
  | issued other =>
      obtain ⟨p, -, owner, holds⟩ := tracks.holds current
      have promised := holds.promised handle owner.symm current i first last
      simp only [content]
      split
      · rw [promised, owner]
      · rfl
  | written other start bytes =>
      have distinct : other ≠ handle := by simpa [disturbs] using undisturbed
      rw [content, if_neg distinct]
  | _ => rfl

theorem Tracks.read_content_steps {commands : List Command} (tracks : Tracks run)
    (current : isCurrent handle run.history = true)
    (undisturbed : ∀ event ∈ run.events perform commands, disturbs handle event = false) :
    let after := run.steps perform commands
    isCurrent handle after.history = true ∧
      (content handle after.history).read handle.offset handle.length =
        (content handle run.history).read handle.offset handle.length := by
  induction commands generalizing run with
  | nil => exact ⟨current, rfl⟩
  | cons command commands inductionHypothesis =>
      simp only [Run.events, List.mem_append, List.mem_singleton] at undisturbed
      have quiet := undisturbed (perform run command).1 (.inr rfl)
      obtain ⟨stays, same⟩ := inductionHypothesis (tracks.step (step_perform run command))
        (isCurrent_cons current quiet) (fun event later => undisturbed event (.inl later))
      refine ⟨stays, same.trans ?_⟩
      apply Memory.read_congr
      intro i first last
      exact tracks.content_cons current quiet first last

end Promise

/-- A handle that was issued by a pool which was neither reset nor closed since gives exactly its
own bytes: what was last written through it, over what its place held when it was carved. They
stay the same until the pool is reset or closed or something is written through this handle. -/
theorem poolBytes_of_run (machine : Machine) (idle : machine.pools = []) (commands : List Command)
    (handle : Handle) (current : isCurrent handle (run machine commands).history = true) :
    let ran := run machine commands
    (∃ bytes, (ran.state.poolBytes handle.pool handle).1 = .ok bytes ∧
      bytes.length = handle.length ∧
      bytes = (content handle ran.history).read handle.offset handle.length) ∧
    ∀ later, (∀ event ∈ ran.events perform later, disturbs handle event = false) →
      ((ran.steps perform later).state.poolBytes handle.pool handle).1 =
        (ran.state.poolBytes handle.pool handle).1 := by
  intro ran
  have tracks : Tracks ran := tracks_run idle commands
  refine ⟨⟨_, tracks.poolBytes current, Memory.length_read _ _ _, rfl⟩, ?_⟩
  intro later undisturbed
  obtain ⟨stays, same⟩ := tracks.read_content_steps current undisturbed
  have after : Tracks (ran.steps perform later) := by
    have whole := tracks_run idle (commands ++ later)
    rwa [run, Run.steps_append] at whole
  rw [after.poolBytes stays, tracks.poolBytes current, same]

/-- A block takes the place of a forgotten one, beside an empty block and below one that made the
buffer grow. A carving fails in between, a forgotten handle is tried, and another pool comes and
goes. -/
theorem poolBytes_of_run_reused_place :
    let handle (offset length epoch : Nat) : Handle := { pool := 1, offset, length, epoch }
    let commands : List Command :=
      [.openPool (some 16), .openPool (some 8), .alloc 1 5,
        .write 1 (handle 0 5 0) 0 [1, 2, 3, 4, 5], .reset 1, .alloc 1 0, .alloc 1 5,
        .write 1 (handle 0 5 1) 1 [9, 9]]
    let later : List Command :=
      [.setSystem { grants := fun _ => false }, .alloc 1 100, .setSystem {}, .alloc 1 100,
        .fill 1 (handle 8 100 1) 7, .write 1 (handle 0 5 0) 0 [6], .alloc 1 0, .allocRaw 2 8,
        .close 2, .alloc 2 8]
    let before := run {} commands
    ({} : Machine).pools = [] ∧ isCurrent (handle 0 5 1) before.history = true ∧
      (∀ event ∈ before.events perform later, disturbs (handle 0 5 1) event = false) ∧
      ((before.steps perform later).state.poolBytes 1 (handle 0 5 1)).1 =
        .ok [1, 9, 9, 4, 5] := by
  intro handle commands later before
  have current : isCurrent (handle 0 5 1) before.history = true := by decide +kernel
  have undisturbed : ∀ event ∈ before.events perform later,
      disturbs (handle 0 5 1) event = false := by decide +kernel
  refine ⟨rfl, current, undisturbed, ?_⟩
  obtain ⟨⟨bytes, answered, -, rfl⟩, stable⟩ :=
    poolBytes_of_run {} rfl commands (handle 0 5 1) current
  rw [stable later undisturbed, answered]
  exact congrArg Except.ok (by decide +kernel)

end Underlay.Pools
