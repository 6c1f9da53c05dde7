import Underlay.Proofs.Failures.Agreement.Containers
import Underlay.Proofs.Failures.Agreement.Pools
import Underlay.Proofs.Failures.Raising
import Underlay.Proofs.Failures.Run
import Underlay.Proofs.Failures.Truncation

/-!
# The slot holds the last failure

An operation that succeeds leaves the slot alone, and one that fails puts there what it answers,
once; only the message is cut, to the longest beginning that there is room for. From one command it
follows for any run that the slot is told by the history alone. An operation without room for what
it reserves does neither: it ends the program.
-/

namespace Underlay

/-- A slot with a failure in it, whose message is kept as far as there is room. -/
structure Stores (kind : Kind) (text : String) (place : Option Location) (slot : Slot) : Prop where
  code : slot.code = kind
  message : Keeps text slot.message
  location : slot.location = place

theorem stores_set (kind : Kind) (text : String) (place : Option Location) :
    Stores kind text place (.set kind text place) where
  code := rfl
  message := keeps_trim text
  location := rfl

theorem Stores.eq_set {kind : Kind} {text : String} {place : Option Location} {slot : Slot}
    (stores : Stores kind text place slot) : slot = .set kind text place := by
  obtain ⟨rfl, message, rfl⟩ := stores
  rw [Slot.set, ← message.eq_trim]

namespace Failures

variable {ε κ υ α : Type}

/-! Every operation ends where there is room for what it reserves, and nowhere else. -/

section Ends

open Routine

/-- An operation that comes to an answer if it can reserve so many bytes, and that ends the program
if it cannot. -/
def Routine.Reserves (routine : Routine ε α) (bytes : Nat) (scene : Scene ε) : Prop :=
  ∃ answer, routine.run scene = scene.machine.reserving bytes answer

variable {site : Site} {routine : Routine ε α} {bytes : Nat} {scene : Scene ε}

theorem Routine.Reserves.discard (reserves : routine.Reserves bytes scene) :
    (discard routine).Reserves bytes scene := by
  obtain ⟨⟨result, after⟩, ran⟩ := reserves
  refine ⟨(result.map fun _ => (), after), ?_⟩
  change (routine >>= fun _ => pure ()).run scene = _
  rw [run_bind, ran]
  cases reserved : scene.machine.session.system.reserves bytes with
  | false => simp [Machine.reserving, System.reserving, reserved]
  | true => cases result <;> simp [Machine.reserving, System.reserving, reserved, Except.map]

theorem Routine.Performs.reserves {room : Machine → Nat}
    {call : Machine → Except Failure α × Machine} (performs : routine.Performs site room call)
    (scene : Scene ε) : routine.Reserves (room scene.machine) scene :=
  ⟨_, performs scene⟩

theorem Routine.PerformsOnBytes.reserves {routine : Routine ε Unit}
    {request : List UInt8 → Except Failure (List UInt8)}
    (performs : PerformsOnBytes site routine request) (scene : Scene ε) :
    routine.Reserves 0 scene :=
  ⟨_, performs scene⟩

/-- A pool that is looked at answers or objects. -/
theorem reserves_onPool_check {pool : Nat} {handle : Handle} {absent : α}
    {look : Unit → Routine ε α} (looks : ∀ scene, ∃ a, (look ()).run scene = .reached a) :
    (onPool pool absent (check site pool handle >>= look)).Reserves 0 scene := by
  unfold Routine.Reserves onPool
  rw [run_view_bind]
  cases found : scene.machine.pool? pool with
  | none => exact ⟨_, rfl⟩
  | some p =>
      dsimp only
      rw [run_check_bind site pool found]
      cases p.check handle with
      | error failure => exact ⟨_, rfl⟩
      | ok => exact looks scene

theorem Operation.reserves (site : Site) (operation : Operation ε κ υ) (scene : Scene ε) :
    (operation.routine site).Reserves (operation.room scene.machine) scene := by
  cases operation with
  | resolveIndex index length =>
      exact ((performs_resolveIndex site index length).reserves scene).discard
  | resolveSlice spec length =>
      exact ((performs_resolveSlice site spec length).reserves scene).discard
  | progression start stop step =>
      exact ((performs_progression site start stop step).reserves scene).discard
  | element s index => exact ((performs_element site s index).reserves scene).discard
  | lookup m key => exact ((performs_lookup site m key).reserves scene).discard
  | slice s spec => exact ((performs_slice site s spec).reserves scene).discard
  | malloc heap size => exact ((performs_malloc site heap size).reserves scene).discard
  | calloc heap count size => exact ((performs_calloc site heap count size).reserves scene).discard
  | realloc heap old size => exact ((performs_realloc site heap old size).reserves scene).discard
  | copyText text => exact ((performs_copyText site text).reserves scene).discard
  | copyTerminated text => exact ((performs_copyTerminated site text).reserves scene).discard
  | copy src => exact (performs_copy site src).reserves scene
  | move src dest count => exact (performs_move site src dest count).reserves scene
  | fill byte count => exact (performs_fill site byte count).reserves scene
  | copyRegion dest src destSize srcSize overlapping =>
      exact (performs_copyRaw site dest src.isSome destSize srcSize overlapping _).reserves scene
  | moveRegion src dest count destSize =>
      exact (performs_copyRaw site true true destSize count true _).reserves scene
  | fillRegion dest destSize byte count =>
      exact (performs_fillRegion site dest destSize byte count).reserves scene
  | scopeAlloc scope size => exact ((performs_scopeAlloc site scope size).reserves scene).discard
  | scopeAllocZeroed scope count size =>
      exact ((performs_scopeAllocZeroed site scope count size).reserves scene).discard
  | scopeRegister scope block => exact (performs_scopeRegister site scope block).reserves scene
  | openPool capacity => exact ((performs_openPool site capacity).reserves scene).discard
  | poolAlloc pool size => exact ((performs_poolAlloc site pool size).reserves scene).discard
  | poolAllocRaw pool size => exact ((performs_poolAllocRaw site pool size).reserves scene).discard
  | poolBytes pool handle => exact (reserves_onPool_check fun _ => ⟨_, rfl⟩).discard
  | poolWrite pool handle start bytes =>
      exact (performs_poolWrite site pool handle start bytes).reserves scene
  | poolFill pool handle byte => exact (performs_poolFill site pool handle byte).reserves scene
  | poolAddress pool handle => exact (reserves_onPool_check fun _ => ⟨_, rfl⟩).discard

end Ends

theorem Operation.reports (site : Site) (operation : Operation ε κ υ) :
    (operation.routine site : Routine ε Unit).Reports site := by
  cases operation with
  | resolveIndex index length => exact (Routine.reports_resolveIndex site index length).discard
  | resolveSlice spec length => exact (Routine.reports_resolveSlice site spec length).discard
  | progression start stop step =>
      exact (Routine.reports_progression site start stop step).discard
  | element s index => exact (Routine.reports_element site s index).discard
  | lookup m key => exact (Routine.reports_lookup site m key).discard
  | slice s spec => exact (Routine.reports_slice site s spec).discard
  | malloc heap size => exact (Routine.reports_malloc site heap size).discard
  | calloc heap count size => exact (Routine.reports_calloc site heap count size).discard
  | realloc heap old size => exact (Routine.reports_realloc site heap old size).discard
  | copyText text => exact (Routine.reports_copyText site text).discard
  | copyTerminated text => exact (Routine.reports_copyTerminated site text).discard
  | copy src => exact Routine.reports_copy site src
  | move src dest count => exact Routine.reports_move site src dest count
  | fill byte count => exact Routine.reports_fill site byte count
  | copyRegion dest src destSize srcSize overlapping =>
      exact Routine.reports_copyRaw site dest src.isSome destSize srcSize overlapping _
  | moveRegion src dest count destSize =>
      exact Routine.reports_copyRaw site true true destSize count true _
  | fillRegion dest destSize byte count =>
      exact Routine.reports_fillRegion site dest destSize byte count
  | scopeAlloc scope size => exact (Routine.reports_scopeAlloc site scope size).discard
  | scopeAllocZeroed scope count size =>
      exact (Routine.reports_scopeAllocZeroed site scope count size).discard
  | scopeRegister scope block => exact Routine.reports_scopeRegister site scope block
  | openPool capacity => exact (Routine.reports_openPool site capacity).discard
  | poolAlloc pool size => exact (Routine.reports_poolAlloc site pool size).discard
  | poolAllocRaw pool size => exact (Routine.reports_poolAllocRaw site pool size).discard
  | poolBytes pool handle => exact (Routine.reports_poolBytes site pool handle).discard
  | poolWrite pool handle start bytes =>
      exact Routine.reports_poolWrite site pool handle start bytes
  | poolFill pool handle byte => exact Routine.reports_poolFill site pool handle byte
  | poolAddress pool handle => exact (Routine.reports_poolAddress site pool handle).discard

/-! Commands and runs. -/

/-- What a command that comes to its end does to the slot, and what is told to it. -/
inductive Follows (scene : Scene ε) : Command ε κ υ → Event → Scene ε → Prop where
  | succeeded (site : Site) (operation : Operation ε κ υ) {after : Scene ε}
      (slot : after.slot = scene.slot) (reported : after.reported = scene.reported) :
      Follows scene (.call site operation) (.ended (.ok ())) after
  | failed (site : Site) (operation : Operation ε κ υ) (failure : Failure) {after : Scene ε}
      (raised : failure.RaisedAt site)
      (stores : Stores failure.kind failure.message failure.location after.slot)
      (reported : after.reported = failure :: scene.reported) :
      Follows scene (.call site operation) (.ended (.error failure)) after
  | done (deed : Deed) {after : Scene ε} (slot : after.slot = scene.slot)
      (reported : after.reported = scene.reported) : Follows scene (.deed deed) .done after
  | set (kind : Kind) (text : String) (place : Option Location) {after : Scene ε}
      (stores : Stores kind text place after.slot) (reported : after.reported = scene.reported) :
      Follows scene (.setFailure kind text place) (.set kind text place) after
  | cleared {after : Scene ε} (slot : after.slot = {})
      (reported : after.reported = scene.reported) :
      Follows scene .clearFailure .cleared after

section Runs

variable {scene after : Scene ε} {command : Command ε κ υ} {event : Event}

theorem Deed.slot_act (deed : Deed) (scene : Scene ε) : (deed.act scene).slot = scene.slot := by
  cases deed with
  | free | openScope | setSystem | handOver => rfl
  | closeScope scope =>
      change (scene.machine.closeScope scope).slot = scene.machine.slot
      unfold Machine.closeScope
      cases scene.machine.scope? scope <;> rfl
  | resetPool pool =>
      change (scene.machine.resetPool pool).slot = scene.machine.slot
      unfold Machine.resetPool
      cases scene.machine.pool? pool <;> rfl
  | closePool pool =>
      change (scene.machine.closePool pool).slot = scene.machine.slot
      unfold Machine.closePool
      cases scene.machine.pool? pool <;> rfl

theorem Deed.reported_act (deed : Deed) (scene : Scene ε) :
    (deed.act scene).reported = scene.reported := by
  cases deed <;> rfl

theorem follows_perform (performed : perform scene command = .reached (event, after)) :
    Follows scene command event after := by
  cases command with
  | call site operation =>
      unfold perform at performed
      cases ran : (operation.routine site).run scene with
      | aborted => simp [ended, ran] at performed
      | reached answer =>
          have told := operation.reports site ran
          rcases answer with ⟨failure | ⟨⟩, after⟩
          · simp only [ended, ran, Course.reached.injEq, Prod.mk.injEq] at performed
            obtain ⟨rfl, rfl⟩ := performed
            obtain ⟨raised, slot, reported⟩ := told
            exact .failed site operation failure raised (slot ▸ stores_set _ _ _) reported
          · simp only [ended, ran, Course.reached.injEq, Prod.mk.injEq] at performed
            obtain ⟨rfl, rfl⟩ := performed
            exact .succeeded site operation told.1 told.2
  | deed deed =>
      obtain ⟨rfl, rfl⟩ := Prod.mk.inj (Course.reached.inj performed)
      exact .done deed (deed.slot_act scene) (deed.reported_act scene)
  | setFailure kind text place =>
      obtain ⟨rfl, rfl⟩ := Prod.mk.inj (Course.reached.inj performed)
      exact .set kind text place (stores_set kind text place) rfl
  | clearFailure =>
      obtain ⟨rfl, rfl⟩ := Prod.mk.inj (Course.reached.inj performed)
      exact .cleared rfl rfl

/-- What a command does to the slot is what its event says to a history. -/
theorem Follows.slot_eq_pending (follows : Follows scene command event after) {start : Slot}
    {history : List Event} (slot : scene.slot = pending start history) :
    after.slot = pending start (event :: history) := by
  cases follows with
  | succeeded _ _ same => exact same.trans slot
  | done _ same => exact same.trans slot
  | failed _ _ _ _ stores => exact stores.eq_set
  | set _ _ _ stores => exact stores.eq_set
  | cleared empty => exact empty

theorem Follows.reported_eq (follows : Follows scene command event after)
    {before : List Failure} {history : List Event}
    (reported : scene.reported = failures history ++ before) :
    after.reported = failures (event :: history) ++ before := by
  cases follows with
  | succeeded _ _ _ same => exact same.trans reported
  | done _ _ same => exact same.trans reported
  | set _ _ _ _ same => exact same.trans reported
  | cleared _ same => exact same.trans reported
  | failed _ _ failure _ _ once => rw [once, reported, failures, List.cons_append]

theorem perform_of_room (scene : Scene ε) (command : Command ε κ υ) :
    ∃ step, perform scene command =
      scene.machine.reserving (command.room scene.machine) step := by
  cases command with
  | call site operation =>
      obtain ⟨answer, ran⟩ := operation.reserves site scene
      refine ⟨(.ended answer.1, answer.2), ?_⟩
      change ended ((operation.routine site).run scene) =
        scene.machine.reserving (operation.room scene.machine) _
      rw [ran]
      unfold Machine.reserving System.reserving
      split <;> rfl
  | deed deed => exact ⟨_, rfl⟩
  | setFailure kind text place => exact ⟨_, rfl⟩
  | clearFailure => exact ⟨_, rfl⟩

end Runs

/-- Wherever a run comes, the slot is what the history says is pending, and every failure of the
history was put into it once. Any command that may follow comes to its end if there is room for what
it reserves, and ends the program if there is none. Where it comes to its end it follows the
protocol: a success leaves the slot as it is; a failure is in the slot afterwards, its message cut
to what there is room for, and it was raised where the operation was called. -/
theorem slot_of_run (scene : Scene ε) (commands : List (Command ε κ υ)) {ran : Run (Scene ε) Event}
    (reached : run { state := scene } commands = .reached ran) :
    ran.state.slot = pending scene.slot ran.history ∧
    ran.state.reported = failures ran.history ++ scene.reported ∧
    ∀ command : Command ε κ υ,
      let room := command.room ran.state.machine
      (ran.state.machine.session.system.reserves room = true →
        ∃ event after, perform ran.state command = .reached (event, after) ∧
          Follows ran.state command event after) ∧
      (ran.state.machine.session.system.reserves room = false →
        perform ran.state command = .aborted) := by
  have told : ran.state.slot = pending scene.slot ran.history ∧
      ran.state.reported = failures ran.history ++ scene.reported := by
    refine run_induction (fun ran => ran.state.slot = pending scene.slot ran.history ∧
      ran.state.reported = failures ran.history ++ scene.reported) ?_ ⟨rfl, rfl⟩ commands reached
    rintro ran command event state ⟨slot, reported⟩ performed
    have follows := follows_perform performed
    exact ⟨follows.slot_eq_pending slot, follows.reported_eq reported⟩
  refine ⟨told.1, told.2, fun command => ?_⟩
  obtain ⟨⟨event, after⟩, performed⟩ := perform_of_room ran.state command
  constructor
  · intro reserved
    rw [Machine.reserving, System.reserving_of_reserves reserved] at performed
    exact ⟨event, after, performed, follows_perform performed⟩
  · intro refused
    rw [performed, Machine.reserving, System.reserving_of_not_reserves refused]

/-- A heap that may still grant one block is asked for `2 ^ 62` bytes, which the system refuses: no
answer comes. -/
theorem not_slot_of_run :
    ¬ ∀ (scene : Scene Nat) (command : Command Nat Nat Nat), ∃ event after,
      perform scene command = .reached (event, after) ∧ Follows scene command event after := by
  intro always
  let scene : Scene Nat := { machine := (({} : Machine).addRecorder (some 1)).2 }
  let command : Command Nat Nat Nat := .call .internal (.malloc 1 (2 ^ 62))
  have refused : scene.machine.session.system.reserves (command.room scene.machine) = false := by
    decide +kernel
  obtain ⟨step, performed⟩ := perform_of_room scene command
  rw [Machine.reserving, System.reserving_of_not_reserves refused] at performed
  obtain ⟨event, after, reached, -⟩ := always scene command
  rw [performed] at reached
  cases reached

/-- Where a run comes, if it comes to its end. -/
def behind (start : Run (Scene ε) Event) (commands : List (Command ε κ υ)) : Run (Scene ε) Event :=
  match run start commands with
  | .reached ran => ran
  | .aborted => start

/-- A copy is too long, a fill is not, and of two blocks that a scope is asked for its heap grants
one. The slot tells of the other one, which was refused two calls further down and was put there
once; a request that is granted then leaves it there. -/
theorem slot_of_run_refused :
    let scene : Scene Nat :=
      { machine := (({} : Machine).addRecorder (some 1)).2, bytes := [1, 2, 3] }
    let site : Site := { file := "a.rs", line := 7 }
    let commands : List (Command Nat Nat Nat) :=
      [.call .internal (.copy [1, 2, 3, 4]), .call .internal (.fill 9 2), .deed (.openScope 1),
        .call site (.scopeAlloc 1 8), .call site (.scopeAlloc 1 4)]
    let ran := behind { state := scene } commands
    run { state := scene } commands = .reached ran ∧
      ran.state.slot.code = .memory ∧
      ran.state.slot.location = some { file := "a.rs", line := 7, function := "checked_malloc" } ∧
      ran.state.reported.map Failure.kind = [.memory, .value] ∧
      ∃ event after,
        perform ran.state (.call site (.malloc 0 4) : Command Nat Nat Nat) =
          .reached (event, after) ∧
        Follows ran.state (.call site (.malloc 0 4) : Command Nat Nat Nat) event after := by
  intro scene site commands ran
  have reached : run { state := scene } commands = .reached ran := rfl
  obtain ⟨slot, reported, next⟩ := slot_of_run scene commands reached
  refine ⟨reached, ?_, ?_, ?_, (next _).1 (by decide)⟩
  · rw [slot]
    rfl
  · rw [slot]
    rfl
  · rw [reported]
    rfl

end Failures

end Underlay
