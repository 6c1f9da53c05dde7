import Mathlib.Data.List.Infix
import Underlay.Proofs.Lifecycle.Ring
import Underlay.Proofs.Lifecycle.Run

/-!
# Nothing is lost silently, and nothing is reordered

A log is compared with its history. It retains the latest of what was recorded since the last
drain, as much as there is room for, under numbers without gaps; whatever is recorded is retained,
has been drained, or is counted as evicted.
-/

namespace Underlay.Retention

open Lifecycle

variable {capacity : Nat} {log : Log} {history : List Answer}

structure Tracks (capacity : Nat) (run : Run Log Answer) : Prop where
  circular : run.state.Circular
  room : run.state.capacity = max 1 capacity
  next : run.state.nextId = (recorded run.history).length + 1
  list : run.state.toList = retained capacity run.history
  conserved : (recorded run.history).length =
    (drained run.history).length + run.state.size + run.state.evicted
  truthful : Truthful capacity run.history

theorem tracks_withCapacity (capacity : Nat) :
    Tracks capacity { state := .withCapacity capacity } where
  circular := Log.circular_withCapacity capacity
  room := rfl
  next := rfl
  list := by simp [retained, undrained, Log.toList, Log.withCapacity]
  conserved := rfl
  truthful := trivial

namespace Tracks

theorem step_record (tracks : Tracks capacity { state := log, history }) (event : Event) :
    Tracks capacity { state := log.record event, history := .recorded log.nextId event :: history }
    where
  circular := tracks.circular.record event
  room := (Log.capacity_record log event).trans tracks.room
  next := by
    have next : log.nextId = (recorded history).length + 1 := tracks.next
    simp [recorded, next]
  list := by
    have latest := Log.reverse_toList_record tracks.circular event
    have list : log.toList = retained capacity history := tracks.list
    have room : log.capacity = max 1 capacity := tracks.room
    obtain ⟨others, counted⟩ : ∃ others, max 1 capacity = others + 1 :=
      ⟨max 1 capacity - 1, by omega⟩
    rw [List.reverse_eq_iff] at latest
    rw [latest, list, room]
    simp [retained, undrained, counted, List.take_take]
  conserved := by
    have conserved : (recorded history).length =
      (drained history).length + log.size + log.evicted := tracks.conserved
    have moved := Log.evicted_record tracks.circular event
    simp only [recorded, drained, List.length_cons]
    simp only at moved
    omega
  truthful := tracks.truthful

theorem step_drain (tracks : Tracks capacity { state := log, history }) :
    Tracks capacity { state := log.drain.2, history := .drained log.toList :: history } where
  circular := tracks.circular.drain
  room := tracks.room
  next := tracks.next
  list := by simp [retained, undrained]
  conserved := by
    have conserved : (recorded history).length =
      (drained history).length + log.size + log.evicted := tracks.conserved
    simp only [recorded, drained, List.length_append, List.length_reverse, Log.length_toList]
    change _ = _ + 0 + log.evicted
    omega
  truthful := ⟨tracks.list, tracks.truthful⟩

theorem step (tracks : Tracks capacity { state := log, history }) (command : Command) :
    Tracks capacity
      { state := (perform log command).2, history := (perform log command).1 :: history } := by
  cases command with
  | record event => exact tracks.step_record event
  | drain => exact tracks.step_drain
  | snapshot =>
      exact ⟨tracks.circular, tracks.room, tracks.next, tracks.list, tracks.conserved,
        tracks.list, tracks.truthful⟩
  | size =>
      have list : log.toList = retained capacity history := tracks.list
      have counted : log.size = (retained capacity history).length := by
        rw [← list, Log.length_toList]
      exact ⟨tracks.circular, tracks.room, tracks.next, tracks.list, tracks.conserved,
        counted, tracks.truthful⟩

end Tracks

theorem tracks_run (capacity : Nat) (commands : List Command) :
    Tracks capacity (run capacity commands) :=
  Run.steps_induction _ (fun _ command tracks => tracks.step command)
    (tracks_withCapacity capacity) commands

/-- Every event is recorded under the number of its place, and nothing else is recorded. -/
theorem reverse_recorded_run (capacity : Nat) (commands : List Command) :
    (recorded (run capacity commands).history).reverse =
      (commands.filterMap Command.event?).mapIdx fun place event => { id := place + 1, event } := by
  -- The last command is taken off: its number depends on how many events came before.
  induction commands using List.reverseRecOn with
  | nil => rfl
  | append_singleton commands command inductionHypothesis =>
      have last : run capacity (commands ++ [command]) =
          (run capacity commands).step (fun run => perform run.state) command :=
        Run.steps_concat _ _ commands command
      have next := (tracks_run capacity commands).next
      have many := congrArg List.length inductionHypothesis
      rw [List.length_reverse, List.length_mapIdx] at many
      rw [last, List.filterMap_append]
      cases command with
      | record event =>
          simp only [Run.step, perform, Log.append, recorded, List.reverse_cons,
            inductionHypothesis, next, many]
          exact List.mapIdx_concat.symm
      | drain | snapshot | size =>
          simpa [Run.step, perform, recorded, List.filterMap_cons, Command.event?]
            using inductionHypothesis

theorem recorded_extends_undrained (history : List Answer) :
    undrained history <+: recorded history := by
  induction history with
  | nil => exact List.prefix_rfl
  | cons answer past inductionHypothesis =>
      cases answer with
      | recorded id event => exact (List.prefix_cons_inj _).mpr inductionHypothesis
      | drained records => exact List.nil_prefix
      | shown _ | counted _ => exact inductionHypothesis

/-- What is retained stands at the end of all that was recorded. -/
theorem retained_eq_drop (capacity : Nat) (history : List Answer) :
    retained capacity history =
      (recorded history).reverse.drop
        ((recorded history).length - (retained capacity history).length) := by
  have latest : (retained capacity history).reverse <+: recorded history := by
    rw [retained, List.reverse_reverse]
    exact (List.take_prefix _ _).trans (recorded_extends_undrained history)
  have suffix : retained capacity history <:+ (recorded history).reverse := by
    simpa using List.reverse_suffix.mpr latest
  simpa using List.suffix_iff_eq_drop.mp suffix

/-- In every run of a log, the events are recorded under the numbers from one on. The log retains
the latest of what was recorded since the last drain, as many as it has room for, oldest first, and
so under consecutive numbers; whatever it is asked, it answers by this. What was recorded has been
drained, is retained, or is counted as evicted. -/
theorem retained_of_run (capacity : Nat) (commands : List Command) :
    let ran := run capacity commands
    let numbered : List Record :=
      (commands.filterMap Command.event?).mapIdx fun place event => { id := place + 1, event }
    (recorded ran.history).reverse = numbered ∧
      ran.state.toList = retained capacity ran.history ∧
      ran.state.size = min (max 1 capacity) (undrained ran.history).length ∧
      ran.state.toList.map Record.id =
        List.range' (numbered.length + 1 - ran.state.size) ran.state.size ∧
      Truthful capacity ran.history ∧
      numbered.length =
        (drained ran.history).length + ran.state.size + ran.state.evicted := by
  intro ran numbered
  have tracks : Tracks capacity ran := tracks_run capacity commands
  have every : (recorded ran.history).reverse = numbered := reverse_recorded_run capacity commands
  have many : (recorded ran.history).length = numbered.length := by
    rw [← every, List.length_reverse]
  have size : (retained capacity ran.history).length = ran.state.size := by
    rw [← tracks.list, Log.length_toList]
  refine ⟨every, tracks.list, ?_, ?_, tracks.truthful, many ▸ tracks.conserved⟩
  · rw [← size, retained, List.length_reverse, List.length_take]
  · have places : numbered.map Record.id = List.range' 1 numbered.length := by
      apply List.ext_getElem
      · simp [numbered]
      · intro place _ _
        simp [numbered, Nat.add_comm]
    have within : ran.state.size ≤ numbered.length := by
      have conserved := tracks.conserved
      omega
    rw [tracks.list, retained_eq_drop, every, many, size, List.map_drop, places,
      List.drop_range']
    congr 1 <;> omega

end Underlay.Retention
