import Mathlib.Data.List.DropRight
import Underlay.Proofs.Conformance.Notes
import Underlay.Proofs.Lifecycle.Ring

/-!
# What a log makes of notes

At the level that logs, every event among the notes is recorded under the next number. A log that
was empty retains the last of them, as many as it has room for.
-/

namespace Underlay

namespace Lifecycle

/-- Events under consecutive numbers. -/
def numbered (first : Nat) : List Event → List Record
  | [] => []
  | event :: rest => { id := first, event } :: numbered (first + 1) rest

theorem ids_numbered (first : Nat) (events : List Event) :
    (numbered first events).map Record.id = List.range' first events.length := by
  induction events generalizing first with
  | nil => rfl
  | cons event rest inductionHypothesis =>
      exact congrArg (first :: ·) (inductionHypothesis (first + 1))

theorem events_numbered (first : Nat) (events : List Event) :
    (numbered first events).map Record.event = events := by
  induction events generalizing first with
  | nil => rfl
  | cons event rest inductionHypothesis =>
      exact congrArg (event :: ·) (inductionHypothesis (first + 1))

theorem getElem?_numbered (first : Nat) (events : List Event) (place : Nat) :
    (numbered first events)[place]? =
      events[place]?.map fun event => { id := first + place, event } := by
  induction events generalizing first place with
  | nil => rfl
  | cons event rest inductionHypothesis =>
      cases place with
      | zero => rfl
      | succ place =>
          rw [numbered, List.getElem?_cons_succ, List.getElem?_cons_succ, inductionHypothesis,
            Nat.add_right_comm, Nat.add_assoc]

namespace Log

variable {log : Log}

theorem Circular.foldl_record (circular : log.Circular) (events : List Event) :
    (events.foldl Log.record log).Circular := by
  induction events generalizing log with
  | nil => exact circular
  | cons event rest inductionHypothesis => exact inductionHypothesis (circular.record event)

theorem nextId_foldl_record (log : Log) (events : List Event) :
    (events.foldl record log).nextId = log.nextId + events.length := by
  induction events generalizing log with
  | nil => rfl
  | cons event rest inductionHypothesis =>
      rw [List.foldl_cons, inductionHypothesis, nextId_record, List.length_cons]
      omega

theorem capacity_foldl_record (log : Log) (events : List Event) :
    (events.foldl record log).capacity = log.capacity := by
  induction events generalizing log with
  | nil => rfl
  | cons event rest inductionHypothesis =>
      rw [List.foldl_cons, inductionHypothesis, capacity_record]

/-- Seen from the latest record backwards, the new records stand in front of the old ones, and what
is past the capacity falls off. -/
theorem reverse_toList_foldl_record (circular : log.Circular) (events : List Event) :
    (events.foldl record log).toList.reverse =
      ((numbered log.nextId events).reverse ++ log.toList.reverse).take log.capacity := by
  induction events generalizing log with
  | nil =>
      have fits : log.toList.reverse.length ≤ log.capacity := by
        rw [List.length_reverse, length_toList]
        exact circular.fits
      exact (List.take_of_length_le fits).symm
  | cons event rest inductionHypothesis =>
      rw [List.foldl_cons, inductionHypothesis (circular.record event), nextId_record,
        capacity_record, reverse_toList_record circular, numbered, List.reverse_cons,
        List.append_assoc, List.singleton_append]
      simp only [List.take_append, List.take_take]
      congr 2
      omega

/-- An empty log retains the last events, as many as it has room for. -/
theorem toList_foldl_record (circular : log.Circular) (empty : log.toList = [])
    (events : List Event) :
    (events.foldl record log).toList = (numbered log.nextId events).rtake log.capacity := by
  rw [List.rtake_eq_reverse_take_reverse, ← List.reverse_inj, List.reverse_reverse,
    reverse_toList_foldl_record circular, empty, List.reverse_nil, List.append_nil]

end Log

end Lifecycle

namespace Observer

/-- The event of a note, if it tells one. -/
def event? : Note → Option Lifecycle.Event
  | .event event => some event
  | .alloc _ | .free _ => none

/-- An observer at level `trace` records every event that it hears of. -/
theorem hearAll_of_trace (o : Observer) (traces : o.tracking = .trace) (notes : List Note) :
    (o.hearAll notes).tracking = .trace ∧
      (o.hearAll notes).log = (notes.filterMap event?).foldl Lifecycle.Log.record o.log := by
  induction notes generalizing o with
  | nil => exact ⟨traces, rfl⟩
  | cons note rest inductionHypothesis =>
      obtain ⟨tracking, counters, log⟩ := o
      obtain rfl : tracking = .trace := traces
      cases note with
      | alloc size => exact inductionHypothesis _ rfl
      | free size => exact inductionHypothesis _ rfl
      | event event => exact inductionHypothesis _ rfl

end Observer

end Underlay
