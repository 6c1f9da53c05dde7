import Underlay.Observer.Lifecycle
import Underlay.Proofs.Run

/-!
# Runs of a lifecycle log

Events are recorded, and what is retained is taken out, looked at and counted, in any order. Every
command leaves its answer, and the answers of a run are its history. What a log has to retain can
be read off the history: of what was recorded since the last drain, as much as there is room for.
-/

namespace Underlay.Retention

open Lifecycle

inductive Command where
  | record (event : Event)
  | drain
  | snapshot
  | size
deriving DecidableEq, Repr

inductive Answer where
  | recorded (id : Nat) (event : Event)
  | drained (records : List Record)
  | shown (records : List Record)
  | counted (size : Nat)
deriving DecidableEq, Repr

def perform (log : Log) : Command → Answer × Log
  | .record event =>
      let (id, log) := log.append event
      (.recorded id event, log)
  | .drain =>
      let (records, log) := log.drain
      (.drained records, log)
  | .snapshot => (.shown log.toList, log)
  | .size => (.counted log.size, log)

def run (capacity : Nat) (commands : List Command) : Run Log Answer :=
  Run.steps (fun run => perform run.state) { state := .withCapacity capacity } commands

/-- The event that a command records, if it records one. -/
def Command.event? : Command → Option Event
  | .record event => some event
  | .drain | .snapshot | .size => none

/-! What a history tells, the latest first. -/

def recorded : List Answer → List Record
  | [] => []
  | .recorded id event :: past => { id, event } :: recorded past
  | _ :: past => recorded past

/-- What was recorded since the last drain. -/
def undrained : List Answer → List Record
  | [] => []
  | .recorded id event :: past => { id, event } :: undrained past
  | .drained _ :: _ => []
  | _ :: past => undrained past

/-- What drains took out. -/
def drained : List Answer → List Record
  | [] => []
  | .drained records :: past => records.reverse ++ drained past
  | _ :: past => drained past

/-- What a log of a capacity has to retain, oldest first. Without a capacity it is one record. -/
def retained (capacity : Nat) (history : List Answer) : List Record :=
  ((undrained history).take (max 1 capacity)).reverse

/-- Every answer tells what had to be retained at its time. -/
def Truthful (capacity : Nat) : List Answer → Prop
  | [] => True
  | .recorded _ _ :: past => Truthful capacity past
  | .drained records :: past => records = retained capacity past ∧ Truthful capacity past
  | .shown records :: past => records = retained capacity past ∧ Truthful capacity past
  | .counted size :: past => size = (retained capacity past).length ∧ Truthful capacity past

end Underlay.Retention
