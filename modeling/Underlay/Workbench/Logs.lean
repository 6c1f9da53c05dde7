import Underlay.Settings.Cell
import Underlay.Workbench.Views

/-!
Operations of a workbench on settings and lifecycle logs.
-/

namespace Underlay.Workbench

def trackingView (tracking : Tracking) : Json :=
  .object [("level", .string tracking.name), ("counts", .bool tracking.counts),
    ("logs", .bool tracking.logs)]

def settings : Bench Settings := do
  return (← get).machine.session.settings

/-- Put settings in force; what is not given stays. -/
def configure (tracking : Option Tracking) (capacity : Option Nat) : Bench Answer := do
  update fun machine =>
    let session := (tracking.map machine.session.setTracking).getD machine.session
    { machine with session := (capacity.map session.setPoolCapacity).getD session }
  return ok (View.settings (← settings))

/-- The settings that hold when nothing is said, and whether they are in force. -/
def defaultSettings : Bench Answer := do
  let standard : Settings := {}
  return ok (.object [("config", View.settings standard),
    ("is_current", .bool (standard == (← settings)))])

/-- The settings of a program that starts with these texts in its environment. -/
def environmentSettings (tracking capacity : Option (List UInt8)) : Json :=
  let environment : Environment :=
    { tracking := tracking.bind Text.decode?, poolCapacity := capacity.bind Text.decode? }
  View.settings environment.settings

def log (name : String) : Bench Lifecycle.Log := do
  return ((← get).logs.get? name).getD {}

def setLog (name : String) (log : Lifecycle.Log) : Bench Unit :=
  modify fun w => { w with logs := w.logs.set name log }

def newLog (name : String) (capacity : Option Nat) : Bench Answer := do
  setLog name ((capacity.map Lifecycle.Log.withCapacity).getD {})
  return ok .null

/-- Append an event a number of times; the last number given. -/
def recordTimes (event : Lifecycle.Event) : Nat → Nat × Lifecycle.Log → Nat × Lifecycle.Log
  | 0, answered => answered
  | count + 1, (_, log) => recordTimes event count (log.append event)

def recordEvent (name : String) (event : Lifecycle.Event) (times : Nat) : Bench Answer := do
  let log ← log name
  let (last, log) := recordTimes event times (log.nextId - 1, log)
  setLog name log
  return ok (.nat last)

def drainLog (name : String) : Bench Answer := do
  let (records, log) := (← log name).drain
  setLog name log
  return ok (.array (records.map View.record))

def logRecords (name : String) : Bench Answer := do
  return ok (.array ((← log name).toList.map View.record))

def logEnds (name : String) : Bench Answer := do
  return ok (.object (View.ends View.record (← log name).toList))

def logState (name : String) : Bench Answer := do
  let log ← log name
  return ok (View.size log.size [("evicted", .nat log.evicted)])

def programLog : Bench Lifecycle.Log := do
  return (← get).machine.observer.log

def programLogState : Bench Answer := do
  let log ← programLog
  return ok (.object [("len", .nat log.size), ("evicted", .nat log.evicted)])

def programLogEnds : Bench Answer := do
  let log ← programLog
  return ok (.object (("len", .nat log.size) :: View.ends View.trace log.toList))

def drainProgramLog : Bench Answer := do
  return ok (.array ((← run Machine.drainLog).map View.trace))

end Underlay.Workbench
