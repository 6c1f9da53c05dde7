import Underlay.Conformance.Instant
import Underlay.Conformance.Verdict
import Underlay.Json.Reader
import Underlay.Observer.Lifecycle

/-!
Entries of the log of a run, one JSON object a line. An entry has a timestamp, a correlation text,
a level and an event, and further parts that are left out when there is nothing to say. A line is
admitted if it is an object, its four required members are texts that are not empty, and every
member has the form of the part it stands for.
-/

namespace Underlay.Conformance

inductive Outcome where
  | pass
  | fail
  | ok
  | failed
deriving DecidableEq, Repr, Inhabited

namespace Outcome

def all : List Outcome := [pass, fail, ok, failed]

def name : Outcome → String
  | pass => "pass"
  | fail => "fail"
  | ok => "ok"
  | failed => "failed"

def ofName? (name : String) : Option Outcome :=
  all.find? fun outcome => outcome.name == name

theorem ofName?_name (outcome : Outcome) : ofName? outcome.name = some outcome := by
  cases outcome <;> decide +kernel

/-- The outcome that a value stands for: its name, or an object with that name over nothing. -/
def ofJson? : Json → Option Outcome
  | .string name => ofName? name
  | .object [(name, .null)] => ofName? name
  | _ => none

end Outcome

structure Entry where
  timestamp : String
  trace : String
  level : Lifecycle.Level
  event : String
  component : Option String := none
  caseName : Option String := none
  function : Option String := none
  outcome : Option Outcome := none
  /-- The number of the lifecycle record that the entry repeats. -/
  record : Option Nat := none
  address : Option String := none
  size : Option Nat := none
  details : Option Json := none
deriving Repr, Inhabited

namespace Entry

/-- An entry that says no more than it must. -/
def bare (now : Instant) (trace : String) (level : Lifecycle.Level) (event : String) : Entry :=
  { timestamp := now.render, trace, level, event }

def ofVerdict (now : Instant) (trace : String) (v : Verdict) : Entry :=
  { bare now trace (if v.passed then .info else .error) "case_result" with
    component := some v.family
    caseName := some v.caseName
    function := some v.function
    outcome := some (if v.passed then .pass else .fail)
    details := some (.object [("actual", .string v.actual), ("expected", .string v.expected)]) }

/-- The entry of a lifecycle record, under the record's own correlation text. -/
def ofRecord (now : Instant) (r : Lifecycle.Record) : Entry :=
  { bare now r.trace r.event.level r.event.name with
    component := some r.event.component
    outcome := some (if r.event.outcome = "ok" then .ok else .failed)
    record := some r.id
    address := r.event.subject.map fun address => "0x" ++ Lifecycle.hexadecimal 1 address
    size := r.event.size
    details := if r.event.details.isEmpty then none else some (.string r.event.details) }

/-- A part of an entry, unless there is nothing to say. -/
def part {α : Type} (name : String) (encode : α → Json) : Option α → List (String × Json)
  | some a => [(name, encode a)]
  | none => []

def members (e : Entry) : List (String × Json) :=
  [("timestamp", .string e.timestamp), ("trace_id", .string e.trace),
    ("level", .string e.level.name), ("event", .string e.event)] ++
  part "component" .string e.component ++ part "case_name" .string e.caseName ++
  part "function" .string e.function ++
  part "outcome" (fun outcome => .string outcome.name) e.outcome ++
  part "decision_id" .nat e.record ++ part "ptr" .string e.address ++
  part "size" .nat e.size ++ part "details" id e.details

def json (e : Entry) : Json :=
  .object e.members

def line (e : Entry) : String :=
  e.json.compact

inductive Objection where
  | malformed
  | missing (field : String)
  | mistyped
deriving DecidableEq, Repr, Inhabited

namespace Objection

def field : Objection → String
  | malformed => "<line>"
  | missing field => field
  | mistyped => "level"

def message : Objection → String
  | malformed => "field '<line>': not a JSON text"
  | missing field => "field '" ++ field ++ "': missing or empty"
  | mistyped => "field 'level': a member has another form than expected"

end Objection

/-- The members that every entry has. -/
def required : List String := ["timestamp", "trace_id", "level", "event"]

/-- A member that may be missing or null and must have a given form otherwise. -/
def member? {α : Type} (json : Json) (name : String) (decode : Json → Option α) :
    Option (Option α) :=
  match json.get? name with
  | none | some .null => some none
  | some value => (decode value).map some

def ofJson? (json : Json) : Option Entry := do
  return {
    timestamp := ← (← json.get? "timestamp").string?
    trace := ← (← json.get? "trace_id").string?
    level := ← Lifecycle.Level.ofName? (← (← json.get? "level").string?)
    event := ← (← json.get? "event").string?
    component := ← member? json "component" Json.string?
    caseName := ← member? json "case_name" Json.string?
    function := ← member? json "function" Json.string?
    outcome := ← member? json "outcome" Outcome.ofJson?
    record := ← member? json "decision_id" Json.size?
    address := ← member? json "ptr" Json.string?
    size := ← member? json "size" Json.size?
    details := ← member? json "details" some }

def present (json : Json) (field : String) : Bool :=
  match json.get? field with
  | some (.string text) => text != ""
  | _ => false

def validate (line : String) : Except Objection Entry :=
  match Json.parse .any line with
  | .error _ => .error .malformed
  | .ok json =>
      match required.find? fun field => !present json field with
      | some field => .error (.missing field)
      | none =>
          match ofJson? json with
          | some entry => .ok entry
          | none => .error .mistyped

end Entry

end Underlay.Conformance
