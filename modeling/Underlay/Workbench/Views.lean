import Underlay.Conformance.Report
import Underlay.Progression
import Underlay.Text.Utf8
import Underlay.Workbench

/-!
Views: what the answers of a workbench show of values.
-/

namespace Underlay.View

def hex (bytes : List UInt8) : Json :=
  .string (Text.toHex bytes)

def strings (texts : List String) : Json :=
  .array (texts.map Json.string)

def naturals (numbers : List Nat) : Json :=
  .array (numbers.map Json.nat)

def nothing {α : Type} (_ : α) : Json :=
  .null

def kind (k : Kind) : Json :=
  .object [("code", .nat k.code), ("name", .string k.name), ("is_ok", .bool k.isOk)]

def location (l : Location) : Json :=
  .object [("file", .string l.file), ("line", .nat l.line), ("function", .string l.function)]

def slot (s : Slot) : Json :=
  .object [("code", .nat s.code.code), ("name", .string s.code.name), ("has", .bool s.hasFailure),
    ("message", .string s.message), ("location", Json.ofOption location s.location),
    ("render", Json.ofOption Json.string s.render?)]

/-- A slot that stands for itself, with the failure that it holds. -/
def context (s : Slot) : Json :=
  .object [("code", .nat s.code.code), ("message", .string s.message),
    ("bytes", .nat s.message.utf8ByteSize), ("has", .bool s.hasFailure),
    ("location", Json.ofOption location s.location),
    ("render", Json.ofOption Json.string s.render?),
    ("to_error", Json.ofOption (fun failure => .object (Workbench.failed failure)) s.failure?)]

def counters (c : Counters) : Json :=
  naturals c.row

def settings (s : Settings) : Json :=
  .object [("tracking", .string s.tracking.name), ("capacity", .nat s.poolCapacity)]

def record (r : Lifecycle.Record) : Json :=
  .object [("id", .nat r.id), ("trace", .string r.trace), ("level", .string r.event.level.name),
    ("component", .string r.event.component), ("event", .string r.event.name),
    ("ptr", Json.ofOption Json.nat r.event.subject), ("size", Json.ofOption Json.nat r.event.size),
    ("outcome", .string r.event.outcome), ("details", .string r.event.details)]

/-- A record without the address that it is about. -/
def trace (r : Lifecycle.Record) : Json :=
  .object [("id", .nat r.id), ("trace", .string r.event.stem),
    ("level", .string r.event.level.name), ("ptr", .bool r.event.subject.isSome),
    ("size", Json.ofOption Json.nat r.event.size), ("outcome", .string r.event.outcome),
    ("details", .string r.event.details)]

/-- The first and the last of some records. -/
def ends (view : Lifecycle.Record → Json) (records : List Lifecycle.Record) : Answer :=
  [("first", Json.ofOption view records.head?), ("last", Json.ofOption view records.getLast?)]

def pool (p : Pool) : Json :=
  .object [("capacity", .nat p.capacity), ("used", .nat p.used), ("remaining", .nat p.remaining),
    ("allocations", .nat p.allocations), ("epoch", .nat p.epoch), ("growths", .nat p.growths)]

def spec (s : SliceSpec) : Json :=
  .array [Json.ofOption .integer s.start, Json.ofOption .integer s.stop,
    Json.ofOption .integer s.step]

/-- A slice with the first positions that it visits. -/
def slice (s : Slice) (count : Nat) : Json :=
  let (positions, rest) := s.cursor.take count
  .object [("start", .integer s.start), ("stop", .integer s.stop), ("step", .integer s.step),
    ("magnitude", .nat s.step.natAbs), ("reversed", .bool s.isReversed), ("len", .nat s.length),
    ("empty", .bool (s.length == 0)), ("indices", naturals positions),
    ("left", .nat rest.remaining)]

def bounds (s : Slice) : Json :=
  .array [.integer s.start, .integer s.stop, .integer s.step, .nat s.length]

/-- A progression, the answers of a walk of so many steps, and whether it contains some values. -/
def progression (p : Progression) (steps : Nat) (probes : List Int) : Json :=
  let (values, rest) := p.advance steps
  .object [("start", .integer p.start), ("stop", .integer p.stop), ("step", .integer p.step),
    ("count", .nat p.count), ("values", .array (values.map (Json.ofOption Json.integer))),
    ("count_after", .nat rest.count),
    ("contains", .array (probes.map fun i => .bool (p.contains i)))]

/-- The size of a container and the name of its type. -/
def extent (size : Nat) (typeName : String) : Json :=
  .object [("len", .nat size), ("name", .string typeName)]

def size (n : Nat) (more : Answer := []) : Json :=
  .object ([("len", .nat n), ("empty", .bool (n == 0))] ++ more)

open Conformance in
def verdict (v : Verdict) : Json :=
  .object [("case", .string v.caseName), ("family", .string v.family),
    ("function", .string v.function), ("passed", .bool v.passed),
    ("expected", .string v.expected), ("actual", .string v.actual),
    ("diff", Json.ofOption Json.string v.difference)]

open Conformance in
def summary (verdicts : List Verdict) : Json :=
  .object [("total", .nat verdicts.length), ("passed", .nat (passedCount verdicts)),
    ("failed", .nat (failedCount verdicts)), ("all_passed", .bool (allPassed verdicts)),
    ("results", .array (verdicts.map verdict))]

end Underlay.View
