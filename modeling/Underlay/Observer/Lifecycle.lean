/-!
The lifecycle log: a ring of numbered records. Events are numbered from one without gaps, also
across drains; when the ring is full the oldest record makes room for the new one. The records
that the ring retains, oldest first, are `Log.toList`.
-/

namespace Underlay.Lifecycle

/-- How much a record matters. -/
inductive Level where
  | trace
  | debug
  | info
  | warn
  | error
deriving DecidableEq, Repr, Inhabited

namespace Level

def all : List Level := [trace, debug, info, warn, error]

def name : Level → String
  | trace => "trace"
  | debug => "debug"
  | info => "info"
  | warn => "warn"
  | error => "error"

def ofName? (name : String) : Option Level :=
  all.find? (fun level => level.name == name)

theorem ofName?_name (level : Level) : ofName? level.name = some level := by
  cases level <;> decide +kernel

end Level

/-- One event as a component reports it. The subject is the address of what it is about. -/
structure Event where
  component : String
  name : String
  level : Level := .debug
  subject : Option Nat := none
  size : Option Nat := none
  outcome : String := "ok"
  details : String := ""
deriving DecidableEq, Repr, Inhabited

/-- A numbered event. -/
structure Record where
  id : Nat
  event : Event
deriving DecidableEq, Repr, Inhabited

/-- A number in base sixteen, filled with zeros in front up to `width` digits. -/
def hexadecimal (width n : Nat) : String :=
  let digits := Nat.toDigits 16 n
  String.ofList (List.replicate (width - digits.length) '0' ++ digits)

/-- What the records of one component and event share in their correlation text. -/
def Event.stem (event : Event) : String :=
  "membrane::" ++ event.component ++ "::" ++ event.name

/-- The text by which a record can be found again. -/
def Record.trace (record : Record) : String :=
  record.event.stem ++ "::" ++ hexadecimal 16 record.id

structure Log where
  capacity : Nat := 4096
  nextId : Nat := 1
  evicted : Nat := 0
  slots : Array Record := #[]
  /-- Where the oldest record stands once the ring is full. -/
  oldest : Nat := 0
deriving Repr, Inhabited

namespace Log

/-- A log that retains `capacity` records, at least one. -/
def withCapacity (capacity : Nat) : Log :=
  { capacity := max 1 capacity }

/-- The retained records, oldest first. -/
def toList (log : Log) : List Record :=
  log.slots.toList.drop log.oldest ++ log.slots.toList.take log.oldest

/-- Append an event under the next number. -/
def record (log : Log) (event : Event) : Log :=
  let entry : Record := { id := log.nextId, event }
  if log.slots.size < log.capacity then
    { log with nextId := log.nextId + 1, slots := log.slots.push entry }
  else
    { log with
      nextId := log.nextId + 1
      evicted := log.evicted + 1
      slots := log.slots.setIfInBounds log.oldest entry
      oldest := if log.oldest + 1 < log.slots.size then log.oldest + 1 else 0 }

/-- Append an event; its number. -/
def append (log : Log) (event : Event) : Nat × Log :=
  (log.nextId, log.record event)

/-- Take every retained record out. -/
def drain (log : Log) : List Record × Log :=
  (log.toList, { log with slots := #[], oldest := 0 })

def size (log : Log) : Nat :=
  log.slots.size

end Log

end Underlay.Lifecycle
