import Underlay.Boundary.Handles
import Underlay.Proofs.Run

/-!
# Runs of registries

Registries are made, filled, cleaned up and closed in any order; a registry that is dropped is
closed. Resources are registered by the program itself or by generated code. A command names its
registry by number; a command that names no open registry does nothing, for nobody holds such a
registry. Every command leaves one event. A history tells each registration apart by a ticket, and
so it tells which registrations are waiting and in which order the others have run.
-/

namespace Underlay.Registries

open Registry (Entry)

inductive Command where
  | open
  | register (registry : RegistryId) (entry : Entry)
  /-- Register a resource from generated code, which may leave out any part. -/
  | registerPointer (registry : Option RegistryId) (resource : Option Nat) (cleanup : Bool)
      (name : Option (List UInt8))
  | cleanUp (registry : RegistryId)
  | close (registry : RegistryId)
deriving DecidableEq, Repr

inductive Event where
  | opened (registry : RegistryId)
  | registered (registry : RegistryId) (entry : Entry)
  /-- What ran, in that order; the answer is how many. -/
  | cleanedUp (registry : RegistryId) (ran : List Cleanup)
  | closed (registry : RegistryId) (ran : List Cleanup)
  | idle
deriving DecidableEq, Repr

/-! What a history tells. -/

def isOpen (registry : RegistryId) : List Event → Bool
  | [] => false
  | .opened other :: past => other == registry || isOpen registry past
  | .closed other _ :: past => other != registry && isOpen registry past
  | _ :: past => isOpen registry past

/-- One registration of a run; its number is how many came before it. -/
structure Ticket where
  number : Nat
  registry : RegistryId
  entry : Entry
deriving DecidableEq, Repr

def Ticket.cleanup (ticket : Ticket) : Cleanup :=
  ticket.entry.cleanup

/-- All registrations, in their order. -/
def tickets : List Event → List Ticket
  | [] => []
  | .registered registry entry :: past =>
      tickets past ++ [{ number := (tickets past).length, registry, entry }]
  | _ :: past => tickets past

/-- The registrations that nothing has run since. -/
def waiting : List Event → List Ticket
  | [] => []
  | .registered registry entry :: past =>
      waiting past ++ [{ number := (tickets past).length, registry, entry }]
  | .cleanedUp registry _ :: past | .closed registry _ :: past =>
      (waiting past).filter fun ticket => ticket.registry != registry
  | _ :: past => waiting past

def pending (registry : RegistryId) (history : List Event) : List Ticket :=
  (waiting history).filter fun ticket => ticket.registry == registry

/-- The registrations in the order in which they have to run: at each cleanup those that are
pending in its registry, the newest first. -/
def order : List Event → List Ticket
  | [] => []
  | .cleanedUp registry _ :: past | .closed registry _ :: past =>
      order past ++ (pending registry past).reverse
  | _ :: past => order past

/-- What ran, in that order. -/
def ran : List Event → List Cleanup
  | [] => []
  | .cleanedUp _ ran' :: past | .closed _ ran' :: past => ran past ++ ran'
  | _ :: past => ran past

/-- How many cleanups of a registry ran, by what cleaning it up answered and closing it did. -/
def runCount (registry : RegistryId) : List Event → Nat
  | [] => 0
  | .cleanedUp other ran :: past | .closed other ran :: past =>
      (if other = registry then ran.length else 0) + runCount registry past
  | _ :: past => runCount registry past

/-- Every cleanup ran what was pending in its registry, the newest first. -/
def Truthful : List Event → Prop
  | [] => True
  | .cleanedUp registry ran :: past | .closed registry ran :: past =>
      ran = (pending registry past).reverse.map Ticket.cleanup ∧ Truthful past
  | _ :: past => Truthful past

/-! What a command does. -/

def onOpen (run : Run Machine Event) (registry : RegistryId) (call : Event × Machine) :
    Event × Machine :=
  if isOpen registry run.history then call else (.idle, run.state)

/-- The event of a registration, by the status that it answers. -/
def outcome (registry : RegistryId) (entry : Entry) (call : Nat × Machine) : Event × Machine :=
  (if call.1 = Kind.ok.code then .registered registry entry else .idle, call.2)

def perform (run : Run Machine Event) : Command → Event × Machine
  | .open =>
      let (registry, machine) := run.state.addRegistry
      (.opened registry, machine)
  | .register registry entry =>
      onOpen run registry (.registered registry entry, run.state.register registry entry)
  | .registerPointer none resource cleanup name =>
      (.idle, (Boundary.register none resource cleanup name run.state).2)
  | .registerPointer (some registry) resource cleanup name =>
      onOpen run registry <|
        outcome registry
          { name := name.map Boundary.textOf, cleanup := .resource (toString (resource.getD 0)) }
          (Boundary.register (some registry) resource cleanup name run.state)
  | .cleanUp registry =>
      onOpen run registry <|
        let (ran, machine) := Boundary.cleanUp (some registry) run.state
        (.cleanedUp registry ran, machine)
  | .close registry =>
      onOpen run registry <|
        let (ran, machine) := run.state.cleanUp registry
        (.closed registry ran, machine)

def run (machine : Machine) (commands : List Command) : Run Machine Event :=
  Run.steps perform { state := machine } commands

end Underlay.Registries
