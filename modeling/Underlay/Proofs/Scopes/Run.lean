import Underlay.Machine.Scopes
import Underlay.Proofs.Run

/-!
# Runs of scopes over one heap

Scopes over one heap are opened, filled and closed in any order; a scope that is dropped is closed.
A command names its scope by number; a command that names no open scope does nothing, for nobody
holds such a scope. Every command leaves one event, told by what the call answered, and the events
of a run are its history.
-/

namespace Underlay.Scopes

inductive Command where
  | openScope
  | alloc (scope size : Nat)
  | allocZeroed (scope count size : Nat)
  | register (scope : Nat) (block : Option BlockId)
  | close (scope : Nat)
deriving DecidableEq, Repr

inductive Event where
  | opened (scope : Nat)
  | registered (scope : Nat) (block : BlockId)
  | refused (scope : Nat) (failure : Failure)
  | closed (scope : Nat)
  | idle
deriving DecidableEq, Repr

/-- The event of a call on a scope, by its answer, which tells the block. -/
def outcome {α : Type} (scope : Nat) (block : α → BlockId) :
    Except Failure α × Machine → Event × Machine
  | (.ok answer, machine) => (.registered scope (block answer), machine)
  | (.error failure, machine) => (.refused scope failure, machine)

def onOpen (machine : Machine) (scope : Nat) (call : Event × Machine) : Event × Machine :=
  if (machine.scope? scope).isSome then call else (.idle, machine)

def perform (heap : HeapId) (machine : Machine) : Command → Event × Machine
  | .openScope =>
      let (scope, machine) := machine.openScope heap
      (.opened scope, machine)
  | .alloc scope size => onOpen machine scope (outcome scope id (machine.scopeAlloc scope size))
  | .allocZeroed scope count size =>
      onOpen machine scope (outcome scope id (machine.scopeAllocZeroed scope count size))
  | .register scope block =>
      onOpen machine scope
        (outcome scope (fun _ => block.getD default) (machine.scopeRegister scope block))
  | .close scope => onOpen machine scope (.closed scope, machine.closeScope scope)

def run (heap : HeapId) (machine : Machine) (commands : List Command) : Run Machine Event :=
  Run.steps (fun run => perform heap run.state) { state := machine } commands

/-! What a history tells. -/

def isOpen (scope : Nat) : List Event → Bool
  | [] => false
  | .opened other :: past => other == scope || isOpen scope past
  | .closed other :: past => other != scope && isOpen scope past
  | _ :: past => isOpen scope past

/-- The blocks that calls gave a scope, in the order of the calls. -/
def registrations (scope : Nat) : List Event → List BlockId
  | [] => []
  | .registered owner block :: past =>
      if owner = scope then registrations scope past ++ [block] else registrations scope past
  | _ :: past => registrations scope past

/-- What closing scopes releases: each closing the blocks of its own scope up to then, once for
each registration and the newest first, and nothing else releases anything. -/
def released : List Event → List BlockId
  | [] => []
  | .closed scope :: past => released past ++ (registrations scope past).reverse
  | _ :: past => released past

end Underlay.Scopes
