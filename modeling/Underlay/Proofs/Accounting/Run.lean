import Mathlib.Algebra.Ring.Nat
import Underlay.Machine.Pools
import Underlay.Machine.Scopes
import Underlay.Proofs.Run

/-!
# Counted runs of scopes and pools

Scopes over any heaps and pools are opened, filled and closed in any order, and the system and the
heaps may change their minds about memory at any time. Records may be kept or not; that memory is
counted goes without a command. Every command leaves one event: who obtained how many bytes, if
anybody did. A scope obtains what the call asked for, a pool what its capacity grew by.
-/

namespace Underlay.Accounting

/-- Who holds memory. -/
inductive Account where
  | scope (id : Nat)
  | pool (id : Nat)
deriving DecidableEq, Repr

inductive Command where
  | openScope (heap : HeapId)
  | alloc (scope size : Nat)
  | allocZeroed (scope count size : Nat)
  | register (scope : Nat) (block : Option BlockId)
  | closeScope (scope : Nat)
  | openPool (capacity : Option Nat)
  | carve (pool size : Nat)
  | resetPool (pool : Nat)
  | closePool (pool : Nat)
  /-- Track at `trace`, or else at `stats`. -/
  | keepRecords (on : Bool)
  | setPoolCapacity (capacity : Nat)
  | setSystem (system : System)
  | setSource (heap : HeapId) (source : Source)

inductive Event where
  | obtained (account : Account) (bytes : Nat)
  | idle
deriving DecidableEq, Repr

/-- The capacity of a pool; of none it is zero. -/
def capacity (machine : Machine) (pool : Nat) : Nat :=
  ((machine.pool? pool).map Pool.capacity).getD 0

/-- The event of a call on a scope that registers a block of a size, known or not. -/
def outcome {α : Type} (scope : Nat) (size : Option Nat) :
    Except Failure α × Machine → Event × Machine
  | (.ok _, machine) => ((size.map (Event.obtained (.scope scope))).getD .idle, machine)
  | (.error _, machine) => (.idle, machine)

def onOpen (machine : Machine) (scope : Nat) (call : Event × Machine) : Event × Machine :=
  if (machine.scope? scope).isSome then call else (.idle, machine)

/-- The event of a change after which a pool may have grown. -/
def growth (before after : Machine) (pool : Nat) : Event :=
  if capacity before pool < capacity after pool then
    .obtained (.pool pool) (capacity after pool - capacity before pool)
  else
    .idle

def perform (machine : Machine) : Command → Event × Machine
  | .openScope heap => (.idle, (machine.openScope heap).2)
  | .alloc scope size =>
      onOpen machine scope (outcome scope (some size) (machine.scopeAlloc scope size))
  | .allocZeroed scope count size =>
      onOpen machine scope
        (outcome scope (some (count * size)) (machine.scopeAllocZeroed scope count size))
  | .register scope block =>
      onOpen machine scope (outcome scope none (machine.scopeRegister scope block))
  | .closeScope scope => (.idle, machine.closeScope scope)
  | .openPool asked =>
      match machine.openPool asked with
      | (.ok pool, after) => (.obtained (.pool pool) (capacity after pool), after)
      | (.error _, after) => (.idle, after)
  | .carve pool size =>
      let after := (machine.poolAlloc pool size).2
      (growth machine after pool, after)
  | .resetPool pool => (.idle, machine.resetPool pool)
  | .closePool pool => (.idle, machine.closePool pool)
  | .keepRecords on =>
      (.idle, { machine with session := machine.session.setTracking (if on then .trace else .stats) })
  | .setPoolCapacity capacity =>
      (.idle, { machine with session := machine.session.setPoolCapacity capacity })
  | .setSystem system => (.idle, { machine with session := { machine.session with system } })
  | .setSource heap source => (.idle, machine.setHeap heap { machine.heap heap with source })

def run (machine : Machine) (commands : List Command) : Run Machine Event :=
  Run.steps (fun run => perform run.state) { state := machine } commands

/-! What a history tells. -/

def Event.bytes : Event → Nat
  | .obtained _ bytes => bytes
  | .idle => 0

def Event.bytesOf (account : Account) : Event → Nat
  | .obtained other bytes => if other = account then bytes else 0
  | .idle => 0

/-- The bytes that were obtained. -/
def total (history : List Event) : Nat :=
  (history.map Event.bytes).sum

/-- The bytes that one scope or pool obtained. -/
def obtained (account : Account) (history : List Event) : Nat :=
  (history.map (Event.bytesOf account)).sum

@[simp]
theorem total_cons (event : Event) (past : List Event) :
    total (event :: past) = event.bytes + total past := by
  simp [total]

@[simp]
theorem obtained_cons (account : Account) (event : Event) (past : List Event) :
    obtained account (event :: past) = event.bytesOf account + obtained account past := by
  simp [obtained]

end Underlay.Accounting
