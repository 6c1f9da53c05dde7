import Underlay.Proofs.Pools.Run
import Underlay.Proofs.Settings.Run

/-!
# Pools beside the cell of their capacity

Pools are opened, filled, reset and closed, while readers and setters are at work on the cell that
holds the capacity of pools opened without one. A pool that asks for no capacity has one that some
reader answered, at whatever time the reader was called and however others got in its way. Every
command leaves one event, which says of each pool whether it grew; a history tells how often.
-/

namespace Underlay.Lifetime

structure Program where
  pools : Run Machine Pools.Event
  /-- The cell of the capacity, with all who work on it. -/
  cell : Run (Interleaving.Cache Nat) (Interleaving.Event Nat) :=
    Interleaving.run Cell.poolCapacity []

inductive Command where
  | pools (command : Pools.Command)
  | cell (command : Interleaving.Command Nat)
  /-- From then on pools that ask for no capacity are opened with what a reader answered. -/
  | adopt (reader : Nat)
  /-- Set the cell, and go by what was set at once. -/
  | setPoolCapacity (capacity : Nat)

namespace Program

def machine (program : Program) : Machine :=
  program.pools.state

def onSession (program : Program) (change : Session → Session) : Program :=
  { program with
    pools := { program.pools with
      state := { program.machine with session := change program.machine.session } } }

def onCell (program : Program) (command : Interleaving.Command Nat) : Program :=
  let act (run : Run (Interleaving.Cache Nat) (Interleaving.Event Nat)) :=
    Interleaving.perform Cell.poolCapacity run.state
  { program with cell := program.cell.step act command }

/-- What a reader has answered. -/
def answer? (reader : Nat) : List (Interleaving.Event Nat) → Option Nat
  | [] => none
  | .answered number answer :: past =>
      if number = reader then some answer else answer? reader past
  | _ :: past => answer? reader past

def advance (program : Program) : Command → Program
  | .pools command => { program with pools := program.pools.step Pools.perform command }
  | .cell command => program.onCell command
  | .adopt reader =>
      match answer? reader program.cell.history with
      | none => program
      | some capacity => program.onSession fun session => { session with poolCapacity := capacity }
  | .setPoolCapacity capacity =>
      (program.onCell (.set capacity)).onSession fun session => session.setPoolCapacity capacity

/-- No pool is open, and pools are opened with the capacity that the environment asks for. -/
def start (machine : Machine) (e : Environment) : Program :=
  { pools :=
      { state := { machine with
          pools := []
          session := { machine.session with poolCapacity := e.settings.poolCapacity } } } }

end Program

/-- Whether a pool has been there throughout and has a larger capacity than before. -/
def grew (before after : Machine) (pool : Nat) : Bool :=
  match before.pool? pool, after.pool? pool with
  | some p, some p' => p.capacity < p'.capacity
  | _, _ => false

/-- An event says of each pool whether it grew. -/
def perform (run : Run Program (Nat → Bool)) (command : Command) : (Nat → Bool) × Program :=
  let after := run.state.advance command
  (grew run.state.machine after.machine, after)

def run (machine : Machine) (e : Environment) (commands : List Command) :
    Run Program (Nat → Bool) :=
  Run.steps perform { state := .start machine e } commands

/-- How often a pool grew. -/
def growths (pool : Nat) (history : List (Nat → Bool)) : Nat :=
  history.countP fun grew => grew pool

theorem growths_cons (pool : Nat) (event : Nat → Bool) (past : List (Nat → Bool)) :
    growths pool (event :: past) = growths pool past + if event pool then 1 else 0 :=
  List.countP_cons

end Underlay.Lifetime
