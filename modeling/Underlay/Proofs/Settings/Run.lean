import Underlay.Proofs.Run
import Underlay.Settings.Cell

/-!
# Runs of getters and setters

Any number of getters and setters work on one cell. A getter is called at any time, also while
another one reads the environment, and takes its steps one by one, in any order with the steps of
the others; a setter has one step. Getters are known by the order in which they are called. Every
command leaves one event, and a history tells what was set last.
-/

namespace Underlay.Interleaving

open Cell (Reader)

variable {α : Type}

/-- A getter that has been called, and the environment that it would read. -/
structure Getter (α : Type) where
  environment : Environment
  reader : Reader α := .start

structure Cache (α : Type) where
  word : Nat
  getters : List (Getter α) := []

inductive Command (α : Type) where
  | call (environment : Environment)
  /-- The getter of that number takes a step. -/
  | advance (number : Nat)
  | set (a : α)

def Command.advances (number : Nat) : Command α → Bool
  | .advance other => other == number
  | .call _ | .set _ => false

inductive Event (α : Type) where
  | called (number : Nat)
  /-- A getter took a step that was not its last. -/
  | advanced (number : Nat)
  | answered (number : Nat) (answer : α)
  | set (a : α)
  | idle

/-- What was set last. -/
def latest : List (Event α) → Option α
  | [] => none
  | .set a :: _ => some a
  | _ :: past => latest past

/-- The event of a step that led a getter there. -/
def arrival (number : Nat) : Reader α → Event α
  | .done answer => .answered number answer
  | _ => .advanced number

/-- Let a getter take a step. One that has answered takes no more. -/
def advance (c : Cell α) (number : Nat) (cache : Cache α) : Event α × Cache α :=
  match cache.getters[number]? with
  | none => (.idle, cache)
  | some getter =>
      if getter.reader.answer?.isSome then
        (.idle, cache)
      else
        let (reader, word) := getter.reader.step c getter.environment cache.word
        (arrival number reader, { word, getters := cache.getters.set number { getter with reader } })

def perform (c : Cell α) (cache : Cache α) : Command α → Event α × Cache α
  | .call environment =>
      (.called cache.getters.length, { cache with getters := cache.getters ++ [{ environment }] })
  | .advance number => advance c number cache
  | .set a => (.set a, { cache with word := c.word a })

def run (c : Cell α) (commands : List (Command α)) : Run (Cache α) (Event α) :=
  Run.steps (fun run => perform c run.state) { state := { word := c.unresolved } } commands

end Underlay.Interleaving
