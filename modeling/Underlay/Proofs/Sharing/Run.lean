import Mathlib.Data.List.Perm.Subperm
import Underlay.Proofs.Run
import Underlay.Shared

/-!
# Runs of shared objects

Objects are made, held, turned into addresses and back, and given up in any order. Who holds what
outside of the objects is part of the state: plain handles, and handles that were turned into
addresses. A new object takes its children from the plain handles. A command that uses a handle
that is not there does nothing, for nobody could give it. A handle may be copied wherever it is
seen, so any live object may be retained.
-/

namespace Underlay.Sharing

variable {π : Type}

structure State (π : Type) where
  objects : Objects π := {}
  observer : Observer := {}
  plain : List ObjectId := []
  /-- Handles that are out as addresses. -/
  raw : List ObjectId := []

inductive Command (π : Type) where
  | create (payload : π) (destructor : Option (Destructor π)) (children : List ObjectId)
  | retain (id : ObjectId)
  | release (id : ObjectId)
  /-- Give up a handle and ask for no answer. -/
  | drop (id : ObjectId)
  | intoRaw (id : ObjectId)
  | fromRaw (id : ObjectId)

inductive Event (π : Type) where
  | created (id : ObjectId) (payload : π) (destructor : Option (Destructor π))
      (children : List ObjectId)
  | retained (id : ObjectId)
  /-- A handle was given up. A release answers whether it was the last one. -/
  | gaveUp (id : ObjectId) (answer : Option Bool) (happened : List (Happening π))
  | moved (id : ObjectId)
  | idle

/-- Give up a plain handle: whether it was the last one, and what happened. -/
def giveUp (state : State π) (id : ObjectId) : Bool × List (Happening π) × State π :=
  let (last, objects, observer, happened) := state.objects.release id state.observer
  (last, happened, { state with objects, observer, plain := state.plain.erase id })

def ifHeld (state : State π) (held : Prop) [Decidable held] (call : Event π × State π) :
    Event π × State π :=
  if held then call else (.idle, state)

def perform (state : State π) : Command π → Event π × State π
  | .create payload destructor children =>
      ifHeld state (∀ child ∈ children, children.count child ≤ state.plain.count child) <|
        let (id, objects, observer) :=
          state.objects.create payload destructor children state.observer
        (.created id payload destructor children,
          { state with objects, observer, plain := id :: state.plain.diff children })
  | .retain id =>
      ifHeld state (state.objects.get? id).isSome <|
        let (objects, observer) := state.objects.retain id state.observer
        (.retained id, { state with objects, observer, plain := id :: state.plain })
  | .release id =>
      ifHeld state (id ∈ state.plain) <|
        let (last, happened, state) := giveUp state id
        (.gaveUp id (some last) happened, state)
  | .drop id =>
      ifHeld state (id ∈ state.plain) <|
        let (_, happened, state) := giveUp state id
        (.gaveUp id none happened, state)
  | .intoRaw id =>
      ifHeld state (id ∈ state.plain)
        (.moved id, { state with plain := state.plain.erase id, raw := id :: state.raw })
  | .fromRaw id =>
      ifHeld state (id ∈ state.raw)
        (.moved id, { state with plain := id :: state.plain, raw := state.raw.erase id })

def run (observer : Observer) (commands : List (Command π)) : Run (State π) (Event π) :=
  Run.steps (fun run => perform run.state) { state := { observer } } commands

/-- What happened to objects, in that order. -/
def happenings : List (Event π) → List (Happening π)
  | [] => []
  | .gaveUp _ _ happened :: past => happenings past ++ happened
  | _ :: past => happenings past

end Underlay.Sharing
