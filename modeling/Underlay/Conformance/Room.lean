import Underlay.Conformance.Execution
import Underlay.Conformance.Fixture
import Underlay.Memory.Reserve

/-!
The room that cases need. Where the inputs of a case ask for a destination, for recorded blocks, for
holders or for a listing, by a number and not by what they hold themselves, the program reserves
vectors of that many places. It has no verdict on a case for which it has no room.
-/

namespace Underlay.Conformance

namespace Execution

/-- Bytes of a place for a text in a listing. -/
def textPlace : Nat := 24

/-- Bytes of a place for a holder. -/
def holderPlace : Nat := 8

/-- A listing whose length is known beforehand is reserved at once. -/
def listing (count : Nat) : List Nat :=
  if count = 0 then [] else [textPlace * max 4 count]

/-- The vectors of a result, if the inputs lead to one. -/
def ofResult {α : Type} (result : Except Refusal (Except Failure α)) (vectors : α → List Nat) :
    List Nat :=
  match result with
  | .ok (.ok a) => vectors a
  | _ => []

/-- The recorded blocks of a scope: up to the first size of zero, and as many as the budget lets
through. -/
def recorded (sizes : List Nat) (budget : Option Nat) : List Nat :=
  let served := sizes.takeWhile (· != 0)
  match budget with
  | none => served
  | some budget => served.take budget

end Execution

open Execution in
/-- The sizes in bytes of the vectors that an operation reserves at the word of its inputs. -/
def Operation.vectors (operation : Operation) (inputs : Json) : List Nat :=
  match operation with
  | resolveSlice =>
      ofResult (α := Slice) (do
        let length ← Inputs.size inputs "length"
        let spec ← sliceSpec inputs
        return spec.resolve length) fun slice => listing slice.length
  | progression =>
      ofResult (α := Progression) (do
        let start ← Inputs.integer? inputs "start"
        let step ← Inputs.integer? inputs "step"
        let stop ← Inputs.integer inputs "stop"
        return Progression.make (start.getD 0) stop (step.getD 1))
        fun p => System.growing textPlace p.count
  | scope =>
      ((scopeRequests inputs).toOption.map fun (sizes, budget) => recorded sizes budget).getD []
  | doubleRegistration => [16]
  | shared =>
      ((Inputs.size inputs "retains").toOption.map fun retains =>
        holderPlace ::
          System.growing holderPlace (if retains = 0 then 0 else retains + 1)).getD []
  | copy => (Inputs.size inputs "dest_size").toOption.toList
  | _ => []

/-- The sizes in bytes of the vectors that a case asks for. -/
def Case.vectors (c : Case) : List Nat :=
  match Operation.ofName? c.function with
  | none => []
  | some operation => operation.vectors c.inputs

/-- Whether the program has room for a case. -/
def Case.fits (c : Case) (system : System) : Bool :=
  c.vectors.all system.reserves

def FixtureSet.fits (set : FixtureSet) (system : System) : Bool :=
  set.cases.all (Case.fits · system)

end Underlay.Conformance
