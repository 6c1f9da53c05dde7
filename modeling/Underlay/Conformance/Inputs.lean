import Underlay.Container.Dict
import Underlay.Json.Value

/-!
The inputs of a case. They are read by name; an input that is missing or has another form than
the operation needs is refused under its name. Where a text is needed, any value is accepted: a
string stands for itself and everything else for its compact JSON text.
-/

namespace Underlay.Conformance

inductive Refusal where
  | unknownFunction (name : String)
  | badInput (field : String)
deriving DecidableEq, Repr, Inhabited

def Refusal.message : Refusal → String
  | unknownFunction name => "unknown function `" ++ name ++ "`"
  | badInput field => "missing or malformed input `" ++ field ++ "`"

namespace Inputs

def demand {α : Type} (field : String) : Option α → Except Refusal α
  | some a => .ok a
  | none => .error (.badInput field)

def integer (inputs : Json) (field : String) : Except Refusal Int :=
  demand field ((inputs.get? field).bind Json.signed?)

/-- An integer that may be left out or be null. -/
def integer? (inputs : Json) (field : String) : Except Refusal (Option Int) :=
  match inputs.get? field with
  | none | some .null => .ok none
  | some json => demand field (json.signed?.map some)

def size (inputs : Json) (field : String) : Except Refusal Nat :=
  demand field ((inputs.get? field).bind Json.size?)

/-- A list of sizes; a missing one is empty. -/
def sizes (inputs : Json) (field : String) : Except Refusal (List Nat) :=
  match inputs.get? field with
  | none => .ok []
  | some json => demand field (json.array?.bind fun elements => elements.mapM Json.size?)

def textOf : Json → String
  | .string s => s
  | json => json.compact

def text (inputs : Json) (field : String) : Except Refusal String :=
  demand field ((inputs.get? field).map textOf)

def texts (inputs : Json) (field : String) : Except Refusal (List String) :=
  demand field (((inputs.get? field).bind Json.array?).map fun elements => elements.map textOf)

def dict (inputs : Json) (field : String) : Except Refusal (Dict String String) :=
  demand field (((inputs.get? field).bind Json.object?).map fun members =>
    Dict.ofList (members.map fun member => (member.1, textOf member.2)))

end Inputs

end Underlay.Conformance
