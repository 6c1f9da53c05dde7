import Underlay.Json.Reader

/-!
Fixtures: named cases, each an operation with its inputs and the text that it is expected to give,
in sets of one family.
-/

namespace Underlay.Conformance

structure Case where
  name : String
  function : String
  inputs : Json
  expected : String
deriving Repr, Inhabited

structure FixtureSet where
  version : String
  family : String
  cases : List Case
deriving Repr, Inhabited

namespace Case

def shape : Json.Shape :=
  .record [("name", .text), ("function", .text), ("inputs", .any), ("expected_output", .text)]

def json (c : Case) : Json :=
  .object [("name", .string c.name), ("function", .string c.function), ("inputs", c.inputs),
    ("expected_output", .string c.expected)]

def ofJson? (json : Json) : Option Case := do
  return {
    name := ← (← json.get? "name").string?
    function := ← (← json.get? "function").string?
    inputs := ← json.get? "inputs"
    expected := ← (← json.get? "expected_output").string? }

theorem ofJson?_json (c : Case) : ofJson? c.json = some c := rfl

end Case

namespace FixtureSet

def shape : Json.Shape :=
  .record [("version", .text), ("family", .text), ("cases", .list Case.shape)]

def json (set : FixtureSet) : Json :=
  .object [("version", .string set.version), ("family", .string set.family),
    ("cases", .array (set.cases.map Case.json))]

def ofJson? (json : Json) : Option FixtureSet := do
  return {
    version := ← (← json.get? "version").string?
    family := ← (← json.get? "family").string?
    cases := ← (← (← json.get? "cases").array?).mapM Case.ofJson? }

def parse (text : String) : Except Json.Fault FixtureSet := do
  match ofJson? (← Json.parse shape text) with
  | some set => return set
  | none => throw .mistyped

end FixtureSet

end Underlay.Conformance
