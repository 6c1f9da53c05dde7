import Underlay.Conformance.Difference
import Underlay.Conformance.Execution
import Underlay.Conformance.Fixture

/-!
Verdicts. A case passes if its operation gives exactly the expected text. A case that cannot be
executed gives `harness:` and the reason, and passes only if just that is expected.
-/

namespace Underlay.Conformance

structure Verdict where
  caseName : String
  family : String
  function : String
  passed : Bool
  expected : String
  actual : String
  difference : Option String
deriving DecidableEq, Repr, Inhabited

namespace Verdict

def json (v : Verdict) : Json :=
  .object [("case_name", .string v.caseName), ("family", .string v.family),
    ("function", .string v.function), ("passed", .bool v.passed),
    ("expected", .string v.expected), ("actual", .string v.actual),
    ("diff", Json.ofOption Json.string v.difference)]

end Verdict

/-- The text that an execution is taken to give. -/
def given (result : Except Refusal String) : String :=
  match result with
  | .ok text => text
  | .error refusal => "harness:" ++ refusal.message

/-- The verdict on a case whose execution gave a result. -/
def Case.judge (c : Case) (family : String) (result : Except Refusal String) : Verdict :=
  let actual := given result
  let passed := actual == c.expected
  { caseName := c.name, family, function := c.function, passed, expected := c.expected, actual,
    difference := if passed then none else some (difference c.expected actual) }

def Case.verify (c : Case) (family : String) (s : Session) : Verdict × Session :=
  let (result, s) := execute c.function c.inputs s
  (c.judge family result, s)

def verifyAll (family : String) : List Case → Session → List Verdict × Session
  | [], s => ([], s)
  | c :: rest, s =>
      let (verdict, s) := c.verify family s
      let (verdicts, s) := verifyAll family rest s
      (verdict :: verdicts, s)

def FixtureSet.verify (set : FixtureSet) (s : Session) : List Verdict × Session :=
  verifyAll set.family set.cases s

def passedCount (verdicts : List Verdict) : Nat :=
  verdicts.countP Verdict.passed

def failedCount (verdicts : List Verdict) : Nat :=
  verdicts.length - passedCount verdicts

def allPassed (verdicts : List Verdict) : Bool :=
  failedCount verdicts == 0

end Underlay.Conformance
