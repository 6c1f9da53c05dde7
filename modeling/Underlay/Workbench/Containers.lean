import Underlay.Container.Dict
import Underlay.Container.Sequence
import Underlay.Text.Blank
import Underlay.Text.Quoted
import Underlay.Workbench.Views

/-!
Operations of a workbench on containers of texts. Where the calls that an operation makes can be
watched, its answer tells how many there were.
-/

namespace Underlay.Workbench

inductive Comparison where
  | exact
  | caseless
  | beginning
deriving DecidableEq, Repr, Inhabited

namespace Comparison

def ofName? : String → Option Comparison
  | "exact" => some .exact
  | "ascii_ci" => some .caseless
  | "prefix" => some .beginning
  | _ => none

/-- Whether the first text passes for the second. -/
def test : Comparison → String → String → Bool
  | .exact, a, b => a == b
  | .caseless, a, b => a.toList.map Text.lower == b.toList.map Text.lower
  | .beginning, a, b => a.startsWith b

end Comparison

/-! Sequences -/

/-- A sequence of texts, and whether the calls on its table are watched. -/
structure Specimen where
  sequence : Sequence String
  watched : Bool := false

namespace Specimen

def atCalls (s : Specimen) (calls : List (Sequence.Call String) := []) : Answer :=
  if s.watched then [("at_calls", .nat (calls.countP fun call => call matches .at _))] else []

def eqCalls (calls : List (Sequence.Call String)) : Answer :=
  [("eq_calls", .nat (calls.countP fun call => call matches .equal _ _))]

def extent (s : Specimen) : Answer :=
  ok (View.extent s.sequence.size s.sequence.typeName) s.atCalls

def truthy (s : Specimen) : Answer :=
  ok (.bool s.sequence.truthy) s.atCalls

def element (s : Specimen) (index : Int) : Bench Answer :=
  let (result, calls) := s.sequence.element index
  noted result Json.string (s.atCalls calls)

def contains (s : Specimen) (comparison : Comparison) (target : String) : Answer :=
  let (found, calls) := s.sequence.contains comparison.test target
  ok (.bool found) (eqCalls calls ++ s.atCalls calls)

def enumerate (s : Specimen) : Answer :=
  let (seen, calls) := s.sequence.enumerate
  ok (.nat seen.length)
    (("seen", .array (seen.map fun (i, e) => .array [.nat i, .string e])) :: s.atCalls calls)

def equal (a b : Specimen) (comparison : Comparison) : Answer :=
  let (same, calls) := a.sequence.equal b.sequence comparison.test
  ok (.bool same) (eqCalls calls ++ { a with watched := a.watched || b.watched }.atCalls calls)

def slice (s : Specimen) (spec : SliceSpec) : Bench Answer := do
  let (result, calls) ← reach (s.sequence.materialize (← machine').session.system spec)
  noted result View.strings (s.atCalls calls)

/-- The text of a sequence, with its elements as they are or quoted. -/
def render (s : Specimen) (quoted : Bool) : Answer :=
  let (shown, calls) := s.sequence.render (if quoted then Text.quote else id)
  ok (.string shown) (s.atCalls calls)

end Specimen

/-! Mappings and sets -/

/-- How keys are read from an operation and shown in its answer. -/
structure Keys (κ : Type) where
  read : Json → Option κ
  view : κ → Json
  /-- A key in a message of a dictionary. -/
  describe : κ → String
  /-- A key in the text of a mapping. -/
  shown : κ → String

namespace Keys

def text : Keys String where
  read := Json.string?
  view := Json.string
  describe := Text.quote
  shown key := "'" ++ key ++ "'"

def integer : Keys Int where
  read
    | .integer i => some i
    | _ => none
  view := Json.integer
  describe := toString
  shown := toString

variable {κ : Type} (keys : Keys κ)

def table [BEq κ] [ToString κ] (typeName : String) (entries : List (κ × String))
    (phantom : List κ) : Mapping κ String :=
  .table typeName entries phantom fun key => "<" ++ toString key ++ ">"

def extent (m : Mapping κ String) : Answer :=
  ok (View.extent m.size m.typeName)

def lookup (m : Mapping κ String) (key : κ) : Bench Answer :=
  noted (m.lookup key).1 Json.string

def items (m : Mapping κ String) : Answer :=
  ok (.array (m.items.1.map fun (key, value) => .array [keys.view key, .string value]))

/-- Compare mappings; the comparisons may be watched. -/
def equal (a b : Mapping κ String) (comparison : Comparison) (watched : Bool) : Answer :=
  let (same, calls) := a.equal b comparison.test
  let tally := calls.countP fun call => call matches .equal _ _
  ok (.bool same) (if watched then [("eq_calls", .nat tally)] else [])

def render (m : Mapping κ String) : Answer :=
  ok (.string (m.render keys.shown id))

def set [Ord κ] (items : List κ) : Membership κ :=
  (Dict.ofList (items.map fun item => (item, ()))).membership

end Keys

end Underlay.Workbench
