import Underlay.Failure.Kind

/-!
Failures. A failure is a kind, a message and, unless it came without one, a location. A failure
raised by an operation of this library names that operation; the text of a failure puts the kind
in brackets in front and the location in parentheses behind.
-/

namespace Underlay

structure Location where
  file : String
  line : Nat
  function : String
deriving DecidableEq, Repr, Inhabited

namespace Location

/-- The file under which the library reports what its own operations raise. -/
def internalFile : String := "<rust>"

/-- The location of a failure that the operation `function` raises itself. -/
def internal (function : String) : Location :=
  { file := internalFile, line := 0, function }

def render (location : Location) : String :=
  location.file ++ ":" ++ toString location.line ++ " in " ++ location.function

end Location

structure Failure where
  kind : Kind
  message : String
  location : Option Location
deriving DecidableEq, Repr, Inhabited

namespace Failure

/-- A failure raised by the operation `function`. -/
def raise (kind : Kind) (message function : String) : Failure :=
  { kind, message, location := some (.internal function) }

def render (failure : Failure) : String :=
  "[" ++ failure.kind.name ++ "]: " ++ failure.message ++
    match failure.location with
    | some location => " (at " ++ location.render ++ ")"
    | none => ""

@[simp]
theorem raise_kind (kind : Kind) (message function : String) :
    (raise kind message function).kind = kind := rfl

end Failure

end Underlay
