import Underlay.Failure.System
import Underlay.Machine
import Underlay.Text.Utf8

/-!
Entry points for generated code: the slot of the last failure. Texts come as bytes up to the first
zero byte, and as nothing for a null pointer; bytes that are no text are replaced.
-/

namespace Underlay.Boundary

/-- A zero-terminated text. -/
def textOf (bytes : List UInt8) : String :=
  Text.decode (Text.terminated bytes)

/-- The kind of a number; numbers of no kind are generic. -/
def kindOfCode (code : Int) : Kind :=
  (Kind.ofCode? code).getD .generic

/-- A location, if a file is given. A line that is no line number counts as line zero. -/
def locationOf (file : Option (List UInt8)) (line : Int) (function : Option (List UInt8)) :
    Option Location :=
  file.map fun file =>
    { file := textOf file, line := line.toNat, function := (function.map textOf).getD "?" }

/-- Overwrite the slot. -/
def setFailure (code : Int) (message : Option (List UInt8)) (location : Option Location)
    (machine : Machine) : Machine :=
  machine.setSlot (.set (kindOfCode code) ((message.map textOf).getD "") location)

/-- The message of the slot as generated code sees it: without zero characters. -/
def message (machine : Machine) : String :=
  String.ofList (machine.slot.message.toList.filter (· != '\x00'))

def hasFailure (machine : Machine) : Nat :=
  if machine.slot.hasFailure then 1 else 0

end Underlay.Boundary
