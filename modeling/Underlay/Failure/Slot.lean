import Underlay.Failure

/-!
The slot of the last failure. It is overwritten by each failure and by `set`, and emptied by
`clear`; nothing else changes it. A stored message is the longest beginning of the given one that
takes at most `Slot.capacity` bytes.
-/

namespace Underlay

/-- The last place at or before the byte `start` at which a character of `text` begins or the text
ends, searched backwards. There is none if the search passes the start of the text. -/
def boundary? (text : String) (start : Nat) : Option text.Pos :=
  if valid : (String.Pos.Raw.mk start).IsValid text then
    some (text.pos ⟨start⟩ valid)
  else
    match start with
    | 0 => none
    | before + 1 => boundary? text before

structure Slot where
  code : Kind := .ok
  message : String := ""
  location : Option Location := none
deriving DecidableEq, Repr, Inhabited

namespace Slot

/-- Bytes of message that a slot can hold. -/
def capacity : Nat := 511

/-- The part of a message that a slot keeps: all of it if there is room, and otherwise what stands
before the last boundary that there is room for. -/
def trim (message : String) : String :=
  if message.utf8ByteSize ≤ capacity then
    message
  else
    match boundary? message capacity with
    | some stop => (message.sliceTo stop).copy
    | none => ""

def set (code : Kind) (message : String) (location : Option Location) : Slot :=
  { code, message := trim message, location }

/-- What the slot holds after a failure. -/
def ofFailure (failure : Failure) : Slot :=
  set failure.kind failure.message failure.location

def clear : Slot := {}

def hasFailure (slot : Slot) : Bool :=
  !slot.code.isOk

/-- The pending failure. -/
def failure? (slot : Slot) : Option Failure :=
  if slot.hasFailure then
    some { kind := slot.code, message := slot.message, location := slot.location }
  else
    none

def render? (slot : Slot) : Option String :=
  slot.failure?.map Failure.render

/-- The slot after an operation that gave `result`: a failure is stored, a success is not. -/
def after {α : Type} (slot : Slot) : Except Failure α → Slot
  | .ok _ => slot
  | .error failure => ofFailure failure

@[simp]
theorem after_ok {α : Type} (slot : Slot) (a : α) : slot.after (.ok a) = slot := rfl

@[simp]
theorem after_error {α : Type} (slot : Slot) (failure : Failure) :
    slot.after (.error failure : Except Failure α) = ofFailure failure := rfl

end Slot

end Underlay
