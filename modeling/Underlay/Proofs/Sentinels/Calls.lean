import Underlay.Boundary.Containers
import Underlay.Boundary.Handles
import Underlay.Boundary.Memory

/-!
# Calls that answer with a reserved value

Generated code learns of a failure by a value that is reserved for it: minus one, a null pointer,
or a status that is not zero. `Reply` keeps of an answer what decides this. A call may be made with
any arguments, with three provisos: an index is a signed position, a slice whose positions are
asked for came out of resolving one, and an object whose payload is asked for is still held.
-/

namespace Underlay.Sentinels

/-- What an entry point answers; of a pointer, whether it is there. -/
inductive Reply where
  | number (value : Int)
  | pointer (present : Bool)
  | status (code : Nat)
deriving DecidableEq, Repr

/-- Whether a reply is the value that is reserved for failures. -/
def Reply.reserved : Reply → Bool
  | .number value => value == -1
  | .pointer present => !present
  | .status code => code != Kind.ok.code

section

variable (γ ε κ υ : Type)

/-- A call of an entry point with a reserved value, on containers of the type `γ`. -/
inductive Call where
  | normalizeIndex (index : Int) (length : Nat)
  | normalizeSlice (slice : Option Boundary.WrittenSlice) (length : Nat) (out : Option Slice)
  | progressionLength (start stop step : Int)
  | progressionContains (start stop step value : Int)
  | slicePosition (slice : Option Slice) (place : Nat)
  | element (table : Option (Boundary.SequenceTable γ ε)) (container : Option γ) (index : Int)
  | lookup (table : Option (Boundary.MapTable γ κ υ)) (container : Option γ) (key : Option κ)
  | enumerate (table : Option (Boundary.SequenceTable γ ε)) (container : Option γ)
      (visitor : Bool)
  | items (table : Option (Boundary.MapTable γ κ υ)) (container : Option γ) (visitor : Bool)
  | slice (table : Option (Boundary.SequenceTable γ ε)) (container : Option γ)
      (written : Option Boundary.WrittenSlice) (out : Bool) (capacity : Nat)
  | malloc (size : Nat)
  | calloc (count size : Nat)
  | realloc (block : Option BlockId) (size : Nat)
  | copy (dest : Option Boundary.Place) (destSize : Nat) (src : Option Boundary.Place)
      (srcSize : Nat) (overlapping : Bool)
  | fill (dest : Option BlockId) (value : Int) (count destSize : Nat)
  | copyText (text : Option (List UInt8))
  | counters (out : Bool)
  | scopeAlloc (scope : Option Nat) (size : Nat)
  | scopeAllocZeroed (scope : Option Nat) (count size : Nat)
  | scopeRegister (scope : Option Nat) (block : Option BlockId)
  | newPool (capacity : Nat)
  | poolAlloc (pool : Option Nat) (size : Nat)
  | newObject (size : Nat) (destructor : Option (Destructor Block))
  | retain (object : Option ObjectId)
  | payload (object : Option ObjectId) (written : List UInt8)
  | register (registry : Option RegistryId) (resource : Option Nat) (cleanup : Bool)
      (name : Option (List UInt8))

end

def number (call : Int × Machine) : Reply × Machine :=
  (.number call.1, call.2)

def pointer {α : Type} (call : Option α × Machine) : Reply × Machine :=
  (.pointer call.1.isSome, call.2)

def status (call : Nat × Machine) : Reply × Machine :=
  (.status call.1, call.2)

variable {γ ε κ υ : Type}

def perform (call : Call γ ε κ υ) (machine : Machine) : Reply × Machine :=
  match call with
  | .normalizeIndex index length => number (Boundary.normalizeIndex index length machine)
  | .normalizeSlice slice length out =>
      let (code, _, after) := Boundary.normalizeSlice slice length out machine
      status (code, after)
  | .progressionLength start stop step =>
      number (Boundary.progressionLength start stop step machine)
  | .progressionContains start stop step value =>
      number (Boundary.progressionContains start stop step value machine)
  | .slicePosition slice place => number (Boundary.slicePosition slice place machine)
  | .element table container index =>
      pointer (Boundary.answerPointer (Boundary.element table container index).1 machine)
  | .lookup table container key =>
      pointer (Boundary.answerPointer (Boundary.lookup table container key).1 machine)
  | .enumerate table container visitor =>
      number (Boundary.answerCount (Boundary.enumerate table container visitor).1 machine)
  | .items table container visitor =>
      status (Boundary.answerStatus (Boundary.items table container visitor).1 machine)
  | .slice table container written out capacity =>
      number (Boundary.answerCount (Boundary.slice table container written out capacity).1 machine)
  | .malloc size => pointer (Boundary.malloc size machine)
  | .calloc count size => pointer (Boundary.calloc count size machine)
  | .realloc block size => pointer (Boundary.realloc block size machine)
  | .copy dest destSize src srcSize overlapping =>
      status (Boundary.copy dest destSize src srcSize overlapping machine)
  | .fill dest value count destSize => status (Boundary.fill dest value count destSize machine)
  | .copyText text => pointer (Boundary.copyText text machine)
  | .counters out =>
      let (code, _, after) := Boundary.counters out machine
      status (code, after)
  | .scopeAlloc scope size => pointer (Boundary.scopeAlloc scope size machine)
  | .scopeAllocZeroed scope count size =>
      pointer (Boundary.scopeAllocZeroed scope count size machine)
  | .scopeRegister scope block => status (Boundary.scopeRegister scope block machine)
  | .newPool capacity => pointer (Boundary.newPool capacity machine)
  | .poolAlloc pool size => pointer (Boundary.poolAlloc pool size machine)
  | .newObject size destructor => pointer (Boundary.newObject size destructor machine)
  | .retain object => pointer (Boundary.retain object machine)
  | .payload object written => pointer (Boundary.payload object written machine)
  | .register registry resource cleanup name =>
      status (Boundary.register registry resource cleanup name machine)

/-- What a caller has to see to. -/
def Call.Proper (machine : Machine) : Call γ ε κ υ → Prop
  | .normalizeIndex index _ => Word.least ≤ index ∧ index ≤ Word.greatest
  | .slicePosition (some resolved) _ =>
      ∃ (written : Option Boundary.WrittenSlice) (length : Nat) (out : Slice) (earlier : Machine),
        (Boundary.normalizeSlice written length (some out) earlier).1 = Kind.ok.code ∧
          (Boundary.normalizeSlice written length (some out) earlier).2.1 = some resolved
  | .payload (some object) _ => (machine.cells.get? object).isSome
  | _ => True

/-- Resizing to nothing answers with a null pointer too. -/
def Call.releases : Call γ ε κ υ → Bool
  | .realloc _ size => size == 0
  | _ => false

section Recording

variable (call : Machine → Reply × Machine) (machine : Machine)

/-- Whatever the slot holds before the call, it holds the failure behind it. -/
def Records (failure : Failure) : Prop :=
  failure.kind ≠ .ok ∧ ∀ slot, (call (machine.setSlot slot)).2.slot = .ofFailure failure

/-- Whatever the slot holds before the call, it holds the same behind it. -/
def Quiet : Prop :=
  ∀ slot, (call (machine.setSlot slot)).2.slot = slot

end Recording

end Underlay.Sentinels
