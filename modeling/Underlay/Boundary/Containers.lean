import Underlay.Boundary.Failures
import Underlay.Boundary.Slices
import Underlay.Container.Mapping
import Underlay.Container.Sequence

/-!
Entry points for generated code: containers behind capability tables. A table lists callbacks, any
of which may be missing; so may the table, the container, a key or an element. An operation first
checks that everything it needs is there, and makes no call before. An empty position and a null
value are the same thing.
-/

namespace Underlay.Boundary

/-- A table for containers of the type `γ` with elements of the type `ε`. -/
structure SequenceTable (γ ε : Type) where
  typeName : Option (List UInt8)
  size : Option (γ → Nat)
  element : Option (γ → Nat → Option ε)

/-- What a callback that describes a key writes into the buffer it is given, and how many bytes it
says it has written. -/
structure KeyText where
  bytes : List UInt8
  claimed : Nat
deriving DecidableEq, Repr, Inhabited

/-- A table for containers of the type `γ` with keys and values. -/
structure MapTable (γ κ υ : Type) where
  typeName : Option (List UInt8)
  size : Option (γ → Nat)
  contains : Option (γ → κ → Int)
  get : Option (γ → κ → Option υ)
  /-- What iteration hands to a visitor, null keys and values included. -/
  iterate : Option (γ → List (Option κ × Option υ))
  describe : Option (κ → KeyText)
  /-- The address of a key. -/
  address : κ → Nat

/-- The failure for something missing. -/
def invalid (operation : String) : Failure :=
  .raise .value "invalid container or capability table" operation

/-- Demand a part. -/
def demand {α : Type} (operation : String) : Option α → Except Failure α
  | some a => .ok a
  | none => .error (invalid operation)

/-- Room for the text of a key. -/
def keyRoom : Nat := 128

/-- The text of a key. The room behind what was written holds zeros. -/
def KeyText.text (t : KeyText) : String :=
  let buffer := t.bytes.take keyRoom ++ List.replicate (keyRoom - t.bytes.length) 0
  Text.decode (buffer.take t.claimed)

variable {γ ε κ υ : Type}

/-- The sequence of a container that is there. -/
def SequenceTable.sequence (table : SequenceTable γ ε) (size : γ → Nat)
    (element : γ → Nat → Option ε) (container : γ) : Sequence ε where
  typeName := (table.typeName.map textOf).getD "sequence"
  size := size container
  at? := element container

/-- The sequence of a container, if all that it takes is there. -/
def SequenceTable.load (table : Option (SequenceTable γ ε)) (container : Option γ)
    (operation : String) : Except Failure (Sequence ε) := do
  let table ← demand operation table
  let container ← demand operation container
  let size ← demand operation table.size
  let element ← demand operation table.element
  return table.sequence size element container

theorem SequenceTable.load_of_present {table : SequenceTable γ ε} {size : γ → Nat}
    {element : γ → Nat → Option ε} (sized : table.size = some size)
    (reads : table.element = some element) (container : γ) (operation : String) :
    load (some table) (some container) operation = .ok (table.sequence size element container) := by
  simp only [load, demand, bind, Except.bind, sized, reads]
  rfl

/-- The mapping of a container that is there. A missing lookup finds nothing and a missing
iteration meets nothing. -/
def MapTable.mapping (table : MapTable γ κ υ) (size : γ → Nat) (contains : γ → κ → Int)
    (container : γ) : Mapping κ υ where
  typeName := (table.typeName.map textOf).getD "map"
  size := size container
  contains key := contains container key != 0
  get? key := table.get.bind fun get => get container key
  entries :=
    match table.iterate with
    | none => []
    | some iterate => (iterate container).filterMap fun (key, value) => do
        return (← key, ← value)
  describe key :=
    match table.describe with
    | some describe => (describe key).text
    | none => "0x" ++ Lifecycle.hexadecimal 1 (table.address key)

def MapTable.load (table : Option (MapTable γ κ υ)) (container : Option γ) (operation : String) :
    Except Failure (MapTable γ κ υ × Mapping κ υ) := do
  let table ← demand operation table
  let container ← demand operation container
  let size ← demand operation table.size
  let contains ← demand operation table.contains
  return (table, table.mapping size contains container)

theorem MapTable.load_of_present {table : MapTable γ κ υ} {size : γ → Nat}
    {contains : γ → κ → Int} (sized : table.size = some size)
    (asks : table.contains = some contains) (container : γ) (operation : String) :
    load (some table) (some container) operation =
      .ok (table, table.mapping size contains container) := by
  simp only [load, demand, bind, Except.bind, sized, asks]
  rfl

/-- A flag as generated code sees it. -/
def flag (b : Bool) : Int :=
  if b then 1 else 0

/-- A result with the calls made for it, from a check that everything needed is there. -/
def calling {α δ : Type} (checked : Except Failure (Except Failure α × List δ)) :
    Except Failure α × List δ :=
  match checked with
  | .ok (result, calls) => (result, calls)
  | .error failure => (.error failure, [])

/-- Answer with what was found, or with a null pointer. -/
def answerPointer {α : Type} (result : Except Failure α) (machine : Machine) :
    Option α × Machine :=
  answer none (result.map some) machine

/-- Answer with how many there are; minus one stands for a failure. -/
def answerCount {α : Type} (result : Except Failure (List α)) (machine : Machine) :
    Int × Machine :=
  answer (-1) (result.map fun elements => clip elements.length) machine

/-- How many elements a container has, by a bare callback. -/
def length (container : Option γ) (size : Option (γ → Nat)) (machine : Machine) : Nat × Machine :=
  answer 0 (do return (← demand "pyrt_len" size) (← demand "pyrt_len" container)) machine

def truthy (container : Option γ) (size : Option (γ → Nat)) (machine : Machine) : Int × Machine :=
  answer 0 (do
    return flag ((← demand "pyrt_truthy" size) (← demand "pyrt_truthy" container) != 0)) machine

/-- The element at an index, or nothing. -/
def element (table : Option (SequenceTable γ ε)) (container : Option γ) (index : Int) :
    Except Failure ε × List (Sequence.Call ε) :=
  calling do
    let s ← SequenceTable.load table container "pyrt_safe_at"
    return s.element index

/-- The value of a key, or nothing. -/
def lookup (table : Option (MapTable γ κ υ)) (container : Option γ) (key : Option κ) :
    Except Failure υ × List (Mapping.Call κ υ) :=
  calling do
    let (table, m) ← MapTable.load table container "pyrt_safe_get"
    let _ ← demand "pyrt_safe_get" table.get
    return m.lookup (← demand "pyrt_safe_get" key)

def contains (table : Option (MapTable γ κ υ)) (container : Option γ) (key : Option κ) :
    Except Failure Int × List (Mapping.Call κ υ) :=
  calling do
    let (_, m) ← MapTable.load table container "pyrt_contains"
    let key ← demand "pyrt_contains" key
    return (.ok (flag (m.contains key)), [.contains key])

def sequenceContains (table : Option (SequenceTable γ ε)) (container : Option γ)
    (target : Option ε) (equal : Option (ε → ε → Int)) :
    Except Failure Int × List (Sequence.Call ε) :=
  calling do
    let s ← SequenceTable.load table container "pyrt_sequence_contains"
    let equal ← demand "pyrt_sequence_contains" equal
    let target ← demand "pyrt_sequence_contains" target
    let (found, calls) := s.contains (fun a b => equal a b != 0) target
    return (.ok (flag found), calls)

/-- The elements visited, with their positions. -/
def enumerate (table : Option (SequenceTable γ ε)) (container : Option γ) (visitor : Bool) :
    Except Failure (List (Nat × ε)) × List (Sequence.Call ε) :=
  calling do
    let s ← SequenceTable.load table container "pyrt_enumerate"
    let _ ← demand "pyrt_enumerate" (if visitor then some () else none)
    let (seen, calls) := s.enumerate
    return (.ok seen, calls)

def items (table : Option (MapTable γ κ υ)) (container : Option γ) (visitor : Bool) :
    Except Failure (List (κ × υ)) × List (Mapping.Call κ υ) :=
  calling do
    let (table, m) ← MapTable.load table container "pyrt_items"
    let _ ← demand "pyrt_items" (if visitor then some () else none)
    let _ ← demand "pyrt_items" table.iterate
    let (seen, calls) := m.items
    return (.ok seen, calls)

def equal (table : Option (SequenceTable γ ε)) (a b : Option γ)
    (equal : Option (ε → ε → Int)) : Except Failure Int × List (Sequence.Call ε) :=
  calling do
    let left ← SequenceTable.load table a "pyrt_equal"
    let right ← SequenceTable.load table b "pyrt_equal"
    let equal ← demand "pyrt_equal" equal
    let (same, calls) := left.equal right fun x y => equal x y != 0
    return (.ok (flag same), calls)

def mapEqual (table : Option (MapTable γ κ υ)) (a b : Option γ)
    (equal : Option (υ → υ → Int)) : Except Failure Int × List (Mapping.Call κ υ) :=
  calling do
    let (table', left) ← MapTable.load table a "pyrt_map_equal"
    let (_, right) ← MapTable.load table b "pyrt_map_equal"
    let equal ← demand "pyrt_map_equal" equal
    let _ ← demand "pyrt_map_equal" table'.get
    let _ ← demand "pyrt_map_equal" table'.iterate
    let (same, calls) := left.equal right fun x y => equal x y != 0
    return (.ok (flag same), calls)

/-- Write the elements of a slice into an output of `capacity` places, which may be missing. What
is written are the elements returned; a failure writes nothing. -/
def slice (table : Option (SequenceTable γ ε)) (container : Option γ)
    (written : Option WrittenSlice) (out : Bool) (capacity : Nat) :
    Except Failure (List ε) × List (Sequence.Call ε) :=
  calling do
    let s ← SequenceTable.load table container "pyrt_slice"
    let written ← demand "pyrt_slice" written
    let (result, calls) := s.slice written.spec
    let fitted := do
      let elements ← result
      if capacity < elements.length ∨ (!out ∧ !elements.isEmpty) then
        throw (.raise .value ("slice of " ++ toString elements.length ++
          " elements does not fit in " ++ toString capacity) "pyrt_slice")
      else
        return elements
    return (fitted, calls)

/-- The bytes that a slice reserves, if everything that it needs is there. -/
def sliceRoom (table : Option (SequenceTable γ ε)) (container : Option γ)
    (written : Option WrittenSlice) : Nat :=
  match SequenceTable.load table container "pyrt_slice", written with
  | .ok s, some written => s.sliceRoom written.spec
  | _, _ => 0

/-- A slice, which reserves its room before it looks anything up. -/
def materialize (system : System) (table : Option (SequenceTable γ ε)) (container : Option γ)
    (written : Option WrittenSlice) (out : Bool) (capacity : Nat) :
    Course (Except Failure (List ε) × List (Sequence.Call ε)) :=
  system.reserving (sliceRoom table container written)
    (slice table container written out capacity)

/-- Write elements into an output, one behind the other from a place on. -/
def writeFrom (out : List (Option ε)) (place : Nat) : List ε → List (Option ε)
  | [] => out
  | e :: rest => writeFrom (out.set place (some e)) (place + 1) rest

/-- An output behind a slice that was to be written to it. -/
def written (out : List (Option ε)) : Except Failure (List ε) → List (Option ε)
  | .ok elements => writeFrom out 0 elements
  | .error _ => out

/-- Write a slice into an output of `capacity` places. The answer is how many were written, and
what the output holds behind, if there is one. -/
def writeSlice (table : Option (SequenceTable γ ε)) (container : Option γ)
    (spec : Option WrittenSlice) (out : Option (List (Option ε))) (capacity : Nat)
    (machine : Machine) : Int × Option (List (Option ε)) × Machine :=
  let result := (slice table container spec out.isSome capacity).1
  let (count, machine) := answerCount result machine
  (count, out.map fun out => written out result, machine)

end Underlay.Boundary
