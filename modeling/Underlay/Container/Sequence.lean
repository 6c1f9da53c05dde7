import Underlay.Memory.Reserve
import Underlay.Slice

/-!
Sequences through capability tables. A sequence answers how many positions it has and what stands
at each; a position may be empty. Every operation returns its result together with the calls that
it made on the table and on its comparator or visitor, in the order in which it made them.
-/

namespace Underlay

structure Sequence (ε : Type) where
  typeName : String
  size : Nat
  at? : Nat → Option ε

namespace Sequence

/-- A call made while an operation runs. -/
inductive Call (ε : Type) where
  | size
  | at (index : Nat)
  | equal (left right : ε)
  | visit (index : Nat) (element : ε)
deriving DecidableEq, Repr

variable {ε : Type}

/-- A sequence of given slots. -/
def ofSlots (typeName : String) (slots : Array (Option ε)) : Sequence ε :=
  { typeName, size := slots.size, at? := fun index => (slots[index]?).join }

/-- A sequence without empty positions. -/
def ofArray (typeName : String) (elements : Array ε) : Sequence ε :=
  { typeName, size := elements.size, at? := fun index => elements[index]? }

def truthy (s : Sequence ε) : Bool :=
  s.size != 0

/-- The failure for an empty position, raised by `operation`. -/
def emptyAt (s : Sequence ε) (index : Nat) (operation : String) : Failure :=
  .raise .index (s.typeName ++ " has no element at index " ++ toString index) operation

/-- The element at an index, which may count from the end. -/
def element (s : Sequence ε) (index : Int) : Except Failure ε × List (Call ε) :=
  match resolveIndex index s.size with
  | .error failure => (.error failure, [.size])
  | .ok position =>
      match s.at? position with
      | some e => (.ok e, [.size, .at position])
      | none => (.error (s.emptyAt position "safe_at"), [.size, .at position])

/-- Look for an element equal to `target` at `count` positions from `index` on, up to the first one
found. -/
def search (s : Sequence ε) (equal : ε → ε → Bool) (target : ε) (index : Nat) :
    Nat → Bool × List (Call ε)
  | 0 => (false, [])
  | count + 1 =>
      match s.at? index with
      | none =>
          let (found, calls) := s.search equal target (index + 1) count
          (found, .at index :: calls)
      | some e =>
          if equal e target then
            (true, [.at index, .equal e target])
          else
            let (found, calls) := s.search equal target (index + 1) count
            (found, .at index :: .equal e target :: calls)

def contains (s : Sequence ε) (equal : ε → ε → Bool) (target : ε) : Bool × List (Call ε) :=
  let (found, calls) := s.search equal target 0 s.size
  (found, .size :: calls)

/-- The elements at `count` positions from `index` on with their positions; empty ones are passed
over. -/
def visitAll (s : Sequence ε) (index : Nat) : Nat → List (Nat × ε) × List (Call ε)
  | 0 => ([], [])
  | count + 1 =>
      let (seen, calls) := s.visitAll (index + 1) count
      match s.at? index with
      | none => (seen, .at index :: calls)
      | some e => ((index, e) :: seen, .at index :: .visit index e :: calls)

/-- Visit every element in order. -/
def enumerate (s : Sequence ε) : List (Nat × ε) × List (Call ε) :=
  let (seen, calls) := s.visitAll 0 s.size
  (seen, .size :: calls)

/-- Compare two sequences at `count` positions from `index` on, up to the first difference. -/
def agree (a b : Sequence ε) (equal : ε → ε → Bool) (index : Nat) :
    Nat → Bool × List (Call ε)
  | 0 => (true, [])
  | count + 1 =>
      match a.at? index, b.at? index with
      | some x, some y =>
          if equal x y then
            let (same, calls) := a.agree b equal (index + 1) count
            (same, .at index :: .at index :: .equal x y :: calls)
          else
            (false, [.at index, .at index, .equal x y])
      | none, none =>
          let (same, calls) := a.agree b equal (index + 1) count
          (same, .at index :: .at index :: calls)
      | _, _ => (false, [.at index, .at index])

/-- Equal sizes, the same positions empty, and equal elements at all others. -/
def equal (a b : Sequence ε) (equal : ε → ε → Bool) : Bool × List (Call ε) :=
  if a.size = b.size then
    let (same, calls) := a.agree b equal 0 a.size
    (same, .size :: .size :: calls)
  else
    (false, [.size, .size])

/-- The elements at the positions of at most `count` steps of a walk, up to the first empty one. -/
def collect (s : Sequence ε) (cursor : Slice.Cursor) :
    Nat → Except Failure (List ε) × List (Call ε)
  | 0 => (.ok [], [])
  | count + 1 =>
      match cursor.next? with
      | none => (.ok [], [])
      | some (index, cursor) =>
          match s.at? index with
          | none => (.error (s.emptyAt index "slice"), [.at index])
          | some e =>
              let (result, calls) := s.collect cursor count
              (result.map (e :: ·), .at index :: calls)

/-- The elements of a slice, in the order in which it visits them, where there is room for them. -/
def slice (s : Sequence ε) (spec : SliceSpec) : Except Failure (List ε) × List (Call ε) :=
  match spec.resolve s.size with
  | .error failure => (.error failure, [.size])
  | .ok resolved =>
      let (result, calls) := s.collect resolved.cursor resolved.length
      (result, .size :: calls)

/-- Bytes of a reference to an element. -/
def referenceSize : Nat := 8

/-- The bytes that a slice reserves: a reference for each position that it visits. -/
def sliceRoom (s : Sequence ε) (spec : SliceSpec) : Nat :=
  match spec.resolve s.size with
  | .error _ => 0
  | .ok resolved => referenceSize * resolved.length

/-- A slice, which reserves its room when it is resolved, before it looks anything up. -/
def materialize (s : Sequence ε) (system : System) (spec : SliceSpec) :
    Course (Except Failure (List ε) × List (Call ε)) :=
  system.reserving (s.sliceRoom spec) (s.slice spec)

/-- The text so far and behind it the elements at `count` positions from `index` on, set off by a
comma from what was shown before them; empty positions are passed over. -/
def renderAll (s : Sequence ε) (element : ε → String) (text : String) (first : Bool) (index : Nat) :
    Nat → String × List (Call ε)
  | 0 => (text, [])
  | count + 1 =>
      match s.at? index with
      | none =>
          let (shown, calls) := s.renderAll element text first (index + 1) count
          (shown, .at index :: calls)
      | some e =>
          let text := (if first then text else text ++ ", ") ++ element e
          let (shown, calls) := s.renderAll element text false (index + 1) count
          (shown, .at index :: calls)

/-- The elements in brackets, separated by commas. -/
def render (s : Sequence ε) (element : ε → String) : String × List (Call ε) :=
  let (shown, calls) := s.renderAll element "[" true 0 s.size
  (shown ++ "]", .size :: calls)

end Sequence

end Underlay
