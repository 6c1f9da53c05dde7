import Underlay.Boundary.Containers
import Underlay.Workbench.Calls

/-!
Calls of entry points on containers. Their answers tally the calls that were made back: those for
an element, those for the value of a key, and comparisons.
-/

namespace Underlay.Workbench

/-- A list of numbers, of which some may be null, and the size that it reports. -/
structure PlainList where
  items : Array (Option Int)
  size : Nat
deriving DecidableEq, Repr, Inhabited

/-- Entries by the addresses of their keys, keys that only seem to be there, and the size that is
reported. -/
structure PlainMap where
  entries : List (Nat × Option Int)
  phantom : List Nat
  size : Nat
deriving DecidableEq, Repr, Inhabited

abbrev ListTable := Boundary.SequenceTable PlainList Int

abbrev EntryTable := Boundary.MapTable PlainMap Nat Int

/-- Which callbacks of a table are left out, and the name that it gives. -/
structure TableShape where
  typeName : Option (List UInt8) := none
  dropped : List String := []
deriving DecidableEq, Repr, Inhabited

def TableShape.callback {α : Type} (shape : TableShape) (name : String) (call : α) : Option α :=
  if shape.dropped.contains name then none else some call

def TableShape.listTable (shape : TableShape) : ListTable where
  typeName := shape.typeName
  size := shape.callback "size" PlainList.size
  element := shape.callback "at" fun c i => (c.items[i]?).join

/-- A table for entries. A key is described by a fixed text, if there is one; the text is cut to
the room that there is for it, and its length is told as claimed. -/
def TableShape.entryTable (shape : TableShape)
    (description : Option (List UInt8 × Option Nat)) : EntryTable where
  typeName := shape.typeName
  size := shape.callback "size" PlainMap.size
  contains := shape.callback "contains" fun c key =>
    if c.entries.any fun entry => entry.1 == key then 7
    else if c.phantom.contains key then -1
    else 0
  get := shape.callback "get" fun c key =>
    ((c.entries.find? fun entry => entry.1 == key).map Prod.snd).join
  iterate := shape.callback "iterate" fun c =>
    c.entries.map fun entry => (if entry.1 == 0 then none else some entry.1, entry.2)
  describe := description.bind fun (text, claimed) =>
    let bytes := text.take Boundary.keyRoom
    shape.callback "key_repr" fun _ => { bytes, claimed := claimed.getD bytes.length }
  address := id

/-- Comparisons of numbers, which answer with a number. -/
def comparison? : String → Option (Int → Int → Int)
  | "exact" => some fun a b => if a == b then 1 else 0
  | "mod10" => some fun a b => if a % 10 == b % 10 then -1 else 0
  | _ => none

def tally (at_ get equal : Nat) : Answer :=
  [("calls", View.naturals [at_, get, equal])]

def sequenceTally (calls : List (Sequence.Call Int)) : Answer :=
  tally (calls.countP fun call => call matches .at _) 0
    (calls.countP fun call => call matches .equal _ _)

def mappingTally (calls : List (Mapping.Call Nat Int)) : Answer :=
  tally 0 (calls.countP fun call => call matches .get _)
    (calls.countP fun call => call matches .equal _ _)

/-- The size of a container, by a bare callback that may be missing. -/
def callLength (size : Option Nat) (callback : Bool) : Bench Answer := do
  called (.nat (← run (Boundary.length size (if callback then some id else none)))) (tally 0 0 0)

def callTruthy (size : Option Nat) (callback : Bool) : Bench Answer := do
  called (.integer (← run (Boundary.truthy size (if callback then some id else none))))
    (tally 0 0 0)

def callValue {δ : Type} (tally : List δ → Answer) (made : Except Failure Int × List δ) :
    Bench Answer := do
  let value ← run (Boundary.answerPointer made.1)
  called (Json.ofOption Json.integer value) (tally made.2)

/-- A call that answers with a flag, which is not set if it fails. -/
def callFlag {δ : Type} (tally : List δ → Answer) (made : Except Failure Int × List δ) :
    Bench Answer := do
  called (.integer (← run (Boundary.answer 0 made.1))) (tally made.2)

def callEnumerate (made : Except Failure (List (Nat × Int)) × List (Sequence.Call Int)) :
    Bench Answer := do
  let (result, calls) := made
  let count ← run (Boundary.answerCount result)
  let seen := (result.toOption.getD []).map fun (i, e) => .array [.nat i, .integer e]
  called (.integer count) (("seen", .array seen) :: sequenceTally calls)

def callItems (made : Except Failure (List (Nat × Int)) × List (Mapping.Call Nat Int)) :
    Bench Answer := do
  let (result, calls) := made
  let code ← run (Boundary.answerStatus result)
  let seen := (result.toOption.getD []).map fun (key, e) => .array [.nat key, .integer e]
  called (.nat code) (("seen", .array seen) :: mappingTally calls)

/-- A slice written into an output of so many places. -/
def callSlice (table : Option ListTable) (list : Option PlainList)
    (written : Option Boundary.WrittenSlice) (out : Bool) (capacity : Nat) : Bench Answer := do
  let system := (← machine').session.system
  let (result, calls) ← reach (Boundary.materialize system table list written out capacity)
  let count ← run (Boundary.answerCount result)
  let out := Boundary.written (List.replicate capacity none) result
  called (.integer count)
    (("out", .array (out.map (Json.ofOption Json.integer))) :: sequenceTally calls)

end Underlay.Workbench
