import Underlay.Machine.Holders
import Underlay.Text.Quoted
import Underlay.Workbench.Views

/-!
Operations of a workbench on shared objects and registries. Their answers tell what happened to
payloads on the way, each happening with a text.
-/

namespace Underlay.Workbench

def happeningText? : Happening String → Option String
  | .released .. => none
  | .destructed _ tag payload children =>
      some ("dtor:" ++ tag ++ ":" ++ payload ++ ":" ++ toString children)
  | .dropped _ payload => some ("drop:" ++ payload)

def happened (value : Json) (happenings : List (Happening String) := []) : Answer :=
  ok value [("events", View.strings (happenings.filterMap happeningText?))]

def object (id : ObjectId) : Bench (Object String) := do
  match (← get).machine.objects.get? id with
  | some object => return object
  | none => throw (.refused "unknown object")

def held (name : String) : Bench (Object String) := do
  object (← known Workbench.holders name)

/-- Give up a holder: whether it was the last, and what happened. -/
def giveUp (id : ObjectId) : Bench (Bool × List (Happening String)) :=
  run fun machine =>
    let (destroyed, happenings, machine) := machine.release id
    ((destroyed, happenings), machine)

/-- Take a named holder; the name is gone. -/
def takeHolder (name : String) : Bench ObjectId := do
  let id ← known Workbench.holders name
  modify fun w => { w with holders := w.holders.erase name }
  return id

/-- Name a holder, give up the one that had the name, and answer with the count of the object
before that. -/
def nameHolder (name : String) (id : ObjectId) : Bench Answer := do
  let count := (← object id).count
  let old := (← get).holders.get? name
  modify fun w => { w with holders := w.holders.set name id }
  match old with
  | none => return happened (.nat count)
  | some old => return happened (.nat count) (← giveUp old).2

/-- A destructor that marks the payload it was run on. -/
def marking (tag : String) : Destructor String :=
  { tag, act := (· ++ "!") }

def share (name payload : String) (tag : Option String) (children : List String) :
    Bench Answer := do
  let children ← children.mapM takeHolder
  nameHolder name (← run (·.share payload (tag.map marking) children))

def retain (name label : String) : Bench Answer := do
  let id ← known Workbench.holders name
  update (·.retain id)
  nameHolder label id

def holderCount (name : String) : Bench Answer := do
  return happened (.nat (← held name).count)

/-- The text of an object as a reader of the program sees it. -/
def objectText (name : String) : Bench Answer := do
  let object ← held name
  return happened (.string ("RefCounted \x7b count: " ++ toString object.count ++
    ", payload: " ++ Text.quote object.payload ++ " \x7d"))

def payload (name : String) : Bench Answer := do
  let object ← held name
  return happened (.object [("name", .string object.payload),
    ("children", .nat object.children.length), ("same", .bool true)])

def sameObject (name other : String) : Bench Answer := do
  return happened (.bool ((← known Workbench.holders name) == (← known Workbench.holders other)))

/-- Give up a named holder; the answer may tell whether it was the last. -/
def releaseHolder (name : String) (telling : Bool) : Bench Answer := do
  let (destroyed, happenings) ← giveUp (← takeHolder name)
  return happened (if telling then .bool destroyed else .null) happenings

def toAddress (name label : String) : Bench Answer := do
  let id ← takeHolder name
  modify fun w => { w with addresses := w.addresses.set label id }
  return happened .null

def ofAddress (name label : String) : Bench Answer := do
  let id ← known Workbench.addresses label
  modify fun w => { w with addresses := w.addresses.erase label }
  nameHolder name id

def cleanupText : Cleanup → String
  | .resource resource => "cleanup:" ++ resource
  | .action tag => "fn:" ++ tag

def cleaned (ran : List Cleanup := []) : Answer :=
  [("events", View.strings (ran.map cleanupText))]

def newRegistry (name : String) : Bench Unit := do
  let id ← run Machine.addRegistry
  modify fun w => { w with registries := w.registries.set name id }

/-- Make a registry; the one that had the name is cleaned up. -/
def replaceRegistry (name : String) : Bench Answer := do
  let old := (← get).registries.get? name
  newRegistry name
  match old with
  | some old => update fun machine => (machine.cleanUp old).2
  | none => pure ()
  return ok .null

def registerCleanup (name : String) (label : Option String) (cleanup : Cleanup) :
    Bench Answer := do
  let id ← known Workbench.registries name
  update (·.register id { name := label, cleanup })
  return ok (.nat ((← get).machine.registry id).length) cleaned

def cleanUp (name : String) : Bench Answer := do
  let id ← known Workbench.registries name
  let ran ← run (·.cleanUp id)
  return ok (.nat ran.length) (cleaned ran)

def registryState (name : String) : Bench Answer := do
  let registry := (← get).machine.registry (← known Workbench.registries name)
  let shown (name : Option String) : String :=
    match name with
    | some name => "Some(" ++ Text.quote name ++ ")"
    | none => "None"
  let debug := "ResourceRegistry \x7b names: [" ++
    ", ".intercalate (registry.names.map shown) ++ "] \x7d"
  return ok (View.size registry.length
    [("names", .array (registry.names.map (Json.ofOption Json.string))),
      ("debug", .string debug)]) cleaned

def closeRegistry (name : String) : Bench Answer := do
  let id ← known Workbench.registries name
  let ran ← run (·.cleanUp id)
  modify fun w => { w with registries := w.registries.erase name }
  return ok .null (cleaned ran)

end Underlay.Workbench
