import Underlay.Container.Mapping

/-!
Dictionaries: entries in increasing order of their keys, each key once. Of two values that are put
under one key the later stays.
-/

namespace Underlay

/-- Entries in strictly increasing order of their keys. -/
structure Dict (κ υ : Type) where
  entries : List (κ × υ) := []
deriving Repr

namespace Dict

variable {κ υ : Type} [Ord κ]

/-- Put a value under a key among ordered entries, in place of any value it had. -/
def insertInto (key : κ) (value : υ) : List (κ × υ) → List (κ × υ)
  | [] => [(key, value)]
  | entry :: rest =>
      match compare key entry.1 with
      | .lt => (key, value) :: entry :: rest
      | .eq => (key, value) :: rest
      | .gt => entry :: insertInto key value rest

def insert (d : Dict κ υ) (key : κ) (value : υ) : Dict κ υ :=
  { entries := insertInto key value d.entries }

/-- The dictionary of a list of entries; of two values for one key the later stays. -/
def ofList (entries : List (κ × υ)) : Dict κ υ :=
  entries.foldl (fun d entry => d.insert entry.1 entry.2) {}

def get? (d : Dict κ υ) (key : κ) : Option υ :=
  (d.entries.find? fun entry => compare key entry.1 == .eq).map Prod.snd

def mapping (d : Dict κ υ) (describe : κ → String) : Mapping κ υ where
  typeName := "dict"
  size := d.entries.length
  contains key := (d.get? key).isSome
  get? := d.get?
  entries := d.entries
  describe

/-- The keys as a set. -/
def membership (d : Dict κ υ) : Membership κ where
  typeName := "set"
  size := d.entries.length
  contains key := (d.get? key).isSome

end Dict

end Underlay
