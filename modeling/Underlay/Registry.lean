import Underlay.Observer

/-!
Registries. A registry keeps cleanups until they are run; running them empties it, the newest
first. Each cleanup runs once, on the resource that it was registered with.
-/

namespace Underlay

/-- What a cleanup disposes of: a resource, or nothing but its own tag. -/
inductive Cleanup where
  | resource (resource : String)
  | action (tag : String)
deriving DecidableEq, Repr, Inhabited

namespace Registry

structure Entry where
  name : Option String
  cleanup : Cleanup
  /-- What the cleanup reports to the observer while it runs. -/
  reports : List Lifecycle.Event := []
deriving DecidableEq, Repr, Inhabited

def Entry.label (e : Entry) : String :=
  "name=" ++ e.name.getD "-"

end Registry

structure Registry where
  /-- What has not been run, the newest first. -/
  pending : List Registry.Entry := []
deriving DecidableEq, Repr, Inhabited

namespace Registry

def register (r : Registry) (entry : Entry) (o : Observer) : Registry × Observer :=
  let r : Registry := { pending := entry :: r.pending }
  (r, o.emit
    { component := "registry", name := "register",
      details := entry.label ++ " live=" ++ toString r.pending.length })

def runAll : List Entry → Observer → List Cleanup × Observer
  | [], o => ([], o)
  | entry :: rest, o =>
      let o := o.emit { component := "registry", name := "cleanup", details := entry.label }
      let (ran, o) := runAll rest (entry.reports.foldl Observer.emit o)
      (entry.cleanup :: ran, o)

/-- Run every pending cleanup; the ones that ran are returned in the order in which they ran. -/
def cleanup (r : Registry) (o : Observer) : List Cleanup × Registry × Observer :=
  let (ran, o) := runAll r.pending o
  (ran, {}, o)

/-- The names of what is pending, in the order of registration. -/
def names (r : Registry) : List (Option String) :=
  r.pending.reverse.map Entry.name

def length (r : Registry) : Nat :=
  r.pending.length

theorem ran_runAll (entries : List Entry) (o : Observer) :
    (runAll entries o).1 = entries.map Entry.cleanup := by
  induction entries generalizing o with
  | nil => rfl
  | cons entry rest inductionHypothesis =>
      simp only [runAll, inductionHypothesis, List.map_cons]

@[simp]
theorem ran_cleanup (r : Registry) (o : Observer) :
    (r.cleanup o).1 = r.pending.map Entry.cleanup :=
  ran_runAll r.pending o

end Registry

end Underlay
