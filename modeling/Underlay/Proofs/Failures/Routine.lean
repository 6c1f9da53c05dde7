import Underlay.Machine.Heaps
import Underlay.Machine.Pools
import Underlay.Machine.Scopes
import Underlay.Slice

/-!
# Routines

An operation as the steps that it takes one after the other. A routine works on a scene: a machine
together with what an operation may write to of its caller. It answers, it fails, or it ends the
program where there is no room for what it reserves; and when it fails the scene stays as the steps
before have left it, nothing is taken back. A failure is put into the slot by the step that raises
it and by no other, and a scene remembers every failure that was.
-/

namespace Underlay

/-- Where in a program an operation is called. -/
structure Site where
  file : String
  line : Nat
deriving DecidableEq, Repr, Inhabited

/-- Where the library calls its own operations. -/
def Site.internal : Site where
  file := Location.internalFile
  line := 0

/-- The place of an operation that is called at a site. -/
def Site.location (site : Site) (operation : String) : Location :=
  { file := site.file, line := site.line, function := operation }

/-- The failure as it is raised in an operation that is called at a site. -/
def Failure.calledAt (site : Site) (failure : Failure) : Failure :=
  { failure with location := failure.location.map fun place => site.location place.function }

namespace Failures

/-- A machine with what an operation may write to of its caller. -/
structure Scene (ε : Type) where
  machine : Machine
  /-- The bytes that are copied to, moved in or filled. -/
  bytes : List UInt8 := []
  /-- The slot for a resolved slice. -/
  slice : Option Slice := none
  /-- The places for the elements of a slice. -/
  elements : Option (List (Option ε)) := none
  /-- The failures that were put into the slot, the newest first. -/
  reported : List Failure := []

/-- The steps of an operation that answers with an `α`. -/
structure Routine (ε α : Type) where
  run : Scene ε → Course (Except Failure α × Scene ε)

variable {ε α β : Type}

namespace Scene

def slot (scene : Scene ε) : Slot :=
  scene.machine.slot

def withMachine (scene : Scene ε) (machine : Machine) : Scene ε :=
  { scene with machine }

/-- Put a failure into the slot. -/
def report (scene : Scene ε) (failure : Failure) : Scene ε :=
  { scene.withMachine (scene.machine.setSlot (.ofFailure failure)) with
    reported := failure :: scene.reported }

section

variable (scene : Scene ε) (machine : Machine)

@[simp]
theorem machine_withMachine : (scene.withMachine machine).machine = machine := rfl

@[simp]
theorem withMachine_withMachine (later : Machine) :
    (scene.withMachine machine).withMachine later = scene.withMachine later := rfl

end

end Scene

namespace Routine

instance : Monad (Routine ε) where
  pure a := ⟨fun scene => .reached (.ok a, scene)⟩
  bind routine next := ⟨fun scene =>
    match routine.run scene with
    | .aborted => .aborted
    | .reached (.error failure, after) => .reached (.error failure, after)
    | .reached (.ok a, after) => (next a).run after⟩

/-! The steps that routines are made of. -/

/-- Look something up. -/
def view (read : Scene ε → α) : Routine ε α :=
  ⟨fun scene => .reached (.ok (read scene), scene)⟩

def change (write : Scene ε → Scene ε) : Routine ε Unit :=
  ⟨fun scene => .reached (.ok (), write scene)⟩

def changeMachine (write : Machine → Machine) : Routine ε Unit :=
  change fun scene => scene.withMachine (write scene.machine)

/-- Tell the observer. -/
def observe (note : Observer → Observer) : Routine ε Unit :=
  changeMachine fun machine => machine.observe (note machine.observer)

/-- Fail, and put the failure into the slot. -/
def raise (site : Site) (failure : Failure) : Routine ε α :=
  ⟨fun scene => .reached (.error (failure.calledAt site), scene.report (failure.calledAt site))⟩

/-- Reserve memory, which ends the program where there is no room. -/
def reserve (bytes : Nat) : Routine ε Unit :=
  ⟨fun scene => scene.machine.reserving bytes (.ok (), scene)⟩

/-- Do something more if the routine fails, and fail with the same. -/
def onFailure (routine : Routine ε α) (write : Machine → Machine) : Routine ε α :=
  ⟨fun scene =>
    match routine.run scene with
    | .reached (.error failure, after) =>
        .reached (.error failure, after.withMachine (write after.machine))
    | course => course⟩

/-! What the steps come to. -/

section Runs

variable {scene after : Scene ε} {routine : Routine ε α}

@[simp]
theorem run_pure (a : α) : (pure a : Routine ε α).run scene = .reached (.ok a, scene) := rfl

theorem run_bind (next : α → Routine ε β) :
    (routine >>= next).run scene =
      match routine.run scene with
      | .aborted => .aborted
      | .reached (.error failure, after) => .reached (.error failure, after)
      | .reached (.ok a, after) => (next a).run after := rfl

theorem run_bind_of_ok {a : α} (done : routine.run scene = .reached (.ok a, after))
    (next : α → Routine ε β) : (routine >>= next).run scene = (next a).run after := by
  rw [run_bind, done]

@[simp]
theorem run_view_bind (read : Scene ε → α) (next : α → Routine ε β) :
    (view read >>= next).run scene = (next (read scene)).run scene := rfl

@[simp]
theorem run_change_bind (write : Scene ε → Scene ε) (next : Unit → Routine ε β) :
    (change write >>= next).run scene = (next ()).run (write scene) := rfl

@[simp]
theorem run_changeMachine (write : Machine → Machine) :
    (changeMachine write).run scene =
      .reached (.ok (), scene.withMachine (write scene.machine)) := rfl

@[simp]
theorem run_changeMachine_bind (write : Machine → Machine) (next : Unit → Routine ε β) :
    (changeMachine write >>= next).run scene =
      (next ()).run (scene.withMachine (write scene.machine)) := rfl

@[simp]
theorem run_raise (site : Site) (failure : Failure) :
    (raise site failure : Routine ε α).run scene =
      .reached (.error (failure.calledAt site), scene.report (failure.calledAt site)) := rfl

theorem run_reserve_bind (bytes : Nat) (next : Unit → Routine ε β) :
    (reserve bytes >>= next).run scene =
      if scene.machine.session.system.reserves bytes then (next ()).run scene else .aborted := by
  cases room : scene.machine.session.system.reserves bytes <;>
    simp [run_bind, reserve, Machine.reserving, System.reserving, room]

end Runs

end Routine

end Failures

end Underlay
