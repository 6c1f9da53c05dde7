import Underlay.Boundary.Handles
import Underlay.Proofs.Run
import Underlay.Proofs.Sharing.Cascade

/-!
# Runs of objects behind handles

Generated code makes objects, adds and gives up holders, counts them and writes to their payloads,
in any order and over any number of objects. A handle does not say who holds it, so the history has
to: a handle is live as long as it was given up less often than it was made and retained. A command
on a handle that is not live does nothing, for nobody may use such a handle. For every object the
history keeps an account, and the state of the object is the one that the account tells.
-/

namespace Underlay.Cells

inductive Command where
  | create (size : Nat) (destructor : Option (Destructor Block))
  | retain (handle : Option ObjectId)
  | release (handle : Option ObjectId)
  | count (handle : Option ObjectId)
  /-- Ask for the payload and write bytes to its front. -/
  | data (handle : Option ObjectId) (written : List UInt8)

inductive Event where
  | created (id : ObjectId) (size : Nat) (destructor : Option (Destructor Block))
  | retained (id : ObjectId)
  | released (id : ObjectId) (happened : List (Happening Block))
  | wrote (id : ObjectId) (written : List UInt8)
  | idle

/-! What a history tells. -/

/-- What was done with an object since it was made. -/
structure Account where
  size : Nat
  destructor : Option (Destructor Block)
  retains : Nat := 0
  releases : Nat := 0
  /-- What was written to the front of the payload, the oldest first. -/
  writes : List (List UInt8) := []

namespace Account

def Live (a : Account) : Prop :=
  a.releases < 1 + a.retains

instance (a : Account) : Decidable a.Live :=
  inferInstanceAs (Decidable (a.releases < 1 + a.retains))

def retain (a : Account) : Account :=
  { a with retains := a.retains + 1 }

def release (a : Account) : Account :=
  { a with releases := a.releases + 1 }

def write (written : List UInt8) (a : Account) : Account :=
  { a with writes := a.writes ++ [written] }

/-- The payload takes whole units, begins as zeros, and holds what was written since. -/
def payload (a : Account) : Block :=
  { size := Boundary.payloadRoom a.size
    memory := a.writes.foldl (fun memory written => memory.write 0 written.toArray) (.filled 0) }

/-- What the payload shows. -/
def bytes (a : Account) : List UInt8 :=
  a.payload.memory.read 0 a.payload.size

def object (a : Account) : Object Block :=
  { count := 1 + a.retains - a.releases, payload := a.payload, destructor := a.destructor }

/-- What is left of the object. -/
def object? (a : Account) : Option (Object Block) :=
  if a.Live then some a.object else none

/-- How often the destructor has run. -/
def runs (a : Account) : Nat :=
  if a.destructor.isSome ∧ ¬ a.Live then 1 else 0

end Account

/-- What an event adds to the account of an object. -/
def Event.tell (id : ObjectId) : Event → Option Account → Option Account
  | .created other size destructor, a => if other = id then some { size, destructor } else a
  | .retained other, a => if other = id then a.map Account.retain else a
  | .released other _, a => if other = id then a.map Account.release else a
  | .wrote other written, a => if other = id then a.map (Account.write written) else a
  | .idle, a => a

def account (id : ObjectId) (history : List Event) : Option Account :=
  history.foldr (Event.tell id) none

/-- What happened to objects, in that order. -/
def happenings : List Event → List (Happening Block)
  | [] => []
  | .released _ happened :: past => happenings past ++ happened
  | _ :: past => happenings past

/-! What a command does. -/

def onLive (run : Run Machine Event) (id : ObjectId) (call : Event × Machine) : Event × Machine :=
  if (account id run.history).any (decide <| Account.Live ·) then call else (.idle, run.state)

def perform (run : Run Machine Event) : Command → Event × Machine
  | .create size destructor =>
      let (handle, machine) := Boundary.newObject size destructor run.state
      (handle.elim .idle (.created · size destructor), machine)
  | .retain none => (.idle, (Boundary.retain none run.state).2)
  | .retain (some id) => onLive run id (.retained id, (Boundary.retain (some id) run.state).2)
  | .release none => (.idle, (Boundary.release none run.state).2.2)
  | .release (some id) =>
      onLive run id <|
        let (_, happened, machine) := Boundary.release (some id) run.state
        (.released id happened, machine)
  | .count _ => (.idle, run.state)
  | .data none written => (.idle, (Boundary.payload none written run.state).2)
  | .data (some id) written =>
      onLive run id (.wrote id written, (Boundary.payload (some id) written run.state).2)

def run (machine : Machine) (commands : List Command) : Run Machine Event :=
  Run.steps perform { state := machine } commands

/-! What the calls do to a live object. -/

namespace Account

/-- What happens when a holder is given up. The destructor runs on the payload as it is. -/
def farewell (id : ObjectId) (a : Account) : List (Happening Block) :=
  if a.releases = a.retains then
    .released id 0 :: a.destructor.elim [.dropped id a.payload] fun destructor =>
      [.destructed id destructor.tag a.payload 0, .dropped id (destructor.act a.payload)]
  else
    [.released id (a.retains - a.releases)]

variable {a : Account}

theorem live_retain (live : a.Live) : a.retain.Live :=
  Nat.lt_succ_of_lt live

theorem object?_of_live (live : a.Live) : a.object? = some a.object :=
  if_pos live

theorem object?_retain (live : a.Live) :
    a.retain.object? = some { a.object with count := a.object.count + 1 } := by
  have count : 1 + (a.retains + 1) - a.releases = 1 + a.retains - a.releases + 1 := by
    unfold Live at live
    omega
  rw [object?_of_live (live_retain live), object, retain, count]
  rfl

theorem object?_release (live : a.Live) :
    a.release.object? =
      if a.releases = a.retains then none
      else some { a.object with count := a.object.count - 1 } := by
  unfold Live at live
  split
  · exact if_neg (show ¬ a.releases + 1 < 1 + a.retains by omega)
  · exact if_pos (show a.releases + 1 < 1 + a.retains by omega)

/-- A look at the payload writes nothing. -/
theorem bytes_write_nil (a : Account) : (a.write []).bytes = a.bytes := by
  have same : (a.write []).payload.memory = a.payload.memory := by
    have nothing (memory : Memory) : memory.write 0 #[] = memory :=
      funext fun i => Memory.write_apply_outside (.inr (Nat.zero_le i))
    exact List.foldl_append.trans (nothing _)
  rw [bytes, same]
  rfl

/-- What was not written is still zero. -/
theorem memory_payload_eq_zero {i : Nat} (untouched : ∀ written ∈ a.writes, written.length ≤ i) :
    a.payload.memory i = 0 := by
  have kept (writes : List (List UInt8)) (untouched : ∀ written ∈ writes, written.length ≤ i)
      (memory : Memory) :
      writes.foldl (fun memory written => memory.write 0 written.toArray) memory i = memory i := by
    induction writes generalizing memory with
    | nil => rfl
    | cons written rest inductionHypothesis =>
        obtain ⟨short, others⟩ := List.forall_mem_cons.mp untouched
        rw [List.foldl_cons, inductionHypothesis others]
        exact Memory.write_apply_outside (.inr (by simpa using short))
  exact kept a.writes untouched (.filled 0)

theorem runs_of_live (live : a.Live) : a.runs = 0 :=
  if_neg fun ended => ended.2 live

theorem count_destructed_farewell (live : a.Live) (id other : ObjectId) :
    (Objects.destructed (a.farewell id)).count other =
      if other = id then a.release.runs else 0 := by
  by_cases last : a.releases = a.retains
  · have dead : ¬ a.release.Live := by
      show ¬ a.releases + 1 < 1 + a.retains
      omega
    cases declared : a.destructor with
    | none => simp [farewell, runs, release, last, declared]
    | some destructor =>
        have ran : a.release.runs = 1 := if_pos ⟨by simp [release, declared], dead⟩
        have once : Objects.destructed (a.farewell id) = [id] := by
          rw [farewell, if_pos last, declared]
          rfl
        rw [once, ran, List.count_singleton]
        simp only [beq_iff_eq, eq_comm (a := id)]
  · have alive : a.release.Live := by
      unfold Live at live
      show a.releases + 1 < 1 + a.retains
      omega
    rw [runs_of_live alive, ite_self, farewell, if_neg last]
    rfl

end Account

section Calls

variable {machine : Machine} {id : ObjectId} {a : Account}

theorem newObject_of_reserved {size : Nat}
    (reserved : machine.session.system.reserves (Boundary.payloadRoom size) = true)
    (destructor : Option (Destructor Block)) :
    ∃ o cells, Boundary.newObject size destructor machine =
        (some machine.cells.slots.length, { machine.observe o with cells }) ∧
      cells.slots.length = machine.cells.slots.length + 1 ∧
      ∀ id, cells.get? id =
        if id = machine.cells.slots.length then ({ size, destructor } : Account).object?
        else machine.cells.get? id := by
  let made := machine.cells.create ({ size, destructor } : Account).payload destructor []
    machine.observer
  refine ⟨made.2.2, made.2.1, ?_, List.length_append, fun id => ?_⟩
  · rw [Boundary.newObject, if_pos reserved]
    rfl
  · rw [Objects.get?_create]
    rfl

theorem newObject_of_refused {size : Nat}
    (refused : ¬ machine.session.system.reserves (Boundary.payloadRoom size) = true)
    (destructor : Option (Destructor Block)) :
    ∃ failure, Boundary.newObject size destructor machine =
      (none, machine.note (.error failure : Except Failure ObjectId)) := by
  rw [Boundary.newObject, if_neg refused]
  exact ⟨_, rfl⟩

theorem cells_retain (present : machine.cells.get? id = a.object?) (live : a.Live) :
    (Boundary.retain (some id) machine).2.cells = machine.cells.set id a.retain.object? := by
  rw [a.object?_of_live live] at present
  simp only [Boundary.retain, Boundary.requireObject, Objects.retain, present,
    Account.object?_retain live]

theorem payload_eq (present : machine.cells.get? id = a.object?) (live : a.Live)
    (written : List UInt8) :
    Boundary.payload (some id) written machine =
      (some (a.write written).bytes,
        { machine with cells := machine.cells.set id (a.write written).object? }) := by
  have still : (a.write written).Live := live
  rw [a.object?_of_live live] at present
  have memory : (a.write written).payload.memory = a.payload.memory.write 0 written.toArray :=
    List.foldl_append
  have bytes : (a.write written).bytes =
      (a.payload.memory.write 0 written.toArray).read 0 a.payload.size := by
    rw [Account.bytes, memory]
    rfl
  have object : (a.write written).object = { a.object with
      payload := { a.payload with memory := a.payload.memory.write 0 written.toArray } } := by
    rw [← memory]
    rfl
  simp only [Boundary.payload, Boundary.requireObject, present, Account.object?_of_live still,
    object, bytes]
  rfl

theorem release_eq (present : machine.cells.get? id = a.object?) (live : a.Live) :
    ∃ o, Boundary.release (some id) machine =
      (decide (a.releases = a.retains), a.farewell id,
        { machine.observe o with
          cells := machine.cells.set id a.release.object? }) := by
  rw [a.object?_of_live live] at present
  simp only [Boundary.release, Boundary.requireObject, Account.object?_release live,
    Account.farewell]
  unfold Account.Live at live
  by_cases last : a.releases = a.retains
  · have one : a.object.count = 1 := by
      simp only [Account.object]
      omega
    have ends : Objects.ending id a.object =
        a.destructor.elim [.dropped id a.payload] fun destructor =>
          [.destructed id destructor.tag a.payload 0, .dropped id (destructor.act a.payload)] := by
      cases declared : a.destructor <;> simp [Objects.ending, Account.object, declared]
    rw [Objects.release_of_eq_one present one rfl, ends]
    simp only [last, if_true, decide_true]
    exact ⟨_, rfl⟩
  · have shared : 1 < a.object.count := by
      simp only [Account.object]
      omega
    have left : a.object.count - 1 = a.retains - a.releases := by
      simp only [Account.object]
      omega
    rw [Objects.release_of_lt present shared]
    simp only [last, if_false, decide_false, left]
    exact ⟨_, rfl⟩

end Calls

end Underlay.Cells
