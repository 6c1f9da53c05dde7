import Underlay.Boundary.Handles
import Underlay.Proofs.Observation.Reading
import Underlay.Proofs.Run
import Underlay.Proofs.Sharing.Census

/-!
# Recorded runs

Scopes, pools, shared objects, handles of generated code and registries are used in any order, by a
program and by its callbacks. At any time the system may change its mind about memory, and other
code may do to the heaps what it likes and record what it likes under names of its own. Who holds
objects from outside is part of the state. A command that uses a scope, a handle or a registry that
is not there does nothing, for nobody could give it.

A callback may do whatever a program may do: drop handles, run the cleanups of a registry, open and
close scopes. A destructor may also keep handles that it finds in its payload. So a run is taken in
steps. What is still to be done is a list of tasks, the next one
first. Where a callback begins its commands are put in front of what was to be done anyway, and the
callback is under way until they are done, together with all that comes of them.
-/

namespace Underlay

namespace Machine

/-- Give up one holder, and hand the object out if it was the last one. -/
def letGo (machine : Machine) (id : ObjectId) : Option (Object String) × Machine :=
  let (last, objects, o) := machine.objects.letGo id machine.observer
  (last, { machine.observe o with objects })

def letGoCell (machine : Machine) (id : ObjectId) : Option (Object Block) × Machine :=
  let (last, cells, o) := machine.cells.letGo id machine.observer
  (last, { machine.observe o with cells })

/-- Take the newest entry out of a registry. -/
def takeEntry (machine : Machine) (id : RegistryId) : Option (Registry.Entry × Machine) :=
  match (machine.registry id).pending with
  | [] => none
  | entry :: pending =>
      some (entry, (machine.setRegistry id { pending }).observe
        (machine.observer.emit entry.announcement))

end Machine

namespace Trail

inductive Command where
  | openScope (heap : HeapId)
  | alloc (scope size : Nat)
  | allocZeroed (scope count size : Nat)
  | adopt (scope : Nat) (block : Option BlockId)
  | closeScope (scope : Nat)
  | share (payload : String) (destructor : Option (Destructor String)) (children : List ObjectId)
  | retain (id : ObjectId)
  | release (id : ObjectId)
  /-- The payload of a live object comes to keep these handles, from outside or from its own. -/
  | refill (id : ObjectId) (children : List ObjectId)
  /-- A destructor takes a handle out of the payload that it runs on. -/
  | keep (id : ObjectId)
  | newCell (size : Nat) (destructor : Option (Destructor Block))
  | retainCell (id : ObjectId)
  | releaseCell (id : ObjectId)
  | addRegistry
  | register (registry : RegistryId) (entry : Registry.Entry)
  | cleanUp (registry : RegistryId)
  | openPool (capacity : Option Nat)
  | carve (pool size : Nat)
  | resetPool (pool : Nat)
  | closePool (pool : Nat)
  | setPoolCapacity (capacity : Nat)
  | setSystem (system : System)
  | setHeap (id : HeapId) (heap : Heap)
  | record (event : Lifecycle.Event)

/-- What the callbacks of a program do. -/
structure Program where
  destructor : Destructor String → List Command
  cellDestructor : Destructor Block → List Command
  cleanup : Registry.Entry → List Command

inductive Callback where
  | destructor (id : ObjectId)
  | cellDestructor (id : ObjectId)
  | cleanup (entry : Registry.Entry)

/-- The record that announces a callback. -/
def Callback.announcement : Callback → Lifecycle.Event
  | .destructor id | .cellDestructor id => Objects.event "destroy" id
  | .cleanup entry => entry.announcement

inductive Task where
  | command (command : Command)
  /-- Give up a holder that nobody can use any more. -/
  | letGo (id : ObjectId)
  | letGoCell (id : ObjectId)
  /-- Run the entries of a registry until there are none. -/
  | exhaust (registry : RegistryId)
  /-- The callback that is under way comes to its end. -/
  | leave

def Task.handle? : Task → Option ObjectId
  | .letGo id => some id
  | _ => none

def Task.cellHandle? : Task → Option ObjectId
  | .letGoCell id => some id
  | _ => none

/-- A callback that is under way, since so many records were made. -/
structure Running where
  callback : Callback
  since : Nat

structure State where
  machine : Machine
  /-- Handles to objects. -/
  held : List ObjectId := []
  /-- Handles of generated code. -/
  cells : List ObjectId := []
  tasks : List Task := []
  /-- Callbacks that are under way, the one that began last first. -/
  running : List Running := []

/-- The number of the next record. -/
def State.next (state : State) : Nat :=
  state.machine.observer.log.nextId

inductive Event where
  /-- A call on a scope registered a block. -/
  | registered (scope : Nat) (call : String)
  /-- A call on a scope failed that asked for so many bytes. -/
  | refused (scope : Nat) (call : String) (size : Nat)
  | closed (scope : Nat)
  | idle

/-! What a step does. -/

/-- A record of a component whose records are read. -/
def Counts (record : Lifecycle.Event) : Prop :=
  record.component ∈ ["scope", "refcount", "registry"]

instance : DecidablePred Counts :=
  fun record => inferInstanceAs (Decidable (record.component ∈ _))

def onScope (state : State) (scope : Nat) (call : Event × Machine) : Event × State :=
  if (state.machine.scope? scope).isSome then (call.1, { state with machine := call.2 })
  else (.idle, state)

def outcome {α : Type} (success failure : Event) : Except Failure α × Machine → Event × Machine
  | (.ok _, machine) => (success, machine)
  | (.error _, machine) => (failure, machine)

def ifHeld (state : State) (held : Prop) [Decidable held] (call : Event × State) :
    Event × State :=
  if held then call else (.idle, state)

/-- Something to be done before anything else. -/
def State.first (state : State) (tasks : List Task) : State :=
  { state with tasks := tasks ++ state.tasks }

/-- Begin a callback. Other tasks follow when it has come to its end. -/
def State.enter (state : State) (callback : Callback) (commands : List Command)
    (behind : List Task) : State :=
  { state with
    tasks := commands.map .command ++ .leave :: behind ++ state.tasks
    running := { callback, since := state.next } :: state.running }

def refill (state : State) (id : ObjectId) (children : List ObjectId) : Event × State :=
  match state.machine.objects.get? id with
  | none => (.idle, state)
  | some object =>
      let around := object.children ++ state.held
      let objects := state.machine.objects.set id (some { object with children })
      ifHeld state (∀ child ∈ children, children.count child ≤ around.count child)
        (.idle, { state with
          machine := { state.machine with objects }, held := around.diff children })

def perform (state : State) : Command → Event × State
  | .openScope heap => (.idle, { state with machine := (state.machine.openScope heap).2 })
  | .alloc scope size =>
      onScope state scope
        (outcome (.registered scope "alloc") (.refused scope "alloc" size)
          (state.machine.scopeAlloc scope size))
  | .allocZeroed scope count size =>
      onScope state scope
        (outcome (.registered scope "alloc_zeroed")
          (.refused scope "alloc_zeroed" (Word.saturateSize (count * size)))
          (state.machine.scopeAllocZeroed scope count size))
  | .adopt scope block =>
      onScope state scope
        (outcome (.registered scope "register") .idle (state.machine.scopeRegister scope block))
  | .closeScope scope => onScope state scope (.closed scope, state.machine.closeScope scope)
  | .share payload destructor children =>
      ifHeld state (∀ child ∈ children, children.count child ≤ state.held.count child) <|
        let (id, machine) := state.machine.share payload destructor children
        (.idle, { state with machine, held := id :: state.held.diff children })
  | .retain id =>
      ifHeld state (state.machine.objects.get? id).isSome
        (.idle, { state with machine := state.machine.retain id, held := id :: state.held })
  | .release id =>
      ifHeld state (id ∈ state.held)
        (.idle, { state with held := state.held.erase id }.first [.letGo id])
  | .refill id children => refill state id children
  | .keep id =>
      ifHeld state (id ∈ state.tasks.filterMap Task.handle?)
        (.idle, { state with
          held := id :: state.held
          tasks := state.tasks.eraseP fun task => task.handle? == some id })
  | .newCell size destructor =>
      let (handle, machine) := Boundary.newObject size destructor state.machine
      (.idle, { state with machine, cells := handle.toList ++ state.cells })
  | .retainCell id =>
      ifHeld state (state.machine.cells.get? id).isSome
        (.idle, { state with machine := (Boundary.retain (some id) state.machine).2,
                             cells := id :: state.cells })
  | .releaseCell id =>
      ifHeld state (id ∈ state.cells)
        (.idle, { state with cells := state.cells.erase id }.first [.letGoCell id])
  | .addRegistry => (.idle, { state with machine := state.machine.addRegistry.2 })
  | .register registry entry =>
      ifHeld state (registry < state.machine.registries.size)
        (.idle, { state with machine := state.machine.register registry entry })
  | .cleanUp registry =>
      ifHeld state (registry < state.machine.registries.size)
        (.idle, state.first [.exhaust registry])
  | .openPool capacity => (.idle, { state with machine := (state.machine.openPool capacity).2 })
  | .carve pool size => (.idle, { state with machine := (state.machine.poolAlloc pool size).2 })
  | .resetPool pool => (.idle, { state with machine := state.machine.resetPool pool })
  | .closePool pool => (.idle, { state with machine := state.machine.closePool pool })
  | .setPoolCapacity capacity =>
      (.idle, { state with machine :=
        { state.machine with session := state.machine.session.setPoolCapacity capacity } })
  | .setSystem system =>
      (.idle, { state with machine :=
        { state.machine with session := { state.machine.session with system } } })
  | .setHeap id heap => (.idle, { state with machine := state.machine.setHeap id heap })
  | .record event =>
      ifHeld state (¬ Counts event)
        (.idle, { state with
          machine := state.machine.observe (state.machine.observer.emit event) })

/-- The end of an object, if its last holder went. Its destructor runs, and then what the object
holds itself is given up. -/
def conclude {π : Type} (state : State) (last : Option (Object π)) (callback : Callback)
    (commands : Destructor π → List Command) (part : ObjectId → Task) : State :=
  match last with
  | none => state
  | some object =>
      match object.destructor with
      | none => state.first (object.children.map part)
      | some destructor => state.enter callback (commands destructor) (object.children.map part)

def attend (program : Program) (state : State) : Task → Event × State
  | .command command => perform state command
  | .letGo id =>
      let (last, machine) := state.machine.letGo id
      (.idle, conclude { state with machine } last (.destructor id) program.destructor .letGo)
  | .letGoCell id =>
      let (last, machine) := state.machine.letGoCell id
      (.idle,
        conclude { state with machine } last (.cellDestructor id) program.cellDestructor .letGoCell)
  | .exhaust registry =>
      match state.machine.takeEntry registry with
      | none => (.idle, state)
      | some (entry, machine) =>
          (.idle, { state with machine }.enter (.cleanup entry) (program.cleanup entry)
            [.exhaust registry])
  | .leave => (.idle, { state with running := state.running.tail })

def step (program : Program) (state : State) : Event × State :=
  match state.tasks with
  | [] => (.idle, state)
  | task :: rest => attend program { state with tasks := rest } task

/-! Runs, and what their history tells. -/

/-- What happened in a step: in the course of which callbacks, and the numbers of the records that
were made, from the first one up to the next one behind them. -/
structure Moment where
  event : Event
  running : List Running
  first : Nat
  next : Nat

/-- A number of steps of a program that has commands to do. -/
def run (program : Program) (machine : Machine) (commands : List Command) :
    Nat → Run State Moment
  | 0 => { state := { machine, tasks := commands.map .command } }
  | steps + 1 =>
      let ran := run program machine commands steps
      let (event, state) := step program ran.state
      { state
        history :=
          { event, running := ran.state.running, first := ran.state.next, next := state.next } ::
            ran.history }

def events (history : List Moment) : List Event :=
  history.map Moment.event

/-- The records that were made in a moment. -/
def Moment.made (moment : Moment) (records : List Lifecycle.Record) : List Lifecycle.Record :=
  records.filter fun record => moment.first ≤ record.id ∧ record.id < moment.next

/-- What an event adds to the past of a scope. -/
def Event.tell (scope : Nat) (past : Scope.Past) : Event → Scope.Past
  | .registered other call =>
      if other = scope then { past with registered := past.registered ++ [call] } else past
  | .refused other call size =>
      if other = scope then { past with refused := past.refused ++ [(call, size)] } else past
  | .closed other => if other = scope then { past with closed := true } else past
  | .idle => past

def past (scope : Nat) (events : List Event) : Scope.Past :=
  events.foldr (fun event past => event.tell scope past) {}

/-! What a state tells. -/

/-- Handles to objects, those that are about to be given up among them. -/
def State.handles (state : State) : List ObjectId :=
  state.held ++ state.tasks.filterMap Task.handle?

def State.cellHandles (state : State) : List ObjectId :=
  state.cells ++ state.tasks.filterMap Task.cellHandle?

/-- Holders that are outstanding: handles outside, and references that live objects keep. -/
def State.holders (state : State) : Nat :=
  state.handles.length + state.cellHandles.length + state.machine.objects.kept +
    state.machine.cells.kept

def State.living (state : State) : Nat :=
  state.machine.objects.living + state.machine.cells.living

/-- Entries of registries that are still to be run. -/
def State.pending (state : State) : Nat :=
  (state.machine.registries.toList.map Registry.length).sum

end Trail

end Underlay
