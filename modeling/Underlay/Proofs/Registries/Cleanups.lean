import Mathlib.Data.List.Perm.Basic
import Underlay.Machine.Holders
import Underlay.Proofs.Registries.Run

/-!
# Cleanups run once, the newest first

Whatever order a history asks for, it is an order of all registrations but the waiting ones, each
of them once. The invariant `Tracks` compares the machine with its history: an open registry holds
what is pending in it, and a closed one leaves nothing behind. So what runs is what has to run.
-/

namespace Underlay.Registries

open Registry (Entry)

/-! Registrations in a history. -/

theorem number_tickets (history : List Event) :
    (tickets history).map Ticket.number = List.range (tickets history).length := by
  induction history with
  | nil => rfl
  | cons event past inductionHypothesis =>
      cases event with
      | registered registry entry =>
          rw [tickets, List.map_append, inductionHypothesis, List.length_append,
            List.length_singleton, List.range_succ]
          rfl
      | opened _ | cleanedUp _ _ | closed _ _ | idle => exact inductionHypothesis

theorem pending_registered (registry other : RegistryId) (entry : Entry) (past : List Event) :
    pending registry (.registered other entry :: past) =
      pending registry past ++
        if other = registry then [{ number := (tickets past).length, registry, entry }] else [] := by
  by_cases same : other = registry
  · subst same
    simp [pending, waiting]
  · simp [pending, waiting, same]

/-- Taking out one registry leaves the others as they are. -/
theorem filter_waiting (registry other : RegistryId) (past : List Event) :
    ((waiting past).filter fun ticket => ticket.registry != other).filter
        (fun ticket => ticket.registry == registry) =
      if other = registry then [] else pending registry past := by
  rw [List.filter_filter]
  by_cases same : other = registry
  · subst same
    simp [List.filter_eq_nil_iff]
  · rw [if_neg same, pending]
    apply List.filter_congr
    intro ticket _
    by_cases here : ticket.registry = registry
    · simp [here, Ne.symm same]
    · simp [here]

theorem pending_cleanedUp (registry other : RegistryId) (ran : List Cleanup) (past : List Event) :
    pending registry (.cleanedUp other ran :: past) =
      if other = registry then [] else pending registry past :=
  filter_waiting registry other past

theorem pending_closed (registry other : RegistryId) (ran : List Cleanup) (past : List Event) :
    pending registry (.closed other ran :: past) =
      if other = registry then [] else pending registry past :=
  filter_waiting registry other past

/-- What is pending in one registry and what waits in the others is all that waits. -/
theorem pending_append_perm (registry : RegistryId) (past : List Event) :
    ((pending registry past).reverse ++
      (waiting past).filter fun ticket => ticket.registry != registry).Perm (waiting past) :=
  ((List.reverse_perm _).append_right _).trans (List.filter_append_perm _ (waiting past))

/-- Every registration has its place in the order, or waits; it does so once. -/
theorem order_append_waiting_perm (history : List Event) :
    (order history ++ waiting history).Perm (tickets history) := by
  induction history with
  | nil => exact .nil
  | cons event past inductionHypothesis =>
      cases event with
      | registered registry entry =>
          simp only [order, waiting, tickets, ← List.append_assoc]
          exact inductionHypothesis.append_right _
      | cleanedUp registry _ | closed registry _ =>
          simp only [order, waiting, tickets, List.append_assoc]
          exact ((pending_append_perm registry past).append_left _).trans inductionHypothesis
      | opened _ | idle => exact inductionHypothesis

theorem ran_eq_map_order {history : List Event} (truthful : Truthful history) :
    ran history = (order history).map Ticket.cleanup := by
  induction history with
  | nil => rfl
  | cons event past inductionHypothesis =>
      cases event with
      | cleanedUp registry ran' | closed registry ran' =>
          obtain ⟨pending, truthful⟩ := truthful
          rw [ran, order, inductionHypothesis truthful, pending, List.map_append]
      | opened _ | registered _ _ | idle => exact inductionHypothesis truthful

/-- The cleanups of a registry that ran and those that are pending are its registrations. -/
theorem runCount_add_length_pending {history : List Event} (truthful : Truthful history)
    (registry : RegistryId) :
    runCount registry history + (pending registry history).length =
      (tickets history).countP fun ticket => ticket.registry == registry := by
  induction history with
  | nil => rfl
  | cons event past inductionHypothesis =>
      cases event with
      | registered other entry =>
          simp only [runCount, tickets, pending_registered, List.countP_append]
          rw [← inductionHypothesis truthful]
          by_cases same : other = registry <;> simp [same, Nat.add_assoc]
      | cleanedUp other ran' | closed other ran' =>
          obtain ⟨answered, truthful⟩ := truthful
          simp only [runCount, tickets, pending_cleanedUp, pending_closed]
          rw [← inductionHypothesis truthful]
          by_cases same : other = registry
          · subst same
            simp [answered, Nat.add_comm]
          · simp [same]
      | opened _ | idle => exact inductionHypothesis truthful

/-! What a command does to the registries. -/

inductive Step (machine : Machine) (history : List Event) : Event → Machine → Prop where
  | opened : Step machine history (.opened machine.registries.size) machine.addRegistry.2
  | registered {registry : RegistryId} (opened : isOpen registry history = true) (entry : Entry) :
      Step machine history (.registered registry entry) (machine.register registry entry)
  | cleanedUp {registry : RegistryId} (opened : isOpen registry history = true) :
      Step machine history (.cleanedUp registry (machine.cleanUp registry).1)
        (machine.cleanUp registry).2
  | closed {registry : RegistryId} (opened : isOpen registry history = true) :
      Step machine history (.closed registry (machine.cleanUp registry).1)
        (machine.cleanUp registry).2
  | idle (machine' : Machine) (untouched : machine'.registries = machine.registries) :
      Step machine history .idle machine'

section Calls

variable {machine : Machine} {history : List Event} {registry : RegistryId}

theorem step_onOpen {call : Event × Machine}
    (answered : isOpen registry history = true → Step machine history call.1 call.2) :
    Step machine history (onOpen { state := machine, history } registry call).1
      (onOpen { state := machine, history } registry call).2 := by
  unfold onOpen
  split
  · rename_i opened
    exact answered opened
  · exact .idle machine rfl

/-- Generated code registers what it names, or is refused and touches nothing. -/
theorem step_registerPointer (opened : isOpen registry history = true) (resource : Option Nat)
    (cleanup : Bool) (name : Option (List UInt8)) :
    let call := outcome registry
      { name := name.map Boundary.textOf, cleanup := .resource (toString (resource.getD 0)) }
      (Boundary.register (some registry) resource cleanup name machine)
    Step machine history call.1 call.2 := by
  intro call
  cases resource with
  | none => exact .idle _ rfl
  | some resource =>
      cases cleanup with
      | false => exact .idle _ rfl
      | true => exact .registered opened _

end Calls

theorem step_perform (machine : Machine) (history : List Event) (command : Command) :
    let call := perform { state := machine, history } command
    Step machine history call.1 call.2 := by
  cases command with
  | «open» => exact .opened
  | register registry entry => exact step_onOpen fun opened => .registered opened entry
  | registerPointer registry resource cleanup name =>
      cases registry with
      | none => exact .idle _ rfl
      | some registry =>
          exact step_onOpen fun opened => step_registerPointer opened resource cleanup name
  | cleanUp registry => exact step_onOpen fun opened => .cleanedUp opened
  | close registry => exact step_onOpen fun opened => .closed opened

structure Tracks (run : Run Machine Event) : Prop where
  held : ∀ registry, isOpen registry run.history = true →
    registry < run.state.registries.size ∧
      (run.state.registry registry).pending =
        ((pending registry run.history).map Ticket.entry).reverse
  settled : ∀ registry, isOpen registry run.history = false → pending registry run.history = []
  truthful : Truthful run.history

namespace Tracks

variable {machine machine' : Machine} {history : List Event} {event : Event}

theorem step_opened (tracks : Tracks { state := machine, history }) :
    Tracks { state := machine.addRegistry.2,
             history := .opened machine.registries.size :: history } := by
  have unused : isOpen machine.registries.size history = false := by
    by_contra opened
    have present := (tracks.held machine.registries.size (by simpa using opened)).1
    exact Nat.lt_irrefl _ present
  have larger : machine.addRegistry.2.registries.size = machine.registries.size + 1 :=
    Array.size_push _
  refine ⟨?_, ?_, tracks.truthful⟩
  · intro registry opened
    simp only [Machine.registry_addRegistry, larger]
    by_cases new : registry = machine.registries.size
    · subst new
      have nothing : pending machine.registries.size (.opened machine.registries.size :: history) =
          [] := tracks.settled _ unused
      simp [nothing]
    · have earlier : isOpen registry history = true := by
        simpa [isOpen, Ne.symm new] using opened
      obtain ⟨present, held⟩ := tracks.held registry earlier
      rw [if_neg new]
      exact ⟨Nat.lt_succ_of_lt present, held⟩
  · intro registry closed
    have earlier : isOpen registry history = false := by
      simpa [isOpen] using (Bool.or_eq_false_iff.mp closed).2
    exact tracks.settled registry earlier

theorem step_registered {registry : RegistryId} (tracks : Tracks { state := machine, history })
    (opened : isOpen registry history = true) (entry : Entry) :
    Tracks { state := machine.register registry entry,
             history := .registered registry entry :: history } := by
  obtain ⟨present, held⟩ := tracks.held registry opened
  refine ⟨?_, ?_, tracks.truthful⟩
  · intro other openedThere
    obtain ⟨presentThere, heldThere⟩ := tracks.held other openedThere
    refine ⟨(Machine.registries_size_register ..).symm ▸ presentThere, ?_⟩
    rw [pending_registered]
    by_cases same : registry = other
    · subst same
      simp [Machine.pending_register_self present, held]
    · simp [Machine.registry_register_of_ne machine (Ne.symm same), same, heldThere]
  · intro other closed
    have earlier := tracks.settled other closed
    have distinct : registry ≠ other := by
      rintro rfl
      exact Bool.noConfusion (opened.symm.trans closed)
    simpa [pending_registered, distinct] using earlier

/-- What is common to a cleanup and a closing. -/
theorem held_cleanUp {registry : RegistryId} (tracks : Tracks { state := machine, history })
    (opened : isOpen registry history = true) {other : RegistryId}
    (openedThere : isOpen other history = true) :
    other < (machine.cleanUp registry).2.registries.size ∧
      ((machine.cleanUp registry).2.registry other).pending =
        ((if registry = other then [] else pending other history).map Ticket.entry).reverse := by
  obtain ⟨present, -⟩ := tracks.held registry opened
  obtain ⟨presentThere, heldThere⟩ := tracks.held other openedThere
  refine ⟨(Machine.registries_size_cleanUp ..).symm ▸ presentThere, ?_⟩
  by_cases same : registry = other
  · subst same
    simp [Machine.registry_cleanUp_self present]
  · simp [Machine.registry_cleanUp_of_ne machine (Ne.symm same), same, heldThere]

theorem ran_cleanUp {registry : RegistryId} (tracks : Tracks { state := machine, history })
    (opened : isOpen registry history = true) :
    (machine.cleanUp registry).1 = (pending registry history).reverse.map Ticket.cleanup := by
  have held := (tracks.held registry opened).2
  rw [Machine.ran_cleanUp, held, ← List.map_reverse, List.map_map]
  rfl

theorem step_cleanedUp {registry : RegistryId} (tracks : Tracks { state := machine, history })
    (opened : isOpen registry history = true) :
    Tracks { state := (machine.cleanUp registry).2,
             history := .cleanedUp registry (machine.cleanUp registry).1 :: history } := by
  refine ⟨?_, ?_, tracks.ran_cleanUp opened, tracks.truthful⟩
  · intro other openedThere
    rw [pending_cleanedUp]
    exact tracks.held_cleanUp opened openedThere
  · intro other closed
    have earlier := tracks.settled other closed
    rw [pending_cleanedUp, earlier, ite_self]

theorem step_closed {registry : RegistryId} (tracks : Tracks { state := machine, history })
    (opened : isOpen registry history = true) :
    Tracks { state := (machine.cleanUp registry).2,
             history := .closed registry (machine.cleanUp registry).1 :: history } := by
  refine ⟨?_, ?_, tracks.ran_cleanUp opened, tracks.truthful⟩
  · intro other openedThere
    rw [pending_closed]
    exact tracks.held_cleanUp opened (Bool.and_eq_true_iff.mp openedThere).2
  · intro other closed
    rw [pending_closed]
    by_cases same : registry = other
    · rw [if_pos same]
    · have earlier : isOpen other history = false := by
        simpa [isOpen, same] using closed
      rw [if_neg same]
      exact tracks.settled other earlier

theorem step (tracks : Tracks { state := machine, history })
    (taken : Step machine history event machine') :
    Tracks { state := machine', history := event :: history } := by
  cases taken with
  | opened => exact tracks.step_opened
  | registered opened entry => exact tracks.step_registered opened entry
  | cleanedUp opened => exact tracks.step_cleanedUp opened
  | closed opened => exact tracks.step_closed opened
  | idle machine' untouched =>
      refine ⟨?_, tracks.settled, tracks.truthful⟩
      intro registry opened
      have same : machine'.registry registry = machine.registry registry :=
        congrArg (fun registries => registries.getD registry {}) untouched
      rw [same, untouched]
      exact tracks.held registry opened

end Tracks

theorem tracks_run (machine : Machine) (commands : List Command) :
    Tracks (run machine commands) := by
  refine Run.steps_induction _ ?_ ?_ commands
  · intro run command tracks
    exact tracks.step (step_perform run.state run.history command)
  · exact ⟨fun _ opened => (nomatch opened), fun _ _ => rfl, trivial⟩

/-- A cleanup of an open registry leaves it empty. -/
theorem names_cleanUp {machine : Machine} {commands : List Command} {registry : RegistryId}
    (opened : isOpen registry (run machine commands).history = true) :
    ((run machine (commands ++ [.cleanUp registry])).state.registry registry).names = [] := by
  have present := ((tracks_run machine commands).held registry opened).1
  have last : (run machine (commands ++ [.cleanUp registry])).state =
      ((run machine commands).state.cleanUp registry).2 := by
    rw [run, Run.steps_concat, ← run]
    simp [Run.step, perform, onOpen, opened, Boundary.cleanUp]
  rw [last, Machine.registry_cleanUp_self present]
  rfl

/-- In every run, each cleanup and each closing runs what is pending in its registry at that time,
the newest first and with what it was registered with, and a cleanup leaves the registry empty. So
every registration has run once or waits, and none waits in a registry that is closed: as many of
its cleanups ran as were registered. An open registry lists what is pending in it, in the order of
registration. -/
theorem cleanups_of_run (machine : Machine) (commands : List Command) :
    let history := (run machine commands).history
    let state := (run machine commands).state
    Truthful history ∧ ran history = (order history).map Ticket.cleanup ∧
      (tickets history).map Ticket.number = List.range (tickets history).length ∧
      (order history ++ waiting history).Perm (tickets history) ∧
      (∀ registry, isOpen registry history = true →
        (state.registry registry).names =
            (pending registry history).map (fun ticket => ticket.entry.name) ∧
          Boundary.registrySize (some registry) state = (pending registry history).length ∧
          ((run machine (commands ++ [.cleanUp registry])).state.registry registry).names = []) ∧
      (∀ registry, isOpen registry history = false →
        pending registry history = [] ∧
          runCount registry history =
            (tickets history).countP fun ticket => ticket.registry == registry) ∧
      ((∀ registry, isOpen registry history = false) →
        (order history).Perm (tickets history)) := by
  intro history state
  have tracks : Tracks (run machine commands) := tracks_run machine commands
  have complete : (order history ++ waiting history).Perm (tickets history) :=
    order_append_waiting_perm history
  refine ⟨tracks.truthful, ran_eq_map_order tracks.truthful, number_tickets history, complete,
    ?_, ?_, ?_⟩
  · intro registry opened
    have held : (state.registry registry).pending =
        ((pending registry history).map Ticket.entry).reverse := (tracks.held registry opened).2
    refine ⟨?_, ?_, names_cleanUp opened⟩
    · rw [Registry.names, held, List.reverse_reverse, List.map_map]
      rfl
    · simp [Boundary.registrySize, Registry.length, held]
  · intro registry closed
    have nothing : pending registry history = [] := tracks.settled registry closed
    have counted := runCount_add_length_pending tracks.truthful registry
    refine ⟨nothing, ?_⟩
    rwa [nothing] at counted
  · intro closed
    have nobody : waiting history = [] := by
      apply List.eq_nil_iff_forall_not_mem.mpr
      intro ticket waits
      have nothing : pending ticket.registry history = [] := tracks.settled _ (closed _)
      have listed : ticket ∈ pending ticket.registry history := by
        simpa [pending] using waits
      simp [nothing] at listed
    simpa [nobody] using complete

/-- Two registries take turns. One is cleaned up twice and filled again, the same entry is
registered twice, generated code forgets a cleanup once, and both are closed in the end. -/
theorem cleanups_of_run_interleaved :
    let note (tag : String) : Entry := { name := none, cleanup := .action tag }
    let commands : List Command :=
      [.open, .open, .register 0 (note "a"), .register 1 (note "b"), .register 0 (note "c"),
        .registerPointer (some 1) (some 7) true (some [120]),
        .registerPointer (some 1) (some 7) false none, .cleanUp 0, .cleanUp 0,
        .register 0 (note "a"), .close 0, .register 0 (note "d"), .close 1]
    let history := (run {} commands).history
    (∀ registry, isOpen registry history = false) ∧
      (order history).Perm (tickets history) ∧
      (tickets history).length = 5 ∧
      ran history =
        [.action "c", .action "a", .action "a", .resource "7", .action "b"] := by
  intro note commands history
  have told : history =
      [.closed 1 [.resource "7", .action "b"], .idle, .closed 0 [.action "a"],
        .registered 0 (note "a"), .cleanedUp 0 [], .cleanedUp 0 [.action "c", .action "a"], .idle,
        .registered 1 { name := some "x", cleanup := .resource "7" }, .registered 0 (note "c"),
        .registered 1 (note "b"), .registered 0 (note "a"), .opened 1, .opened 0] := by
    decide +kernel
  have closed : ∀ registry, isOpen registry history = false := by
    intro registry
    rw [told]
    match registry with
    | 0 => rfl
    | 1 => rfl
    | _ + 2 => rfl
  obtain ⟨-, -, -, -, -, -, once⟩ := cleanups_of_run {} commands
  exact ⟨closed, once closed, by rw [told]; rfl, by rw [told]; rfl⟩

end Underlay.Registries
