import Underlay.Proofs.Scopes.Run

/-!
# Closing releases every registration once, the newest first

`Step` says once what a command can do to a machine. The invariant `Tracks` compares a machine
with its history: the release log is what the closings in the history release, and every open
scope owns what the history says it registered. It holds along every run, so the order and the
multiplicity of the log follow from the history alone.
-/

namespace Underlay

namespace Scopes

inductive Step (heap : HeapId) (machine : Machine) : Event → Machine → Prop where
  | opened : Step heap machine (.opened (machine.session.scopesOpened + 1))
      (machine.openScope heap).2
  | registered {s : OpenScope} {scope : Nat} (found : machine.scope? scope = some s)
      (r : Registration) (h : Heap) (o : Observer)
      (quiet : h.releases = (machine.heap s.heap).releases) :
      Step heap machine (.registered scope r.block)
        (((machine.setHeap s.heap h).setScope
          { s.scope with owned := r :: s.scope.owned }).observe o)
  | refused {scope : Nat} (failure : Failure) (o : Observer) :
      Step heap machine (.refused scope failure)
        ((machine.observe o).note (.error failure : Except Failure Unit))
  | closed {s : OpenScope} {scope : Nat} (found : machine.scope? scope = some s) :
      Step heap machine (.closed scope) (machine.closeScope scope)
  | idle : Step heap machine .idle machine

section Calls

variable {heap : HeapId} {machine : Machine} {scope : Nat}

theorem step_onOpen {call : Event × Machine}
    (answered : ∀ s, machine.scope? scope = some s → Step heap machine call.1 call.2) :
    Step heap machine (onOpen machine scope call).1 (onOpen machine scope call).2 := by
  unfold onOpen
  cases found : machine.scope? scope with
  | none => exact .idle
  | some s => exact answered s found

/-- A call is a step if its success registers the block that it answers and logs no release. -/
theorem step_outcome {α : Type} {block : α → BlockId} {s : OpenScope}
    (found : machine.scope? scope = some s)
    {act : Scope → Heap → Observer → Except Failure (α × Scope × Heap) × Observer}
    (registers : ∀ answer scope' h o,
      act s.scope (machine.heap s.heap) machine.observer = (.ok (answer, scope', h), o) →
      ∃ size, scope' = { s.scope with owned := { block := block answer, size } :: s.scope.owned } ∧
        h.releases = (machine.heap s.heap).releases)
    (absent : Except Failure α) :
    Step heap machine (outcome scope block (machine.onScope scope absent act)).1
      (outcome scope block (machine.onScope scope absent act)).2 := by
  rcases Machine.onScope_cases found absent act with
    ⟨failure, o, -, equation⟩ | ⟨answer, scope', h, o, done, equation⟩
  · rw [equation]
    exact .refused failure o
  · obtain ⟨size, rfl, quiet⟩ := registers answer scope' h o done
    rw [equation]
    exact .registered found { block := block answer, size } h o quiet

end Calls

theorem step_perform (heap : HeapId) (machine : Machine) (command : Command) :
    Step heap machine (perform heap machine command).1 (perform heap machine command).2 := by
  cases command with
  | openScope => exact .opened
  | alloc scope size =>
      apply step_onOpen
      intro s found
      apply step_outcome found
      intro block scope' h o done
      exact ⟨some size, Scope.alloc_eq_ok done⟩
  | allocZeroed scope count size =>
      apply step_onOpen
      intro s found
      apply step_outcome found
      intro block scope' h o done
      exact ⟨some (count * size), Scope.allocZeroed_eq_ok done⟩
  | register scope block =>
      apply step_onOpen
      intro s found
      apply step_outcome found
      intro answer scope' h o done
      cases result : s.scope.register block machine.observer with
      | mk answered noted =>
          cases answered with
          | error failure => simp [result, Except.map] at done
          | ok registered =>
              obtain ⟨adopted, rfl, rfl⟩ := Scope.register_eq_ok result
              simp only [result, Except.map, Prod.mk.injEq, Except.ok.injEq] at done
              obtain ⟨⟨-, rfl, rfl⟩, -⟩ := done
              exact ⟨none, rfl, rfl⟩
  | close scope => exact step_onOpen fun s found => .closed found

structure Tracks (heap : HeapId) (before : List BlockId) (run : Run Machine Event) :
    Prop where
  present : heap < run.state.heaps.size
  log : (run.state.heap heap).releases = before ++ released run.history
  owned : ∀ scope s, run.state.scope? scope = some s →
    s.heap = heap ∧
      s.scope.owned.map Registration.block = (registrations scope run.history).reverse
  opened : ∀ scope, (run.state.scope? scope).isSome = isOpen scope run.history
  /-- Numbers above the counter are free, and no event is about them. -/
  fresh : ∀ scope, run.state.session.scopesOpened < scope →
    run.state.scope? scope = none ∧ registrations scope run.history = []

namespace Tracks

variable {heap : HeapId} {before : List BlockId} {machine machine' : Machine}
  {history : List Event} {event : Event}

theorem step_opened (tracks : Tracks heap before { state := machine, history }) :
    Tracks heap before { state := (machine.openScope heap).2,
                         history := .opened (machine.session.scopesOpened + 1) :: history } := by
  have taken := tracks.fresh (machine.session.scopesOpened + 1) (Nat.lt_succ_self _)
  refine ⟨tracks.present, tracks.log, ?_, ?_, ?_⟩
  · intro scope s found
    rw [Machine.scope?_openScope] at found
    cases earlier : machine.scope? scope with
    | some old =>
        rw [earlier, Option.some_or, Option.some.injEq] at found
        subst found
        exact tracks.owned scope old earlier
    | none =>
        simp only [earlier, Option.none_or, Option.ite_none_right_eq_some,
          Option.some.injEq] at found
        obtain ⟨rfl, rfl⟩ := found
        exact ⟨rfl, by simpa [registrations] using taken.2⟩
  · intro scope
    have earlier := tracks.opened scope
    rw [Machine.scope?_openScope, isOpen]
    by_cases same : machine.session.scopesOpened + 1 = scope
    · simp [same]
    · rw [Bool.eq_iff_iff] at earlier ⊢
      simpa [same] using earlier
  · intro scope above
    have above : machine.session.scopesOpened + 1 < scope := above
    have earlier := tracks.fresh scope (by simp only; omega)
    refine ⟨?_, earlier.2⟩
    rw [Machine.scope?_openScope, earlier.1]
    simp
    omega

theorem step_registered {s : OpenScope} {scope : Nat}
    (tracks : Tracks heap before { state := machine, history })
    (found : machine.scope? scope = some s) (r : Registration) (h : Heap) (o : Observer)
    (quiet : h.releases = (machine.heap s.heap).releases) :
    Tracks heap before { state := ((machine.setHeap s.heap h).setScope
                           { s.scope with owned := r :: s.scope.owned }).observe o,
                         history := .registered scope r.block :: history } := by
  obtain ⟨home, held⟩ := tracks.owned scope s found
  have named := Machine.id_of_scope? found
  subst home named
  let grown : Scope := { s.scope with owned := r :: s.scope.owned }
  have self : (machine.setScope grown).scope? s.scope.id = some { s with scope := grown } :=
    Machine.scope?_setScope_self found
  have others {id : Nat} (distinct : id ≠ s.scope.id) :
      (machine.setScope grown).scope? id = machine.scope? id :=
    Machine.scope?_setScope_of_ne machine distinct
  refine ⟨?_, ?_, ?_, ?_, ?_⟩
  · change s.heap < (machine.setHeap s.heap h).heaps.size
    rw [Machine.heaps_size_setHeap]
    exact tracks.present
  · have logged : ((machine.setHeap s.heap h).heap s.heap).releases =
        (machine.heap s.heap).releases := by
      rw [Machine.heap_setHeap_self h tracks.present, quiet]
    exact logged.trans tracks.log
  · intro id t foundThere
    change (machine.setScope grown).scope? id = some t at foundThere
    by_cases same : id = s.scope.id
    · subst same
      rw [self, Option.some.injEq] at foundThere
      subst foundThere
      exact ⟨rfl, by simp [registrations, grown, held]⟩
    · rw [others same] at foundThere
      simpa [registrations, Ne.symm same] using tracks.owned id t foundThere
  · intro id
    change ((machine.setScope grown).scope? id).isSome = isOpen id history
    rw [← tracks.opened id]
    by_cases same : id = s.scope.id
    · subst same
      simp [self, found]
    · rw [others same]
  · intro id above
    have unused := tracks.fresh id above
    have distinct : id ≠ s.scope.id := by
      rintro rfl
      simp [found] at unused
    refine ⟨(others distinct).trans unused.1, ?_⟩
    simpa [registrations, Ne.symm distinct] using unused.2

theorem step_closed {s : OpenScope} {scope : Nat}
    (tracks : Tracks heap before { state := machine, history })
    (found : machine.scope? scope = some s) :
    Tracks heap before { state := machine.closeScope scope,
                         history := .closed scope :: history } := by
  obtain ⟨home, held⟩ := tracks.owned scope s found
  subst home
  refine ⟨?_, ?_, ?_, ?_, ?_⟩
  · rw [Machine.heaps_size_closeScope]
    exact tracks.present
  · rw [Machine.releases_closeScope found tracks.present, tracks.log, held, released,
      List.append_assoc]
  · intro id t foundThere
    by_cases same : id = scope
    · subst same
      simp [Machine.scope?_closeScope_self] at foundThere
    · rw [Machine.scope?_closeScope_of_ne machine same] at foundThere
      exact tracks.owned id t foundThere
  · intro id
    rw [isOpen]
    by_cases same : id = scope
    · subst same
      simp [Machine.scope?_closeScope_self]
    · rw [Machine.scope?_closeScope_of_ne machine same, tracks.opened id]
      simp [Ne.symm same]
  · intro id above
    rw [Machine.scopesOpened_closeScope] at above
    have unused := tracks.fresh id above
    have distinct : id ≠ scope := by
      rintro rfl
      simp [found] at unused
    exact ⟨(Machine.scope?_closeScope_of_ne machine distinct).trans unused.1, unused.2⟩

theorem step (tracks : Tracks heap before { state := machine, history })
    (taken : Step heap machine event machine') :
    Tracks heap before { state := machine', history := event :: history } := by
  cases taken with
  | opened => exact tracks.step_opened
  | registered found r h o quiet => exact tracks.step_registered found r h o quiet
  | refused failure o =>
      exact ⟨tracks.present, tracks.log, tracks.owned, tracks.opened, tracks.fresh⟩
  | closed found => exact tracks.step_closed found
  | idle => exact ⟨tracks.present, tracks.log, tracks.owned, tracks.opened, tracks.fresh⟩

end Tracks

/-- Along every run from a machine without open scopes, the log of the heap grows by what the
closings of scopes release: for each, the blocks of its own successful registrations in reverse
order, one entry for each registration. A scope is there from its opening to its closing, and all
that time it owns exactly what was registered. -/
theorem releases_of_run (machine : Machine) (heap : HeapId) (present : heap < machine.heaps.size)
    (idle : machine.scopes = []) (commands : List Command) :
    let ran := run heap machine commands
    (ran.state.heap heap).releases = (machine.heap heap).releases ++ released ran.history ∧
    ∀ scope,
      (ran.state.scope? scope).isSome = isOpen scope ran.history ∧
      ∀ s, ran.state.scope? scope = some s →
        s.scope.owned.map Registration.block = (registrations scope ran.history).reverse := by
  have unopened (scope : Nat) : machine.scope? scope = none := by
    rw [Machine.scope?, idle]
    rfl
  have start : Tracks heap (machine.heap heap).releases { state := machine } := by
    refine ⟨present, by simp [released], ?_, ?_, ?_⟩
    · intro scope s found
      simp [unopened] at found
    · intro scope
      simp [unopened, isOpen]
    · intro scope above
      exact ⟨unopened scope, rfl⟩
  have tracks : Tracks heap _ (run heap machine commands) :=
    Run.steps_induction _
      (fun run command tracks => tracks.step (step_perform heap run.state command)) start commands
  exact ⟨tracks.log, fun scope =>
    ⟨tracks.opened scope, fun s found => (tracks.owned scope s found).2⟩⟩

/-- Two scopes share a heap with room for three blocks. The first block is registered in both and
twice in one of them, and a call of each kind fails in between. -/
theorem releases_of_run_shared_block :
    let machine := (({} : Machine).addRecorder (some 3)).2
    let block (number : Nat) : BlockId := { heap := 1, number }
    let commands : List Command :=
      [.openScope, .openScope, .alloc 1 8, .register 2 (some (block 0)), .alloc 1 0,
        .allocZeroed 2 2 4, .allocZeroed 2 0x100000000 0x100000000, .register 2 none,
        .register 2 (some (block 0)), .alloc 1 16, .alloc 2 16, .close 1, .close 1, .close 2]
    1 < machine.heaps.size ∧ machine.scopes = [] ∧
      ((run 1 machine commands).state.heap 1).releases =
        [block 2, block 0, block 0, block 1, block 0] := by
  refine ⟨by decide, rfl, ?_⟩
  rw [(releases_of_run _ 1 (by decide) rfl _).1]
  decide +kernel

end Scopes

end Underlay
