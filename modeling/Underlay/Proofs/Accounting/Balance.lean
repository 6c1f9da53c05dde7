import Underlay.Proofs.Accounting.Step

/-!
# Counters balance with what is open

Along every run the counters say what the ledger says: the bytes outstanding are the bytes of the
open scopes and pools, and with the bytes given back they make up the bytes obtained. In particular
an account never gives back more than is outstanding, so the subtraction never stops at zero. The
invariant `Tracks` keeps ledger, counters and history together; as the ledger changes in one place
at a time, each step is one addition.
-/

namespace Underlay.Accounting

namespace Gain

variable {account other : Account} {event : Event} {bytes : Nat}

theorem bytes_eq (gain : Gain account event bytes) : event.bytes = bytes := by
  cases gain <;> rfl

theorem bytesOf_self (gain : Gain account event bytes) : event.bytesOf account = bytes := by
  cases gain with
  | told positive => exact if_pos rfl
  | idle => rfl

theorem bytesOf_of_ne (gain : Gain account event bytes) (distinct : other ≠ account) :
    event.bytesOf other = 0 := by
  cases gain with
  | told positive => exact if_neg (Ne.symm distinct)
  | idle => rfl

theorem obtained_self (gain : Gain account event bytes) (history : List Event) :
    obtained account (event :: history) = obtained account history + bytes := by
  rw [obtained_cons, gain.bytesOf_self, Nat.add_comm]

/-- The other entries of a ledger are as they were. -/
theorem obtained_of_mem {rest : List (Account × Nat)} {held : Nat} (gain : Gain account event bytes)
    (absent : account ∉ rest.map Prod.fst) (member : (other, held) ∈ rest)
    (history : List Event) : obtained other (event :: history) = obtained other history := by
  have distinct : other ≠ account := by
    rintro rfl
    exact absent (List.mem_map.mpr ⟨_, member, rfl⟩)
  rw [obtained_cons, gain.bytesOf_of_ne distinct, Nat.zero_add]

theorem positive {amount : Nat} (gain : Gain account event bytes)
    (told : event = .obtained other amount) : 0 < amount := by
  cases gain with
  | told positive =>
      cases told
      exact positive
  | idle => cases told

end Gain

namespace Step

variable {before after : Machine} {event : Event} {account : Account} {bytes : Nat}

theorem positive (taken : Step before event after) (told : event = .obtained account bytes) :
    0 < bytes := by
  cases taken.entry with
  | kept | closed => cases told
  | opened gain | filled gain => exact gain.positive told

/-- An account that stays unopened gets nothing. -/
theorem unused (taken : Step before event after) (unused : account.Unused after)
    (absent : account ∉ (ledger before).map Prod.fst) :
    account ∉ (ledger after).map Prod.fst ∧ event.bytesOf account = 0 := by
  cases taken.entry with
  | kept same tells =>
      exact ⟨fun member => absent ((same.map Prod.fst).mem_iff.mp member), rfl⟩
  | opened gain _ used solid entered tells =>
      rename_i other bytes fresh
      have distinct : account ≠ other := by
        rintro rfl
        exact used unused
      refine ⟨fun member => ?_, gain.bytesOf_of_ne distinct⟩
      rcases List.mem_cons.mp ((entered.map Prod.fst).mem_iff.mp member) with same | earlier
      · exact distinct same
      · exact absent earlier
  | filled gain holding entered tells =>
      rename_i other held bytes rest
      rw [(holding.map Prod.fst).mem_iff, List.map_cons, List.mem_cons, not_or] at absent
      refine ⟨fun member => ?_, gain.bytesOf_of_ne absent.1⟩
      rcases List.mem_cons.mp ((entered.map Prod.fst).mem_iff.mp member) with same | earlier
      · exact absent.1 same
      · exact absent.2 earlier
  | closed struck tells =>
      rw [(struck.map Prod.fst).mem_iff, List.map_cons, List.mem_cons, not_or] at absent
      exact ⟨absent.2, rfl⟩

end Step

/-- A ledger and what was given back agree with a history. -/
structure Agrees (entries : List (Account × Nat)) (returned : Nat) (history : List Event) :
    Prop where
  distinct : (entries.map Prod.fst).Nodup
  held : ∀ account held, (account, held) ∈ entries → held = obtained account history
  /-- Nothing was given back that is outstanding. -/
  sum : (entries.map Prod.snd).sum + returned = total history
  solid : ∀ pool held, (.pool pool, held) ∈ entries → 0 < held

namespace Agrees

variable {entries entries' rest : List (Account × Nat)} {returned held bytes : Nat}
  {history : List Event} {event : Event} {account : Account}

/-- The order of a ledger does not matter. -/
theorem perm (agrees : Agrees entries returned history) (same : entries.Perm entries') :
    Agrees entries' returned history := by
  refine ⟨?_, ?_, ?_, ?_⟩
  · exact (same.map Prod.fst).nodup_iff.mp agrees.distinct
  · intro account held member
    exact agrees.held account held (same.mem_iff.mpr member)
  · rw [← (same.map Prod.snd).sum_nat]
    exact agrees.sum
  · intro pool held member
    exact agrees.solid pool held (same.mem_iff.mpr member)

theorem idle (agrees : Agrees entries returned history) :
    Agrees entries returned (.idle :: history) := by
  refine ⟨agrees.distinct, ?_, ?_, agrees.solid⟩
  · intro account held member
    simpa [Event.bytesOf] using agrees.held account held member
  · simpa [Event.bytes] using agrees.sum

theorem opened (agrees : Agrees entries returned history)
    (absent : account ∉ entries.map Prod.fst) (nothing : obtained account history = 0)
    (solid : ∀ pool, account = .pool pool → 0 < bytes) (gain : Gain account event bytes) :
    Agrees ((account, bytes) :: entries) returned (event :: history) := by
  refine ⟨List.nodup_cons.mpr ⟨absent, agrees.distinct⟩, ?_, ?_, ?_⟩
  · intro other held member
    rcases List.mem_cons.mp member with same | earlier
    · obtain ⟨rfl, rfl⟩ := Prod.mk.inj same
      rw [gain.obtained_self, nothing, Nat.zero_add]
    · rw [gain.obtained_of_mem absent earlier]
      exact agrees.held other held earlier
  · have sum := agrees.sum
    rw [total_cons, gain.bytes_eq, List.map_cons, List.sum_cons]
    omega
  · intro pool held member
    rcases List.mem_cons.mp member with same | earlier
    · obtain ⟨named, rfl⟩ := Prod.mk.inj same
      exact solid pool named.symm
    · exact agrees.solid pool held earlier

theorem filled (agrees : Agrees ((account, held) :: rest) returned history)
    (gain : Gain account event bytes) :
    Agrees ((account, held + bytes) :: rest) returned (event :: history) := by
  obtain ⟨absent, distinct⟩ := List.nodup_cons.mp agrees.distinct
  refine ⟨agrees.distinct, ?_, ?_, ?_⟩
  · intro other amount member
    rcases List.mem_cons.mp member with same | earlier
    · obtain ⟨rfl, rfl⟩ := Prod.mk.inj same
      rw [gain.obtained_self, ← agrees.held other held List.mem_cons_self]
    · rw [gain.obtained_of_mem absent earlier]
      exact agrees.held other amount (List.mem_cons_of_mem _ earlier)
  · have sum := agrees.sum
    rw [List.map_cons, List.sum_cons] at sum ⊢
    rw [total_cons, gain.bytes_eq]
    omega
  · intro pool amount member
    rcases List.mem_cons.mp member with same | earlier
    · obtain ⟨rfl, rfl⟩ := Prod.mk.inj same
      exact Nat.lt_of_lt_of_le (agrees.solid pool held List.mem_cons_self) (Nat.le_add_right _ _)
    · exact agrees.solid pool amount (List.mem_cons_of_mem _ earlier)

theorem closed (agrees : Agrees ((account, held) :: rest) returned history) :
    Agrees rest (returned + held) (.idle :: history) := by
  refine idle ⟨(List.nodup_cons.mp agrees.distinct).2, ?_, ?_, ?_⟩
  · intro other amount member
    exact agrees.held other amount (List.mem_cons_of_mem _ member)
  · have sum := agrees.sum
    rw [List.map_cons, List.sum_cons] at sum
    omega
  · intro pool amount member
    exact agrees.solid pool amount (List.mem_cons_of_mem _ member)

end Agrees

structure Tracks (run : Run Machine Event) : Prop where
  capacity : 0 < run.state.session.poolCapacity
  counted : ∃ returned, run.state.observer.Counted (total run.history) returned ∧
    Agrees (ledger run.state) returned run.history
  /-- Accounts that are yet to be opened are in neither the ledger nor the history. -/
  unused : ∀ account : Account, account.Unused run.state →
    account ∉ (ledger run.state).map Prod.fst ∧ obtained account run.history = 0
  positive : ∀ account bytes, .obtained account bytes ∈ run.history → 0 < bytes

namespace Tracks

variable {machine after : Machine} {history : List Event} {event : Event}

theorem regular {run : Run Machine Event} (tracks : Tracks run) : Regular run.state := by
  obtain ⟨returned, -, agrees⟩ := tracks.counted
  exact ⟨agrees.distinct, fun account unused => (tracks.unused account unused).1, tracks.capacity⟩

theorem step (tracks : Tracks { state := machine, history }) (taken : Step machine event after)
    (below : total (event :: history) < Word.limit) :
    Tracks { state := after, history := event :: history } := by
  obtain ⟨returned, counted, agrees⟩ := tracks.counted
  simp only at counted agrees
  have enough := agrees.sum
  rw [total_cons] at below
  refine ⟨taken.capacity, ?_, ?_, ?_⟩
  · cases taken.entry with
    | kept same tells =>
        exact ⟨returned, by simpa [Event.bytes] using tells _ _ counted (by omega) (by omega),
          (agrees.perm same.symm).idle⟩
    | opened gain unused used solid entered tells =>
        obtain ⟨absent, nothing⟩ := tracks.unused _ unused
        rw [gain.bytes_eq] at below
        refine ⟨returned, ?_, (agrees.opened absent nothing solid gain).perm entered.symm⟩
        simpa [gain.bytes_eq, Nat.add_comm] using tells _ _ counted (by omega) (by omega)
    | filled gain holding entered tells =>
        rw [gain.bytes_eq] at below
        refine ⟨returned, ?_, ((agrees.perm holding).filled gain).perm entered.symm⟩
        simpa [gain.bytes_eq, Nat.add_comm] using tells _ _ counted (by omega) (by omega)
    | closed struck tells =>
        -- What the account held is part of what is outstanding, so no subtraction stops at zero.
        have struck' := agrees.perm struck
        have outstanding := struck'.sum
        rw [List.map_cons, List.sum_cons] at outstanding
        refine ⟨_, ?_, struck'.closed⟩
        simpa [Event.bytes] using tells _ _ counted (by omega) (by omega)
  · intro account unused
    obtain ⟨absent, nothing⟩ := tracks.unused account (taken.numbers account unused)
    obtain ⟨absent, quiet⟩ := taken.unused unused absent
    exact ⟨absent, by rw [obtained_cons, quiet, nothing]⟩
  · intro account bytes member
    rcases List.mem_cons.mp member with told | earlier
    · exact taken.positive told.symm
    · exact tracks.positive account bytes earlier

end Tracks

/-- A start: nothing is open, memory is counted, and nothing has been counted yet. -/
structure Fresh (machine : Machine) : Prop where
  scopes : machine.scopes = []
  pools : machine.pools = []
  counts : machine.observer.tracking.counts = true
  counters : machine.observer.counters = {}
  capacity : 0 < machine.session.poolCapacity

theorem tracks_run {machine : Machine} (fresh : Fresh machine) (commands : List Command)
    (below : total (run machine commands).history < Word.limit) :
    Tracks (run machine commands) := by
  have start : Tracks { state := machine } := by
    have empty : ledger machine = [] := by
      rw [ledger, fresh.scopes, fresh.pools]
      rfl
    refine ⟨fresh.capacity, ⟨0, ?_, ?_⟩, ?_, ?_⟩
    · refine ⟨fresh.counts, ?_, ?_, ?_⟩ <;> simp [fresh.counters, total]
    · refine ⟨?_, ?_, ?_, ?_⟩ <;> simp [empty, total]
    · intro account unused
      simp [empty, obtained]
    · intro account bytes member
      cases member
  -- The bound is on the whole history, and what came before one step stays below it too.
  have preserved : ∀ (run : Run Machine Event) (command : Command),
      (total run.history < Word.limit → Tracks run) →
        total (run.step (fun run => perform run.state) command).history < Word.limit →
          Tracks (run.step (fun run => perform run.state) command) := by
    intro run command tracks below
    change total ((perform run.state command).1 :: run.history) < Word.limit at below
    have earlier : total run.history < Word.limit := by
      rw [total_cons] at below
      omega
    exact (tracks earlier).step (step_perform (tracks earlier).regular command) below
  exact Run.steps_induction _ preserved (fun _ => start) commands below

theorem Tracks.holdings {run : Run Machine Event} (tracks : Tracks run) :
    ((ledger run.state).map Prod.snd).sum =
      (run.state.scopes.map fun s => obtained (.scope s.scope.id) run.history).sum +
        (run.state.pools.map Pool.capacity).sum := by
  obtain ⟨returned, -, agrees⟩ := tracks.counted
  have scopes : run.state.scopes.map (fun s => s.scope.bytes) =
      run.state.scopes.map fun s => obtained (.scope s.scope.id) run.history := by
    apply List.map_congr_left
    intro s member
    exact agrees.held _ _ (List.mem_append_left _ (List.mem_map_of_mem member))
  rw [← scopes, ledger, List.map_append, List.sum_append, List.map_map, List.map_map]
  rfl

theorem Tracks.obtained_eq_zero {run : Run Machine Event} (tracks : Tracks run)
    (account : Account) :
    obtained account run.history = 0 ↔ ∀ bytes, .obtained account bytes ∉ run.history := by
  rw [obtained, List.sum_eq_zero_iff_forall_eq_nat, List.forall_mem_map]
  constructor
  · intro nothing bytes member
    have positive := tracks.positive account bytes member
    have none := nothing _ member
    rw [Event.bytesOf, if_pos rfl] at none
    omega
  · intro silent event member
    cases event with
    | idle => rfl
    | obtained other bytes =>
        refine if_neg ?_
        rintro rfl
        exact silent bytes member

/-- Nothing is outstanding if no pool is open and no open scope ever obtained a block. -/
theorem Tracks.holdings_eq_zero {run : Run Machine Event} (tracks : Tracks run) :
    ((ledger run.state).map Prod.snd).sum = 0 ↔
      run.state.pools = [] ∧
        ∀ s ∈ run.state.scopes, ∀ bytes, .obtained (.scope s.scope.id) bytes ∉ run.history := by
  obtain ⟨returned, -, agrees⟩ := tracks.counted
  rw [tracks.holdings, Nat.add_eq_zero_iff, and_comm, List.sum_eq_zero_iff_forall_eq_nat,
    List.sum_eq_zero_iff_forall_eq_nat, List.forall_mem_map, List.forall_mem_map]
  refine and_congr ?_ ?_
  · constructor
    · intro empty
      apply List.eq_nil_iff_forall_not_mem.mpr
      intro p member
      have solid := agrees.solid p.id p.capacity
        (List.mem_append_right _ (List.mem_map_of_mem (f := poolEntry) member))
      exact absurd (empty p member) (Nat.ne_of_gt solid)
    · intro closed p member
      rw [closed] at member
      cases member
  · exact forall₂_congr fun s member => tracks.obtained_eq_zero (.scope s.scope.id)

/-- As long as fewer bytes than the word holds were obtained, the bytes outstanding are what the
open scopes allocated and the capacities of the open pools, and they are the bytes obtained less
the bytes given back. There are leaks unless no pool is open and no open scope allocated a block. -/
theorem counters_of_run (machine : Machine) (fresh : Fresh machine) (commands : List Command)
    (below : total (run machine commands).history < Word.limit) :
    let ran := run machine commands
    let counters := ran.state.observer.counters
    counters.current =
      (ran.state.scopes.map fun s => obtained (.scope s.scope.id) ran.history).sum +
        (ran.state.pools.map Pool.capacity).sum ∧
    counters.totalAllocated = total ran.history ∧
    counters.totalFreed ≤ counters.totalAllocated ∧
    counters.current = counters.totalAllocated - counters.totalFreed ∧
    (counters.hasLeaks = false ↔
      ran.state.pools = [] ∧
        ∀ s ∈ ran.state.scopes, ∀ bytes, .obtained (.scope s.scope.id) bytes ∉ ran.history) := by
  intro ran counters
  have tracks : Tracks ran := tracks_run fresh commands below
  obtain ⟨returned, counted, agrees⟩ := tracks.counted
  have outstanding : counters.current + returned = total ran.history := counted.current
  have allocated : counters.totalAllocated = total ran.history := counted.allocated
  have freed : counters.totalFreed = returned := counted.freed
  have current : counters.current = ((ledger ran.state).map Prod.snd).sum := by
    have sum := agrees.sum
    omega
  refine ⟨current.trans tracks.holdings, allocated, ?_, ?_, ?_⟩
  · omega
  · omega
  · rw [← tracks.holdings_eq_zero, ← current]
    simp [Counters.hasLeaks]

/-- Two scopes share a heap with room for three blocks, and one pool grows. Requests of each kind
fail, a scope adopts a block of the other one, and for a while records are kept. -/
theorem counters_of_run_shared_heap :
    let machine := (({} : Machine).addRecorder (some 3)).2.observe { tracking := .stats }
    let commands : List Command :=
      [.openScope 1, .openScope 1, .openPool (some 8), .alloc 1 100, .carve 1 3,
        .keepRecords true, .carve 1 20, .allocZeroed 2 5 8, .allocZeroed 2 0x100000000 0x100000000,
        .register 2 (some { heap := 1, number := 0 }), .register 2 none, .alloc 2 0,
        .setSystem { grants := fun _ => false }, .carve 1 500, .openPool (some 64),
        .resetPool 1, .keepRecords false, .alloc 1 7, .alloc 1 9, .closeScope 2]
    let closing : List Command := commands ++ [.closePool 1, .closeScope 1]
    Fresh machine ∧ total (run machine closing).history < Word.limit ∧
      (run machine commands).state.observer.counters.current = 100 + 7 + 32 ∧
      (run machine closing).state.observer.counters.hasLeaks = false := by
  intro machine commands closing
  have fresh : Fresh machine := ⟨rfl, rfl, rfl, rfl, by decide⟩
  have below : total (run machine commands).history < Word.limit := by decide +kernel
  have below' : total (run machine closing).history < Word.limit := by decide +kernel
  refine ⟨fresh, below', ?_, ?_⟩
  · rw [(counters_of_run machine fresh commands below).1]
    decide +kernel
  · refine (counters_of_run machine fresh closing below').2.2.2.2.mpr ⟨?_, ?_⟩
    · exact List.length_eq_zero_iff.mp (by decide +kernel)
    · have closed : (run machine closing).state.scopes.length = 0 := by decide +kernel
      rw [List.length_eq_zero_iff.mp closed]
      simp

end Underlay.Accounting
