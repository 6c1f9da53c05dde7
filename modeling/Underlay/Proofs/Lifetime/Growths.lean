import Underlay.Proofs.Lifetime.Steps
import Underlay.Proofs.Settings.Overrides

/-!
# How often a pool can grow

No capacity that can be asked for, set or read is zero, so no pool has capacity zero. Since each
growth at least doubles the capacity and the capacity stays a size, a pool grows 63 times at most,
from its opening to its end.
-/

namespace Underlay

/-! No capacity is zero. -/

/-- A reader that works alone on a cell that nobody has looked at answers what the environment
says. -/
theorem Cell.get_unresolved {α : Type} (c : Cell α) (e : Environment) :
    c.get e c.unresolved = c.meaning (c.found e) := by
  have distinct := c.distinct
  have found := c.found_ne e
  simp [Cell.get, Cell.Reader.steps, Cell.Reader.step, Cell.Reader.answer?, Cell.read, distinct,
    found]

theorem PoolCapacity.accept_pos (capacity : Nat) : 0 < accept capacity :=
  Nat.pos_of_ne_zero (accept_ne capacity).1

theorem Environment.poolCapacity_settings_pos (e : Environment) :
    0 < e.settings.poolCapacity := by
  change 0 < Cell.poolCapacity.get e Cell.poolCapacity.unresolved
  rw [Cell.poolCapacity.get_unresolved]
  exact Nat.pos_of_ne_zero e.capacity_ne.1

/-- No reader of the capacity answers zero, whoever else is at work. -/
theorem Interleaving.pos_of_answered {commands : List (Interleaving.Command Nat)}
    {number answer : Nat}
    (answered : .answered number answer ∈ (run Cell.poolCapacity commands).history) :
    0 < answer := by
  obtain ⟨word, rfl⟩ := loaded_run Cell.poolCapacity commands number answer answered
  rcases Cell.poolCapacity.read_eq word with nothing | ⟨value, meant⟩
  · rw [nothing]
    exact Nat.pos_of_ne_zero PoolCapacity.default_ne.1
  · rw [meant]
    exact Nat.pos_of_ne_zero value.1

namespace Lifetime

/-! What holds along a run. -/

/-- The growths of a pool are counted, and each has doubled what it has. -/
structure Counted (p : Pool) (count : Nat) : Prop where
  counted : p.growths = count
  doubled : 2 ^ count ≤ p.capacity
  below : p.capacity < Word.limit

namespace Counted

variable {p p' : Pool} {count : Nat}

theorem positive (counted : Counted p count) : 0 < p.capacity :=
  Nat.lt_of_lt_of_le (Nat.two_pow_pos count) counted.doubled

theorem count_le (counted : Counted p count) : count ≤ 63 := by
  have below := Nat.lt_of_le_of_lt counted.doubled counted.below
  exact Word.le_of_mul_two_pow_lt Nat.one_pos (by simpa using below)

theorem resized (counted : Counted p count) (resized : Resized p p') :
    Counted p' (count + if p.capacity < p'.capacity then 1 else 0) := by
  have positive := counted.positive
  obtain ⟨counted, doubled, below⟩ := counted
  cases resized with
  | kept id capacity growths =>
      rw [if_neg (by omega), Nat.add_zero]
      exact ⟨growths.trans counted, capacity ▸ doubled, capacity ▸ below⟩
  | grown id twice below growths =>
      rw [if_pos (by omega)]
      refine ⟨by omega, ?_, below⟩
      calc 2 ^ (count + 1) = 2 * 2 ^ count := by ring
        _ ≤ 2 * p.capacity := Nat.mul_le_mul_left 2 doubled
        _ ≤ p'.capacity := twice

end Counted

theorem mem_of_answer? {reader answer : Nat} {history : List (Interleaving.Event Nat)}
    (answered : Program.answer? reader history = some answer) :
    .answered reader answer ∈ history := by
  fun_induction Program.answer? reader history with
  | case1 => cases answered
  | case2 past => exact Option.some.inj answered ▸ List.mem_cons_self
  | case3 number other past different inductionHypothesis =>
      exact List.mem_cons_of_mem _ (inductionHypothesis answered)
  | case4 event past silent inductionHypothesis =>
      exact List.mem_cons_of_mem _ (inductionHypothesis answered)

structure Tracks (run : Run Program (Nat → Bool)) : Prop where
  capacity : 0 < run.state.machine.session.poolCapacity
  cell : ∃ commands, run.state.cell = Interleaving.run Cell.poolCapacity commands
  /-- A number that is yet to be given out has no past. -/
  unused (pool : Nat) (new : run.state.machine.session.poolsOpened < pool) :
    run.state.machine.pool? pool = none ∧ growths pool run.history = 0
  counted (pool : Nat) (p : Pool) (found : run.state.machine.pool? pool = some p) :
    Counted p (growths pool run.history)
  most (pool : Nat) : growths pool run.history ≤ 63

namespace Tracks

variable {run : Run Program (Nat → Bool)} {after : Machine} {pool : Nat}

theorem step_advance (tracks : Tracks run) (command : Command) :
    Step run.state.machine (run.state.advance command).machine := by
  cases command with
  | pools command => exact step_pools tracks.capacity command
  | cell command => exact step_same tracks.capacity rfl rfl
  | adopt reader =>
      simp only [Program.advance]
      cases answered : Program.answer? reader run.state.cell.history with
      | none => exact step_same tracks.capacity rfl rfl
      | some capacity =>
          obtain ⟨commands, reached⟩ := tracks.cell
          have told := mem_of_answer? answered
          rw [reached] at told
          exact step_same (Interleaving.pos_of_answered told) rfl rfl
  | setPoolCapacity capacity => exact step_same (PoolCapacity.accept_pos capacity) rfl rfl

theorem cell_advance (tracks : Tracks run) (command : Command) :
    ∃ commands,
      (run.state.advance command).cell = Interleaving.run Cell.poolCapacity commands := by
  obtain ⟨commands, reached⟩ := tracks.cell
  have onCell (command : Interleaving.Command Nat) :
      (run.state.onCell command).cell =
        Interleaving.run Cell.poolCapacity (commands ++ [command]) := by
    rw [Interleaving.run, Run.steps_concat, ← Interleaving.run, ← reached]
    rfl
  cases command with
  | pools command => exact ⟨commands, reached⟩
  | cell command => exact ⟨_, onCell command⟩
  | adopt reader =>
      simp only [Program.advance]
      cases Program.answer? reader run.state.cell.history with
      | none => exact ⟨commands, reached⟩
      | some capacity => exact ⟨commands, reached⟩
  | setPoolCapacity capacity => exact ⟨_, onCell (.set capacity)⟩

theorem unused_fate (tracks : Tracks run) (fate : Fate run.state.machine after pool)
    (counter : run.state.machine.session.poolsOpened ≤ after.session.poolsOpened)
    (new : after.session.poolsOpened < pool) :
    after.pool? pool = none ∧
      growths pool (grew run.state.machine after :: run.history) = 0 := by
  obtain ⟨absent, none⟩ := tracks.unused pool (Nat.lt_of_le_of_lt counter new)
  rw [growths_cons, none]
  cases fate with
  | absent gone => simp [grew, gone]
  | opened new' given absent found positive below growths =>
      exact absurd new (Nat.not_lt_of_le given)
  | resized found found' resized => cases absent.symm.trans found

theorem counted_fate (tracks : Tracks run) (fate : Fate run.state.machine after pool) {p : Pool}
    (reached : after.pool? pool = some p) :
    Counted p (growths pool (grew run.state.machine after :: run.history)) := by
  rw [growths_cons]
  cases fate with
  | absent gone => cases gone.symm.trans reached
  | opened new given absent found positive below growths =>
      obtain rfl : _ = p := Option.some.inj (found.symm.trans reached)
      rw [(tracks.unused pool new).2]
      simp only [grew, absent, Bool.false_eq_true, if_false]
      exact ⟨growths, positive, below⟩
  | resized found found' resized =>
      obtain rfl : _ = p := Option.some.inj (found'.symm.trans reached)
      simp only [grew, found, found', decide_eq_true_eq]
      exact (tracks.counted pool _ found).resized resized

theorem most_fate (tracks : Tracks run) (fate : Fate run.state.machine after pool) :
    growths pool (grew run.state.machine after :: run.history) ≤ 63 := by
  cases reached : after.pool? pool with
  | some p => exact (tracks.counted_fate fate reached).count_le
  | none =>
      -- A pool that is gone does not grow any more.
      have still : grew run.state.machine after pool = false := by simp [grew, reached]
      rw [growths_cons, still]
      exact tracks.most pool

theorem step (tracks : Tracks run) (command : Command) : Tracks (run.step perform command) := by
  have step := tracks.step_advance command
  exact
    { capacity := step.capacity
      cell := tracks.cell_advance command
      unused := fun pool new => tracks.unused_fate (step.fate pool) step.counter new
      counted := fun pool p found => tracks.counted_fate (step.fate pool) found
      most := fun pool => tracks.most_fate (step.fate pool) }

end Tracks

theorem tracks_run (machine : Machine) (e : Environment) (commands : List Command) :
    Tracks (run machine e commands) := by
  refine Run.steps_induction perform (fun run command tracks => tracks.step command) ?_ commands
  exact
    { capacity := e.poolCapacity_settings_pos
      cell := ⟨[], rfl⟩
      unused := fun pool new => ⟨rfl, rfl⟩
      counted := fun pool p found => nomatch found
      most := fun pool => Nat.zero_le 63 }

/-- However pools are opened, filled, reset and closed, whatever capacity they are opened with, and
however readers and setters of that capacity interleave: an open pool has a capacity of one at
least. So the loop by which it grows ends, with the least double that is enough if that is a size,
and with a failure of memory if not and only then. No pool grows more than 63 times, and its count
of growths, which half a word holds, is how often it grew. -/
theorem growth_of_run (machine : Machine) (e : Environment) (commands : List Command) :
    let ran := run machine e commands
    (∀ pool p, ran.state.machine.pool? pool = some p →
      1 ≤ p.capacity ∧ (∀ needed, p.capacity < needed → p.GrowsToLeast needed) ∧
        p.growths = growths pool ran.history ∧ p.growths < Word.halfLimit) ∧
      ∀ pool, growths pool ran.history ≤ 63 := by
  intro ran
  have tracks : Tracks ran := tracks_run machine e commands
  refine ⟨fun pool p found => ?_, tracks.most⟩
  have counted := tracks.counted pool p found
  refine ⟨counted.positive, fun needed short => Pool.growsToLeast counted.positive short,
    counted.counted, ?_⟩
  rw [counted.counted]
  exact Nat.lt_of_le_of_lt counted.count_le (by decide)

/-- One pool has the capacity that a reader found in the environment, another one the default,
for its reader came while the first was at work, and a third one the default for zero. The first
pool grows twice, with a request between that the system refuses. From 384 bytes it would come to
1536 for the want of 1000, and for the want of the last multiple of eight to no size. -/
theorem growth_of_run_while_resolving :
    let e : Environment := { poolCapacity := some " 24 " }
    let commands : List Command :=
      [.cell (.call e), .cell (.advance 0), .cell (.advance 0), .cell (.call e), .cell (.advance 1),
        .cell (.advance 0), .cell (.advance 0), .adopt 0, .pools (.openPool none), .adopt 1,
        .pools (.openPool (some 0)), .pools (.alloc 1 100),
        .pools (.setSystem { grants := fun _ => false }), .pools (.alloc 1 1000),
        .pools (.setSystem {}), .pools (.reset 1), .pools (.allocRaw 1 200), .setPoolCapacity 0,
        .pools (.openPool none), .pools (.close 2)]
    let ran := run {} e commands
    ran.state.machine.pools.map Pool.capacity = [384, 4096] ∧
      ∃ p, ran.state.machine.pool? 1 = some p ∧ p.capacity = 384 ∧ p.growths = 2 ∧
        (∃ p', (p.grow {} 1000 {}).1 = .ok p' ∧ p'.capacity = 1536) ∧
        (p.grow {} (Word.limit - 8) {}).1 = .error (Pool.exhausted (Word.limit - 8)) := by
  intro e commands ran
  have capacities : ran.state.machine.pools.map Pool.capacity = [384, 4096] := by decide +kernel
  have capacity : (ran.state.machine.pool? 1).map Pool.capacity = some 384 := by decide +kernel
  have twice : growths 1 ran.history = 2 := by decide +kernel
  obtain ⟨p, found, capacity⟩ := Option.map_eq_some_iff.mp capacity
  obtain ⟨-, grows, counted, -⟩ := (growth_of_run {} e commands).1 1 p found
  refine ⟨capacities, p, found, capacity, counted.trans twice, ?_, ?_⟩
  · have enlarged : Pool.enlarge 384 1000 = some 1536 := by decide +kernel
    apply ((grows 1000 (by omega)).grown {} {} 1536).mpr
    rw [capacity]
    exact ⟨Pool.isLeast_of_enlarge enlarged, by decide, by decide⟩
  · have exceeded : Pool.enlarge 384 (Word.limit - 8) = none := by decide +kernel
    apply ((grows (Word.limit - 8) (by rw [capacity]; decide)).refused {} {}).mpr
    rw [capacity]
    exact fun double member => Pool.limit_le_of_enlarge (by decide) exceeded member

end Lifetime

end Underlay
