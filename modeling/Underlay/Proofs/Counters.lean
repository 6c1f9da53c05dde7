import Underlay.Observer.Counters
import Underlay.Proofs.Run

/-!
# Counters under arbitrary use

Counters are told of blocks obtained and of blocks given back, whose sizes may be unknown or larger
than anything outstanding, and they are reset, all in any order. Every command leaves one event,
with the bytes outstanding before and behind it. A reset forgets what was before, so everything that
counters show can be read off the events since the last one.

The subtraction stops at zero. So the bytes given back may be more than the bytes obtained less the
bytes outstanding, and they are exactly that much as long as no return went beyond what was
outstanding at its time.
-/

namespace Underlay.Tracker

inductive Command where
  | obtain (size : Nat)
  | giveBack (size : Option Nat)
  | reset
deriving DecidableEq, Repr

inductive Event where
  | obtained (size before after : Nat)
  | returned (size : Option Nat) (before after : Nat)
  | reset
deriving DecidableEq, Repr

def perform (c : Counters) : Command → Event × Counters
  | .obtain size => (.obtained size c.current (c.onAlloc size).current, c.onAlloc size)
  | .giveBack size => (.returned size c.current (c.onFree size).current, c.onFree size)
  | .reset => (.reset, {})

def run (commands : List Command) : Run Counters Event :=
  Run.steps (fun run => perform run.state) { state := {} } commands

/-! What a history tells of the time since the last reset. -/

/-- The bytes obtained. -/
def obtained : List Event → Nat
  | [] | .reset :: _ => 0
  | .obtained size _ _ :: past => obtained past + size
  | .returned _ _ _ :: past => obtained past

/-- The bytes given back, as far as sizes are known. -/
def returned : List Event → Nat
  | [] | .reset :: _ => 0
  | .obtained _ _ _ :: past => returned past
  | .returned size _ _ :: past => returned past + size.getD 0

/-- The bytes outstanding at every point, the latest first. -/
def levels : List Event → List Nat
  | [] | .reset :: _ => [0]
  | .obtained _ _ after :: past | .returned _ _ after :: past => after :: levels past

/-- No return of known size went beyond what was outstanding. -/
def Covered : List Event → Prop
  | [] | .reset :: _ => True
  | .obtained _ _ _ :: past => Covered past
  | .returned size before _ :: past => size.getD 0 ≤ before ∧ Covered past

/-- Every level is the one before it with the size added, or with the size taken off over the
integers and zero in place of what is negative. -/
def Exact : List Event → Prop
  | [] | .reset :: _ => True
  | .obtained size before after :: past =>
      (levels past).head? = some before ∧ after = before + size ∧ Exact past
  | .returned size before after :: past =>
      (levels past).head? = some before ∧
        (after : Int) = max 0 ((before : Int) - (size.getD 0 : Nat)) ∧ Exact past

theorem le_of_max? {levels : List Nat} {peak level : Nat} (greatest : levels.max? = some peak)
    (reached : level ∈ levels) : level ≤ peak :=
  (List.max?_eq_some_iff.mp greatest).2 level reached

/-- Counters agree with a history. -/
structure Tracks (run : Run Counters Event) : Prop where
  allocated : run.state.totalAllocated = obtained run.history
  freed : run.state.totalFreed = returned run.history
  current : (levels run.history).head? = some run.state.current
  peak : (levels run.history).max? = some run.state.peak
  high : run.state.peak ≤ obtained run.history
  short : obtained run.history ≤ run.state.current + returned run.history
  covered : obtained run.history = run.state.current + returned run.history ↔ Covered run.history
  exact : Exact run.history

namespace Tracks

variable {c : Counters} {history : List Event}

theorem fresh (history : List Event) (forgotten : levels history = [0])
    (nothing : obtained history = 0) (none : returned history = 0) (covered : Covered history)
    (exact : Exact history) : Tracks { state := {}, history } := by
  refine ⟨nothing.symm, none.symm, ?_, ?_, Nat.zero_le _, ?_, ?_, exact⟩
  · rw [forgotten]
    rfl
  · rw [forgotten]
    rfl
  · simp [nothing]
  · simp [nothing, none, covered]

theorem current_le_peak (tracks : Tracks { state := c, history }) : c.current ≤ c.peak :=
  le_of_max? tracks.peak (List.mem_of_mem_head? tracks.current)

theorem obtain (tracks : Tracks { state := c, history }) (size : Nat)
    (below : obtained history + size < Word.limit) :
    Tracks { state := c.onAlloc size,
             history := .obtained size c.current (c.onAlloc size).current :: history } := by
  have low := tracks.current_le_peak
  have high : c.peak ≤ obtained history := tracks.high
  have short : obtained history ≤ c.current + returned history := tracks.short
  have covered : obtained history = c.current + returned history ↔ Covered history :=
    tracks.covered
  have total : (c.onAlloc size).totalAllocated = obtained history + size := by
    change Word.wrap (c.totalAllocated + size) = obtained history + size
    rw [show c.totalAllocated = obtained history from tracks.allocated]
    exact Nat.mod_eq_of_lt below
  have current : (c.onAlloc size).current = c.current + size :=
    Nat.mod_eq_of_lt (by omega)
  have peak : (c.onAlloc size).peak = max (c.current + size) c.peak := by
    rw [← current]
    exact Nat.max_comm _ _
  refine ⟨total, tracks.freed, rfl, ?_, ?_, ?_, ?_, tracks.current, current, tracks.exact⟩
  · rw [levels, List.max?_cons, tracks.peak, peak, current]
    rfl
  · simp only [peak, obtained]
    omega
  · simp only [current, obtained, returned]
    omega
  · simp only [current, obtained, returned, Covered, ← covered]
    omega

theorem giveBack (tracks : Tracks { state := c, history }) (size : Option Nat)
    (below : returned history + size.getD 0 < Word.limit) :
    Tracks { state := c.onFree size,
             history := .returned size c.current (c.onFree size).current :: history } := by
  have low := tracks.current_le_peak
  have short : obtained history ≤ c.current + returned history := tracks.short
  have covered : obtained history = c.current + returned history ↔ Covered history :=
    tracks.covered
  have freed : c.totalFreed = returned history := tracks.freed
  have total : (c.onFree size).totalFreed = returned history + size.getD 0 := by
    cases size with
    | none => exact freed
    | some size =>
        change Word.wrap (c.totalFreed + size) = returned history + size
        rw [freed]
        exact Nat.mod_eq_of_lt below
  have current : (c.onFree size).current = c.current - size.getD 0 := by
    cases size <;> rfl
  have kept :
      (c.onFree size).totalAllocated = c.totalAllocated ∧ (c.onFree size).peak = c.peak := by
    cases size <;> exact ⟨rfl, rfl⟩
  refine ⟨kept.1.trans tracks.allocated, total, rfl, ?_, ?_, ?_, ?_, tracks.current, ?_,
    tracks.exact⟩
  · rw [levels, List.max?_cons, tracks.peak, kept.2, current]
    exact congrArg some (Nat.max_eq_right (by simp only; omega))
  · rw [kept.2]
    exact tracks.high
  · simp only [current, obtained, returned]
    omega
  · simp only [current, obtained, returned, Covered, ← covered]
    omega
  · simp only [current]
    omega

end Tracks

/-- Totals that stay below the word are what a history tells. -/
theorem tracks_run (commands : List Command)
    (obtainedBelow : obtained (run commands).history < Word.limit)
    (returnedBelow : returned (run commands).history < Word.limit) : Tracks (run commands) := by
  -- A reset forgets the totals, so nothing is known of those before it, and nothing needs to be.
  have preserved : ∀ (run : Run Counters Event) (command : Command),
      (obtained run.history < Word.limit → returned run.history < Word.limit → Tracks run) →
        obtained (run.step (fun run => perform run.state) command).history < Word.limit →
          returned (run.step (fun run => perform run.state) command).history < Word.limit →
            Tracks (run.step (fun run => perform run.state) command) := by
    rintro ⟨c, history⟩ command tracks obtainedBelow returnedBelow
    cases command with
    | obtain size =>
        have before : obtained history + size < Word.limit := obtainedBelow
        exact (tracks (by simp only; omega) returnedBelow).obtain size before
    | giveBack size =>
        have before : returned history + size.getD 0 < Word.limit := returnedBelow
        exact (tracks obtainedBelow (by simp only; omega)).giveBack size before
    | reset => exact .fresh (.reset :: history) rfl rfl rfl trivial trivial
  exact Run.steps_induction _ preserved (fun _ _ => .fresh [] rfl rfl rfl trivial trivial) commands
    obtainedBelow returnedBelow

/-- Whatever counters are told, as long as the bytes obtained and the bytes given back since the
last reset stay below the word: the bytes outstanding are at most their peak, and the peak is at
most the bytes obtained. The bytes obtained are at most the bytes outstanding and given back, and as
many exactly if no return since the last reset went beyond what was outstanding. The peak is the
greatest of the levels since then, and the levels never wrap. -/
theorem levels_of_run (commands : List Command)
    (obtainedBelow : obtained (run commands).history < Word.limit)
    (returnedBelow : returned (run commands).history < Word.limit) :
    let ran := run commands
    let counters := ran.state
    (counters.current ≤ counters.peak ∧ counters.peak ≤ counters.totalAllocated) ∧
      counters.totalAllocated ≤ counters.current + counters.totalFreed ∧
      (counters.totalAllocated = counters.current + counters.totalFreed ↔ Covered ran.history) ∧
      (levels ran.history).head? = some counters.current ∧
      (levels ran.history).max? = some counters.peak ∧
      Exact ran.history ∧
      counters.totalAllocated = obtained ran.history ∧
      counters.totalFreed = returned ran.history := by
  intro ran counters
  have tracks : Tracks { state := counters, history := ran.history } :=
    tracks_run commands obtainedBelow returnedBelow
  have allocated : counters.totalAllocated = obtained ran.history := tracks.allocated
  have freed : counters.totalFreed = returned ran.history := tracks.freed
  refine ⟨⟨tracks.current_le_peak, ?_⟩, ?_, ?_, tracks.current, tracks.peak, tracks.exact,
    allocated, freed⟩
  · rw [allocated]
    exact tracks.high
  · rw [allocated, freed]
    exact tracks.short
  · rw [allocated, freed]
    exact tracks.covered

/-- Before the reset the totals pass the word. Behind it one return is beyond what is outstanding,
and the peak stands between a return of unknown size and one of a known size. -/
theorem levels_of_run_uncovered :
    let commands : List Command :=
      [.obtain 0xFFFFFFFFFFFFFFFF, .obtain 7, .giveBack (some 3), .reset, .obtain 10,
        .giveBack (some 40), .obtain 100, .giveBack none, .obtain 50, .giveBack (some 30)]
    let ran := run commands
    obtained ran.history < Word.limit ∧ returned ran.history < Word.limit ∧
      levels ran.history = [120, 150, 100, 100, 0, 10, 0] ∧ ran.state.peak = 150 ∧
      ¬Covered ran.history ∧
      ran.state.totalAllocated < ran.state.current + ran.state.totalFreed := by
  intro commands ran
  have obtainedBelow : obtained ran.history < Word.limit := by decide
  have returnedBelow : returned ran.history < Word.limit := by decide
  obtain ⟨-, short, covered, -, peak, -⟩ := levels_of_run commands obtainedBelow returnedBelow
  have listed : levels ran.history = [120, 150, 100, 100, 0, 10, 0] := by decide
  have beyond : ¬Covered ran.history := by
    rintro ⟨-, -, excess, -⟩
    exact absurd excess (by decide)
  refine ⟨obtainedBelow, returnedBelow, listed, ?_, beyond, ?_⟩
  · have greatest : (levels ran.history).max? = some 150 := by
      rw [listed]
      rfl
    exact Option.some.inj (peak.symm.trans greatest)
  · exact Nat.lt_of_le_of_ne short fun same => beyond (covered.mp same)

end Underlay.Tracker
