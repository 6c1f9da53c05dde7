import Underlay.Proofs.Pools.Layout

/-!
# Requests given again

Where the blocks of an empty pool are put depends on the sizes that are asked for and on nothing
else: not on its capacity, nor on when its buffer moves. A pool that is reset keeps its buffer, so
it has room for as much as it held before.
-/

namespace Underlay.Layout

/-- The sizes that a command asks for, one or none. -/
def Command.asks : Command → List Nat
  | .alloc size | .allocRaw size => [size]
  | .reset | .setSystem _ => []

def requests (commands : List Command) : List Nat :=
  commands.flatMap Command.asks

@[simp]
theorem requests_concat (commands : List Command) (command : Command) :
    requests (commands ++ [command]) = requests commands ++ command.asks := by
  simp [requests]

/-- Blocks are asked for without a reset in between, and every request is served. -/
structure Serves (site : Site) (commands : List Command) : Prop where
  unbroken : .reset ∉ commands
  served : ∀ failure, .refused failure ∉ (run site commands).history

def cleared (site : Site) : Site :=
  (perform site .reset).2

/-- A pool that was just opened or just reset. -/
inductive Blank : Site → Prop where
  | opened {asked : Option Nat} {site : Site} (opened : Opened asked site) : Blank site
  | reset (site : Site) : Blank (cleared site)

theorem Blank.empty {site : Site} (blank : Blank site) :
    site.pool.used = 0 ∧ site.pool.allocations = 0 := by
  cases blank with
  | opened opened => exact ⟨opened.empty.1, opened.empty.2.1⟩
  | reset site => exact ⟨rfl, rfl⟩

section Requests

variable {site : Site} {commands : List Command} {command : Command}

theorem serves_nil (site : Site) : Serves site [] :=
  ⟨List.not_mem_nil, fun _ => List.not_mem_nil⟩

theorem serves_concat : Serves site (commands ++ [command]) ↔
    Serves site commands ∧ command ≠ .reset ∧
      ∀ failure, (perform (run site commands).state command).1 ≠ .refused failure := by
  constructor
  · rintro ⟨unbroken, served⟩
    simp only [List.mem_append, List.mem_singleton, not_or] at unbroken
    simp only [history_run_concat, List.mem_cons, not_or] at served
    exact ⟨⟨unbroken.1, fun failure => (served failure).2⟩, Ne.symm unbroken.2,
      fun failure => Ne.symm (served failure).1⟩
  · rintro ⟨⟨unbroken, served⟩, kept, answered⟩
    constructor
    · simpa using ⟨unbroken, Ne.symm kept⟩
    · intro failure
      simpa [history_run_concat] using ⟨Ne.symm (answered failure), served failure⟩

/-- A request that is served is told with its size. -/
theorem sizes_perform (kept : command ≠ .reset)
    (answered : ∀ failure, (perform site command).1 ≠ .refused failure) (past : List Event) :
    sizes ((perform site command).1 :: past) = sizes past ++ command.asks := by
  have told (size : Nat) (extent : Handle → Extent)
      (answered : ∀ failure, (carve site size extent).1 ≠ .refused failure) :
      sizes ((carve site size extent).1 :: past) = sizes past ++ [size] := by
    unfold carve at answered ⊢
    split
    · rfl
    · rename_i failure o refused
      simp [refused] at answered
  cases command with
  | alloc size => exact told size _ answered
  | allocRaw size => exact told size _ answered
  | reset => exact absurd rfl kept
  | setSystem system => exact (List.append_nil _).symm

theorem sizes_run (serves : Serves site commands) :
    sizes (run site commands).history = requests commands := by
  induction commands using List.reverseRecOn with
  | nil => rfl
  | append_singleton commands command inductionHypothesis =>
      obtain ⟨earlier, kept, answered⟩ := serves_concat.mp serves
      rw [history_run_concat, sizes_perform kept answered, inductionHypothesis earlier,
        requests_concat]

theorem blocks_run (blank : Blank site) (serves : Serves site commands) :
    blocks (run site commands).history = stacked 0 (requests commands) := by
  obtain ⟨used, allocations⟩ := blank.empty
  rw [(tracks_run used allocations commands).blocks, sizes_run serves]

end Requests

section Room

variable {site : Site}

/-- What a pool has served without moving its buffer. -/
structure Holds (before : Pool) (sizes : List Nat) (after : Pool) : Prop where
  used : after.used = before.used + taken sizes
  capacity : after.capacity = before.capacity
  growths : after.growths = before.growths

theorem Holds.trans {before between after : Pool} {sizes later : List Nat}
    (holds : Holds before sizes between) (holds' : Holds between later after) :
    Holds before (sizes ++ later) after where
  used := by rw [holds'.used, holds.used, taken_append, Nat.add_assoc]
  capacity := holds'.capacity.trans holds.capacity
  growths := holds'.growths.trans holds.growths

theorem carve_of_room {size : Nat} (extent : Handle → Extent)
    (fits : site.pool.used + Pool.rounded size ≤ site.pool.capacity)
    (small : site.pool.used + Pool.rounded size < Word.limit) :
    (∀ failure, (carve site size extent).1 ≠ .refused failure) ∧
      Holds site.pool [size] (carve site size extent).2.pool := by
  obtain ⟨handle, p, done, measured⟩ :=
    Pool.alloc_of_room fits small site.session.system site.session.observer
  obtain ⟨capacity, growths⟩ := measured.stays (measured.used ▸ fits)
  have carved : carve site size extent =
      (.carved size (extent handle),
        { pool := p, session := site.session.observe site.session.observer }) := by
    unfold carve
    rw [done]
  rw [carved]
  exact ⟨fun _ => nofun, measured.used, capacity, growths⟩

theorem perform_of_room {command : Command} (kept : command ≠ .reset)
    (fits : site.pool.used + taken command.asks ≤ site.pool.capacity)
    (small : site.pool.used + taken command.asks < Word.limit) :
    (∀ failure, (perform site command).1 ≠ .refused failure) ∧
      Holds site.pool command.asks (perform site command).2.pool := by
  cases command with
  | alloc size => exact carve_of_room _ fits small
  | allocRaw size => exact carve_of_room _ fits small
  | reset => exact absurd rfl kept
  | setSystem system => exact ⟨fun _ => nofun, rfl, rfl, rfl⟩

/-- Requests that together fit into the buffer are served from it, whatever the system says. -/
theorem run_of_room {commands : List Command} (unbroken : .reset ∉ commands)
    (fits : site.pool.used + taken (requests commands) ≤ site.pool.capacity)
    (small : site.pool.used + taken (requests commands) < Word.limit) :
    Serves site commands ∧ Holds site.pool (requests commands) (run site commands).state.pool := by
  induction commands using List.reverseRecOn with
  | nil => exact ⟨serves_nil site, rfl, rfl, rfl⟩
  | append_singleton commands command inductionHypothesis =>
      simp only [List.mem_append, List.mem_singleton, not_or] at unbroken
      simp only [requests_concat, taken_append] at fits small
      obtain ⟨serves, holds⟩ := inductionHypothesis unbroken.1 (by omega) (by omega)
      obtain ⟨answered, holds'⟩ :=
        @perform_of_room (run site commands).state command (Ne.symm unbroken.2)
          (by rw [holds.used, holds.capacity]; omega) (by rw [holds.used]; omega)
      refine ⟨serves_concat.mpr ⟨serves, Ne.symm unbroken.2, answered⟩, ?_⟩
      rw [state_run_concat, requests_concat]
      exact holds.trans holds'

end Room

/-- Two pools, each just opened or just reset, that serve the same requests put the blocks in the
same places. A pool that is reset serves whatever takes no more than what was used of it, without
moving its buffer. -/
theorem replay_of_runs :
    (∀ (site other : Site) (commands others : List Command), Blank site → Blank other →
      Serves site commands → Serves other others → requests commands = requests others →
      (blocks (run site commands).history).map Extent.length = requests commands ∧
        blocks (run site commands).history = blocks (run other others).history) ∧
    ∀ (asked : Option Nat) (site : Site) (commands again : List Command), Opened asked site →
      .reset ∉ again →
      let reached := (run site commands).state
      taken (requests again) ≤ reached.pool.used →
        Serves (cleared reached) again ∧
          (run (cleared reached) again).state.pool.capacity = reached.pool.capacity ∧
          (run (cleared reached) again).state.pool.growths = reached.pool.growths := by
  constructor
  · intro site other commands others blank blank' serves serves' same
    rw [blocks_run blank serves, blocks_run blank' serves', ← same]
    exact ⟨map_length_stacked 0 _, rfl⟩
  · intro asked site commands again opened unbroken reached bounded
    have tracks : Tracks site.pool reached.pool (run site commands).history :=
      tracks_run opened.empty.1 opened.empty.2.1 commands
    have room := Nat.le_trans bounded tracks.room
    have small := Nat.lt_of_le_of_lt bounded tracks.small
    rw [← Nat.zero_add (taken _)] at room small
    obtain ⟨serves, holds⟩ := @run_of_room (cleared reached) again unbroken room small
    exact ⟨serves, holds.capacity, holds.growths⟩

/-- A buffer of eight bytes is doubled three times on the way. After a reset the same sizes need
nothing from the system, and neither do others that take as much. -/
theorem replay_of_runs_moved_buffer :
    let small : Site :=
      { pool := { id := 1, capacity := 8, memory := (System.fresh {}).fill 0 8 0 }
        session := (({} : Session).openPool (some 8)).2 }
    let commands : List Command := [.alloc 5, .allocRaw 0, .alloc 30]
    let refusing : Command := .setSystem { grants := fun _ => false }
    let others : List Command := [.allocRaw 5, refusing, .alloc 0, .alloc 30]
    let again : List Command := [refusing, .alloc 17, .allocRaw 9]
    Opened (some 8) small ∧ Serves small commands ∧
      Serves (cleared (run small commands).state) others ∧
      blocks (run small commands).history =
        blocks (run (cleared (run small commands).state) others).history ∧
      Serves (cleared (run small commands).state) again ∧
      (run (cleared (run small commands).state) again).state.pool.capacity =
        (run small commands).state.pool.capacity := by
  intro small commands refusing others again
  have opened : Opened (some 8) small := ⟨{}, rfl⟩
  have serves : Serves small commands := by
    have history : (run small commands).history =
        [.carved 30 ⟨8, 30⟩, .carved 0 ⟨8, 0⟩, .carved 5 ⟨0, 5⟩] := by decide +kernel
    exact ⟨by simp [commands], by simp [history]⟩
  have serves' : Serves (cleared (run small commands).state) others := by
    have history : (run (cleared (run small commands).state) others).history =
        [.carved 30 ⟨8, 30⟩, .carved 0 ⟨8, 0⟩, .idle, .carved 5 ⟨0, 5⟩] := by decide +kernel
    exact ⟨by simp [others, refusing], by simp [history]⟩
  obtain ⟨same, retained⟩ := replay_of_runs
  obtain ⟨-, places⟩ := same small _ commands others (.opened opened) (.reset _) serves serves' rfl
  have fewer : taken (requests again) ≤ (run small commands).state.pool.used := by decide +kernel
  obtain ⟨replayed, capacity, -⟩ :=
    retained (some 8) small commands again opened (by simp [again, refusing]) fewer
  exact ⟨opened, serves, serves', places, replayed, capacity⟩

end Underlay.Layout
