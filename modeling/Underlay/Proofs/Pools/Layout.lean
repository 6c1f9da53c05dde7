import Mathlib.Data.List.Induction
import Underlay.Proofs.Pools.Growth
import Underlay.Proofs.Run
import Underlay.Session

/-!
# The layout of a pool

One pool is filled and reset in any order, and the system may change its mind about memory at any
time. Its blocks stand one behind the other as if they had been stacked, each rounded up, in the
order in which they were carved since the last reset; how often the buffer moved on the way cannot
be told from them. The capacity is the opening one doubled some times, and was doubled only as far
as the pool was once used.
-/

namespace Underlay

namespace Layout

/-- A pool and what carving from it reads and writes beside it. -/
structure Site where
  pool : Pool
  session : Session

inductive Command where
  | alloc (size : Nat)
  /-- Carve a block of which only the address is told. -/
  | allocRaw (size : Nat)
  | reset
  | setSystem (system : System)

/-- Bytes of a buffer that stand together. -/
structure Extent where
  offset : Nat
  length : Nat
deriving DecidableEq, Repr

inductive Event where
  /-- A request for so many bytes was served with those. -/
  | carved (size : Nat) (extent : Extent)
  | reset
  | refused (failure : Failure)
  | idle
deriving DecidableEq, Repr

def carve (site : Site) (size : Nat) (extent : Handle → Extent) : Event × Site :=
  match site.pool.alloc site.session.system size site.session.observer with
  | (.ok (handle, pool), o) =>
      (.carved size (extent handle), { pool, session := site.session.observe o })
  | (.error failure, o) =>
      (.refused failure,
        { site with session := (site.session.observe o).note (.error failure : Except _ Unit) })

def perform (site : Site) : Command → Event × Site
  | .alloc size =>
      carve site size fun handle => { offset := handle.offset, length := handle.length }
  | .allocRaw size => carve site size fun handle => { offset := handle.offset, length := size }
  | .reset =>
      let (pool, o) := site.pool.reset site.session.observer
      (.reset, { pool, session := site.session.observe o })
  | .setSystem system => (.idle, { site with session := { site.session with system } })

def act (run : Run Site Event) (command : Command) : Event × Site :=
  perform run.state command

def run (site : Site) (commands : List Command) : Run Site Event :=
  Run.steps act { state := site } commands

theorem state_run_concat (site : Site) (commands : List Command) (command : Command) :
    (run site (commands ++ [command])).state = (perform (run site commands).state command).2 :=
  congrArg Run.state (Run.steps_concat act _ commands command)

theorem history_run_concat (site : Site) (commands : List Command) (command : Command) :
    (run site (commands ++ [command])).history =
      (perform (run site commands).state command).1 :: (run site commands).history :=
  congrArg Run.history (Run.steps_concat act _ commands command)

/-! What a history tells of the time since the last reset, the oldest first. -/

/-- The sizes of the requests that were served. -/
def sizes : List Event → List Nat
  | [] | .reset :: _ => []
  | .carved size _ :: past => sizes past ++ [size]
  | .refused _ :: past | .idle :: past => sizes past

/-- What they were served with. -/
def blocks : List Event → List Extent
  | [] | .reset :: _ => []
  | .carved _ extent :: past => blocks past ++ [extent]
  | .refused _ :: past | .idle :: past => blocks past

/-! Blocks that stand one behind the other. -/

/-- What blocks of the sizes take of a buffer. -/
def taken (sizes : List Nat) : Nat :=
  (sizes.map Pool.rounded).sum

/-- Where blocks stand that are carved one after the other from `base` on. -/
def stacked (base : Nat) : List Nat → List Extent
  | [] => []
  | size :: sizes =>
      { offset := base, length := size } :: stacked (base + Pool.rounded size) sizes

@[simp]
theorem taken_nil : taken [] = 0 :=
  rfl

@[simp]
theorem taken_cons (size : Nat) (sizes : List Nat) :
    taken (size :: sizes) = Pool.rounded size + taken sizes :=
  rfl

@[simp]
theorem taken_append (sizes later : List Nat) :
    taken (sizes ++ later) = taken sizes + taken later := by
  simp [taken]

theorem map_length_stacked (base : Nat) (sizes : List Nat) :
    (stacked base sizes).map Extent.length = sizes := by
  induction sizes generalizing base with
  | nil => rfl
  | cons size sizes inductionHypothesis => simp [stacked, inductionHypothesis]

theorem stacked_concat (base : Nat) (sizes : List Nat) (size : Nat) :
    stacked base (sizes ++ [size]) =
      stacked base sizes ++ [{ offset := base + taken sizes, length := size }] := by
  induction sizes generalizing base with
  | nil => rfl
  | cons first sizes inductionHypothesis =>
      simp [stacked, inductionHypothesis, Nat.add_assoc]

theorem getElem?_stacked (base : Nat) (sizes : List Nat) (k : Nat) :
    (stacked base sizes)[k]? = sizes[k]?.map fun size =>
      { offset := base + taken (sizes.take k), length := size } := by
  induction sizes generalizing base k with
  | nil => rfl
  | cons size sizes inductionHypothesis =>
      cases k with
      | zero => rfl
      | succ k => simp [stacked, inductionHypothesis, Nat.add_assoc]

theorem of_mem_stacked {base : Nat} {sizes : List Nat} {extent : Extent}
    (member : extent ∈ stacked base sizes) :
    base ≤ extent.offset ∧ extent.offset + extent.length ≤ base + taken sizes ∧
      (Pool.unit ∣ base → Pool.unit ∣ extent.offset) := by
  induction sizes generalizing base with
  | nil => cases member
  | cons size sizes inductionHypothesis =>
      have wide := Pool.le_rounded size
      rcases List.mem_cons.mp member with rfl | behind
      · exact ⟨Nat.le_refl _, by simp only [taken_cons]; omega, id⟩
      · obtain ⟨first, last, aligned⟩ := inductionHypothesis behind
        refine ⟨by omega, by simp only [taken_cons]; omega, fun start => aligned ?_⟩
        exact Nat.dvd_add start (Word.dvd_roundUp size Pool.unit)

theorem pairwise_stacked (base : Nat) (sizes : List Nat) :
    (stacked base sizes).Pairwise fun earlier later =>
      earlier.offset + earlier.length ≤ later.offset := by
  induction sizes generalizing base with
  | nil => exact .nil
  | cons size sizes inductionHypothesis =>
      refine .cons ?_ (inductionHypothesis _)
      intro later behind
      have wide := Pool.le_rounded size
      have first := (of_mem_stacked behind).1
      simp only
      omega

/-- What the measures of a pool and its blocks say of the sizes that were carved. -/
structure LaidOut (p : Pool) (sizes : List Nat) (blocks : List Extent) : Prop where
  room : p.used ≤ p.capacity
  used : p.used = taken sizes
  allocations : p.allocations = sizes.length
  lengths : blocks.map Extent.length = sizes
  offsets : ∀ k extent, blocks[k]? = some extent → extent.offset = taken (sizes.take k)
  aligned : ∀ extent ∈ blocks, Pool.unit ∣ extent.offset
  inside : ∀ extent ∈ blocks, extent.offset + extent.length ≤ p.used
  apart : blocks.Pairwise fun earlier later => earlier.offset + earlier.length ≤ later.offset

theorem laidOut_stacked {p : Pool} {sizes : List Nat} (room : p.used ≤ p.capacity)
    (used : p.used = taken sizes) (allocations : p.allocations = sizes.length) :
    LaidOut p sizes (stacked 0 sizes) where
  room := room
  used := used
  allocations := allocations
  lengths := map_length_stacked 0 sizes
  offsets k extent found := by
    rw [getElem?_stacked, Option.map_eq_some_iff] at found
    obtain ⟨size, -, rfl⟩ := found
    exact Nat.zero_add _
  aligned extent member := (of_mem_stacked member).2.2 (Nat.dvd_zero _)
  inside extent member := by
    have last := (of_mem_stacked member).2.1
    omega
  apart := pairwise_stacked 0 sizes

/-! What a command can do. -/

/-- What a call does to a pool, with the event that tells it. -/
inductive Step (before : Pool) : Event → Pool → Prop where
  | carved {size : Nat} {after : Pool} (measured : before.Measured size after) :
      Step before (.carved size { offset := before.used, length := size }) after
  | reset :
      Step before .reset { before with used := 0, allocations := 0, epoch := before.epoch + 1 }
  | refused (failure : Failure) : Step before (.refused failure) before
  | idle : Step before .idle before

theorem step_carve (site : Site) (size : Nat) {extent : Handle → Extent}
    (told : ∀ handle, handle.length = size →
      extent handle = { offset := handle.offset, length := size }) :
    Step site.pool (carve site size extent).1 (carve site size extent).2.pool := by
  unfold carve
  split
  · rename_i handle after o done
    obtain ⟨rfl, -⟩ := Pool.alloc_eq_ok done
    rw [told _ rfl]
    exact .carved (Pool.measured_of_alloc done)
  · exact .refused _

theorem step_perform (site : Site) (command : Command) :
    Step site.pool (perform site command).1 (perform site command).2.pool := by
  cases command with
  | alloc size => exact step_carve site size fun handle same => by rw [same]
  | allocRaw size => exact step_carve site size fun _ _ => rfl
  | reset => exact .reset
  | setSystem system => exact .idle

theorem measured_of_carved {site : Site} {command : Command} {size : Nat} {extent : Extent}
    (served : (perform site command).1 = .carved size extent) :
    site.pool.Measured size (perform site command).2.pool := by
  have step := step_perform site command
  rw [served] at step
  cases step with
  | carved measured => exact measured

/-- A pool grows for a request when it has no room for it, and only then. -/
structure GrowsAsNeeded (before : Pool) (size : Nat) (after : Pool) : Prop where
  grows : before.capacity < before.used + Pool.rounded size →
    before.capacity < after.capacity ∧ after.growths = before.growths + 1
  stays : before.used + Pool.rounded size ≤ before.capacity →
    after.capacity = before.capacity ∧ after.growths = before.growths

theorem growsAsNeeded_of_measured {before after : Pool} {size : Nat}
    (measured : before.Measured size after) : GrowsAsNeeded before size after := by
  refine ⟨fun short => ?_, fun fits => measured.stays (measured.used ▸ fits)⟩
  have exceeds : before.capacity < after.used := measured.used ▸ short
  exact ⟨Nat.lt_of_lt_of_le exceeds measured.room, (measured.grows exceeds).1⟩

/-! What holds along a run. -/

/-- The measures of a pool follow its history since it was as `start`. -/
structure Tracks (start p : Pool) (history : List Event) : Prop where
  room : p.used ≤ p.capacity
  small : p.used < Word.limit
  used : p.used = taken (sizes history)
  allocations : p.allocations = (sizes history).length
  blocks : blocks history = stacked 0 (sizes history)
  doubled : ∃ doublings,
    p.growths ≤ start.growths + doublings ∧ p.capacity = start.capacity * 2 ^ doublings

theorem Tracks.step {start p p' : Pool} {history : List Event} {event : Event}
    (tracks : Tracks start p history) (step : Step p event p') :
    Tracks start p' (event :: history) := by
  obtain ⟨room, small, used, allocations, blocks, doublings, fewer, doubled⟩ := tracks
  cases step with
  | carved measured =>
      refine ⟨measured.room, measured.small, ?_, ?_, ?_, ?_⟩
      · simp [sizes, measured.used, used]
      · simp [sizes, measured.allocations, allocations]
      · simp [sizes, Layout.blocks, stacked_concat, blocks, used]
      · -- A growth doubles at least once, so the doublings keep up with the growths.
        rcases Nat.lt_or_ge p.capacity p'.used with exceeds | fits
        · obtain ⟨counted, more, enlarged, -⟩ := measured.grows exceeds
          refine ⟨doublings + (more + 1), by omega, ?_⟩
          rw [enlarged, doubled, Nat.mul_assoc, ← Nat.pow_add]
        · obtain ⟨kept, counted⟩ := measured.stays fits
          exact ⟨doublings, counted ▸ fewer, kept.trans doubled⟩
  | reset =>
      exact ⟨Nat.zero_le _, Nat.zero_lt_of_lt small, rfl, rfl, rfl, doublings, fewer, doubled⟩
  | refused failure => exact ⟨room, small, used, allocations, blocks, doublings, fewer, doubled⟩
  | idle => exact ⟨room, small, used, allocations, blocks, doublings, fewer, doubled⟩

theorem tracks_run {site : Site} (used : site.pool.used = 0)
    (allocations : site.pool.allocations = 0) (commands : List Command) :
    let reached := run site commands
    Tracks site.pool reached.state.pool reached.history := by
  have empty : Tracks site.pool site.pool [] :=
    { room := used ▸ Nat.zero_le _
      small := used ▸ by decide
      used, allocations
      blocks := rfl
      doubled := ⟨0, Nat.le_refl _, by simp⟩ }
  let invariant (run : Run Site Event) := Tracks site.pool run.state.pool run.history
  exact @Run.steps_induction _ _ _ act invariant
    (fun run command tracks => tracks.step (step_perform run.state command)) _ empty commands

theorem Tracks.laidOut {start p : Pool} {history : List Event} (tracks : Tracks start p history) :
    LaidOut p (sizes history) (Layout.blocks history) :=
  tracks.blocks ▸ laidOut_stacked tracks.room tracks.used tracks.allocations

theorem Step.capacity {p p' : Pool} {event : Event} (step : Step p event p') :
    p'.capacity = p.capacity ∨ p'.capacity < 2 * p'.used := by
  cases step with
  | carved measured =>
      rcases Nat.lt_or_ge p.capacity p'.used with exceeds | fits
      · obtain ⟨-, doublings, enlarged, short⟩ := measured.grows exceeds
        rw [Nat.pow_succ, ← Nat.mul_assoc] at enlarged
        exact .inr (by omega)
      · exact .inl (measured.stays fits).1
  | reset => exact .inl rfl
  | refused failure => exact .inl rfl
  | idle => exact .inl rfl

/-- The capacity is the first one, or was set when more than half of it was used. A reset forgets
how much was used, so the run up to then bears witness. -/
theorem capacity_run (site : Site) (commands : List Command) :
    (run site commands).state.pool.capacity = site.pool.capacity ∨
      ∃ earlier, earlier <+: commands ∧
        (run site commands).state.pool.capacity < 2 * (run site earlier).state.pool.used := by
  induction commands using List.reverseRecOn with
  | nil => exact .inl rfl
  | append_singleton commands command inductionHypothesis =>
      have step := step_perform (run site commands).state command
      rw [← state_run_concat] at step
      rcases step.capacity with kept | bounded
      · rw [kept]
        refine inductionHypothesis.imp id ?_
        rintro ⟨earlier, before, bounded⟩
        exact ⟨earlier, before.trans (List.prefix_append _ _), bounded⟩
      · exact .inr ⟨_, List.prefix_refl _, bounded⟩

/-- A pool that was just opened, beside the session that opened it. -/
def Opened (asked : Option Nat) (site : Site) : Prop :=
  ∃ session : Session, session.openPool asked = (.ok site.pool, site.session)

theorem Opened.empty {asked : Option Nat} {site : Site} (opened : Opened asked site) :
    site.pool.used = 0 ∧ site.pool.allocations = 0 ∧ site.pool.growths = 0 := by
  obtain ⟨session, opens⟩ := opened
  rcases made : Pool.make session.system (session.poolsOpened + 1)
      (if asked.getD 0 = 0 then session.poolCapacity else asked.getD 0)
      session.observer with ⟨failure | p, o⟩
  · simp [Session.openPool, made] at opens
  · simp only [Session.openPool, made, Prod.mk.injEq, Except.ok.injEq] at opens
    rw [← opens.1, Pool.make_eq_ok made]
    exact ⟨rfl, rfl, rfl⟩

/-- However a pool is filled and reset after it was opened, its blocks stand one behind the other
in the used part of its buffer, and its measures count them. Its capacity is the opening one,
doubled once for each growth at least; a request that is served makes the buffer grow if it had no
room for it and only then, and the buffer stays below twice what was once used of it. -/
theorem layout_of_run {asked : Option Nat} {site : Site} (opened : Opened asked site)
    (commands : List Command) :
    let reached := run site commands
    LaidOut reached.state.pool (sizes reached.history) (blocks reached.history) ∧
      (∀ command size extent, (perform reached.state command).1 = .carved size extent →
        GrowsAsNeeded reached.state.pool size (perform reached.state command).2.pool) ∧
      (∃ doublings, reached.state.pool.growths ≤ doublings ∧
        reached.state.pool.capacity = site.pool.capacity * 2 ^ doublings) ∧
      (reached.state.pool.capacity = site.pool.capacity ∨ ∃ earlier, earlier <+: commands ∧
        reached.state.pool.capacity < 2 * (run site earlier).state.pool.used) := by
  intro reached
  obtain ⟨used, allocations, growths⟩ := opened.empty
  have tracks : Tracks site.pool reached.state.pool reached.history :=
    tracks_run used allocations commands
  obtain ⟨doublings, counted, doubled⟩ := tracks.doubled
  refine ⟨tracks.laidOut, ?_, ⟨doublings, by omega, doubled⟩, capacity_run site commands⟩
  intro command size extent served
  exact growsAsNeeded_of_measured (measured_of_carved served)

/-- A buffer of twelve bytes moves once for three bytes and once more, doubled twice, for fifty; in
between a request is refused because the system gives nothing and one because it is no size. -/
theorem layout_of_run_twelve_bytes :
    let site : Site :=
      { pool := { id := 1, capacity := 12, memory := (System.fresh {}).fill 0 12 0 }
        session := (({} : Session).openPool (some 12)).2 }
    let commands : List Command :=
      [.alloc 5, .allocRaw 0, .alloc 3, .setSystem { grants := fun _ => false }, .alloc 50,
        .setSystem {}, .alloc 50, .reset, .alloc (Word.limit - 4), .allocRaw 9, .alloc 1]
    Opened (some 12) site ∧
      LaidOut (run site commands).state.pool [9, 1] [⟨0, 9⟩, ⟨16, 1⟩] ∧
      (run site commands).state.pool.capacity = 96 ∧
      ∃ earlier, earlier <+: commands ∧ 96 < 2 * (run site earlier).state.pool.used := by
  intro site commands
  have opened : Opened (some 12) site := ⟨{}, rfl⟩
  have sizes : sizes (run site commands).history = [9, 1] := by decide +kernel
  have blocks : blocks (run site commands).history = [⟨0, 9⟩, ⟨16, 1⟩] := by decide +kernel
  have capacity : (run site commands).state.pool.capacity = 96 := by decide +kernel
  obtain ⟨laidOut, -, -, bounds⟩ := layout_of_run opened commands
  rw [sizes, blocks] at laidOut
  rcases bounds with kept | bounded
  · exact absurd (capacity.symm.trans kept) (by decide)
  · rw [capacity] at bounded
    exact ⟨opened, laidOut, capacity, bounded⟩

end Layout

end Underlay
