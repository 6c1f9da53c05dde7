import Underlay.Memory.Bytes
import Underlay.Observer
import Underlay.Failure

/-!
Pools. A pool hands out blocks from one buffer, each behind the last and rounded up to a multiple
of eight bytes; a request that does not fit doubles the buffer until it does. Blocks are not given
back one by one: a reset forgets them all and starts a new epoch. A handle names the pool, the
range and the epoch of its block, and is honoured only by that pool in that epoch.
-/

namespace Underlay

/-- A block of a pool as its holder sees it. -/
structure Handle where
  pool : Nat
  offset : Nat
  length : Nat
  epoch : Nat
deriving DecidableEq, Repr, Inhabited

structure Pool where
  id : Nat
  capacity : Nat
  memory : Memory := .filled 0
  used : Nat := 0
  allocations : Nat := 0
  epoch : Nat := 0
  growths : Nat := 0
deriving Inhabited

namespace Pool

/-- Blocks begin at multiples of this and take a multiple of it. -/
def unit : Nat := 8

/-- Buffers begin at multiples of this. -/
def bufferAlignment : Nat := 16

/-- The largest buffer that an address space has room for. -/
def addressLimit : Nat := Word.limit / 2 - bufferAlignment

/-- Refuse a buffer that no address space has room for. -/
def admitBuffer (capacity : Nat) : Except Failure Unit :=
  if capacity ≤ addressLimit then
    .ok ()
  else
    .error (.raise .memory
      ("memory pool of " ++ toString capacity ++ " bytes exceeds the address space") "pool_open")

/-- Why no pool of the given capacity can be opened. -/
def refusal? (system : System) (capacity : Nat) : Option Failure :=
  match admitBuffer capacity with
  | .error failure => some failure
  | .ok _ =>
      if system.grants capacity then
        none
      else
        some (.raise .memory
          ("failed to allocate memory pool of " ++ toString capacity ++ " bytes") "pool_open")

/-- Open a pool under a number. The whole buffer is zero. -/
def make (system : System) (id capacity : Nat) (o : Observer) :
    Except Failure Pool × Observer :=
  match refusal? system capacity with
  | some failure => (.error failure, o)
  | none =>
      (.ok { id, capacity, memory := system.fresh.fill 0 capacity 0 },
        (o.noteAlloc capacity).emit
          { component := "pool", name := "open", subject := some id, size := some capacity,
            details := "pool=" ++ toString id })

/-- The least `capacity * 2 ^ k` that is at least `needed`, if it is a size. -/
def enlarge (capacity needed : Nat) : Option Nat :=
  if needed ≤ capacity then
    some capacity
  else if capacity = 0 then
    none
  else if 2 * capacity < Word.limit then
    enlarge (2 * capacity) needed
  else
    none
termination_by needed - capacity
decreasing_by omega

/-- The end of a block of `size` bytes carved now, if it is a size. -/
def demand? (p : Pool) (size : Nat) : Option Nat :=
  (Word.fit? (Word.roundUp size unit)).bind fun rounded => Word.fit? (p.used + rounded)

/-- Move the pool to a buffer that holds `needed` bytes. Behind the content of the old buffer the
new one is zero. -/
def grow (p : Pool) (system : System) (needed : Nat) (o : Observer) :
    Except Failure Pool × Observer :=
  match enlarge p.capacity needed with
  | none =>
      (.error (.raise .memory ("pool cannot grow to " ++ toString needed ++ " bytes")
        "pool_alloc"), o)
  | some capacity =>
      match admitBuffer capacity with
      | .error failure => (.error failure, o)
      | .ok _ =>
          if system.grants capacity then
            let moved := p.memory.overlay system.fresh p.capacity
            (.ok { p with
                capacity
                memory := moved.fill p.capacity (capacity - p.capacity) 0
                growths := p.growths + 1 },
              (o.noteAlloc (capacity - p.capacity)).emit
                { component := "pool", name := "grow", subject := some p.id,
                  size := some capacity, details := "from=" ++ toString p.capacity })
          else
            (.error (.raise .memory
                ("failed to grow memory pool to " ++ toString capacity ++ " bytes") "pool_alloc"),
              o.emit
                { component := "pool", name := "grow", level := .warn, size := some capacity,
                  outcome := "failed", details := "pool=" ++ toString p.id })

/-- Carve `size` bytes; zero bytes make an empty block. -/
def alloc (p : Pool) (system : System) (size : Nat) (o : Observer) :
    Except Failure (Handle × Pool) × Observer :=
  match p.demand? size with
  | none =>
      (.error (.raise .memory ("pool request of " ++ toString size ++ " bytes overflows")
        "pool_alloc"), o)
  | some needed =>
      let (room, o) := if p.capacity < needed then p.grow system needed o else (.ok p, o)
      (room.map fun grown =>
        ({ pool := p.id, offset := p.used, length := size, epoch := p.epoch },
          { grown with used := needed, allocations := p.allocations + 1 }), o)

/-- Why the pool does not honour a handle. -/
def objection? (p : Pool) (h : Handle) : Option String :=
  if h.pool ≠ p.id then
    some ("pool block belongs to pool " ++ toString h.pool ++ ", not pool " ++ toString p.id)
  else if h.epoch ≠ p.epoch then
    some ("stale pool block from epoch " ++ toString h.epoch ++ " (pool is at epoch " ++
      toString p.epoch ++ ")")
  else if p.used < h.offset + h.length then
    some ("pool block " ++ toString h.offset ++ "+" ++ toString h.length ++
      " is outside the used region")
  else
    none

def check (p : Pool) (h : Handle) : Except Failure Unit :=
  match p.objection? h with
  | some message => .error (.raise .value message "pool_access")
  | none => .ok ()

/-- The bytes of a block. -/
def bytes (p : Pool) (h : Handle) : Except Failure (List UInt8) :=
  (p.check h).map fun _ => p.memory.read h.offset h.length

/-- The bytes that a write at `start` puts into a block: those past its end are not written. -/
def fitting (h : Handle) (start : Nat) (bytes : List UInt8) : List UInt8 :=
  bytes.take (h.length - start)

/-- Overwrite a block from `start` on. -/
def write (p : Pool) (h : Handle) (start : Nat) (bytes : List UInt8) : Except Failure Pool :=
  (p.check h).map fun _ =>
    { p with memory := p.memory.write (h.offset + start) (fitting h start bytes).toArray }

/-- Set every byte of a block. -/
def fill (p : Pool) (h : Handle) (byte : UInt8) : Except Failure Pool :=
  (p.check h).map fun _ => { p with memory := p.memory.fill h.offset h.length byte }

/-- Where a block stands in the buffer. -/
def address (p : Pool) (h : Handle) : Except Failure Nat :=
  (p.check h).map fun _ => h.offset

/-- Forget every block; the buffer keeps its size and its bytes. -/
def reset (p : Pool) (o : Observer) : Pool × Observer :=
  ({ p with used := 0, allocations := 0, epoch := p.epoch + 1 },
    o.emit
      { component := "pool", name := "reset", subject := some p.id, size := some p.used,
        details := "allocations=" ++ toString p.allocations })

/-- Give the buffer back. -/
def close (p : Pool) (o : Observer) : Observer :=
  (o.emit { component := "pool", name := "close", subject := some p.id,
            size := some p.capacity }).noteFree (some p.capacity)

def remaining (p : Pool) : Nat :=
  p.capacity - p.used

theorem le_of_enlarge {capacity needed enlarged : Nat}
    (found : enlarge capacity needed = some enlarged) :
    needed ≤ enlarged ∧ capacity ≤ enlarged := by
  fun_induction enlarge capacity needed with
  | case1 capacity fits =>
      obtain rfl := Option.some.inj found
      exact ⟨fits, Nat.le_refl _⟩
  | case2 => cases found
  | case3 capacity short positive doubled inductionHypothesis =>
      have bounds := inductionHypothesis found
      omega
  | case4 => cases found

theorem demand?_eq_some_iff {p : Pool} {size needed : Nat} :
    p.demand? size = some needed ↔
      needed = p.used + Word.roundUp size unit ∧ needed < Word.limit := by
  simp only [demand?, Option.bind_eq_some_iff, Word.fit?_eq_some]
  constructor
  · rintro ⟨_, ⟨rfl, -⟩, rfl, below⟩
    exact ⟨rfl, below⟩
  · rintro ⟨rfl, below⟩
    exact ⟨_, ⟨rfl, by omega⟩, rfl, below⟩

theorem make_eq_ok {system : System} {id capacity : Nat} {o o' : Observer} {p : Pool}
    (done : make system id capacity o = (.ok p, o')) :
    p = { id, capacity, memory := system.fresh.fill 0 capacity 0 } := by
  unfold make at done
  split at done
  · cases done
  · simp only [Prod.mk.injEq, Except.ok.injEq] at done
    exact done.1.symm

/-- A pool that grows moves to the enlarged buffer and tells of what it grew by. -/
theorem grow_ok_cases {p p' : Pool} {system : System} {needed : Nat} {o o' : Observer}
    (done : p.grow system needed o = (.ok p', o')) :
    ∃ capacity event, enlarge p.capacity needed = some capacity ∧
      p' = { p with
        capacity
        memory := (p.memory.overlay system.fresh p.capacity).fill p.capacity
          (capacity - p.capacity) 0
        growths := p.growths + 1 } ∧
      o' = (o.noteAlloc (capacity - p.capacity)).emit event := by
  unfold grow at done
  split at done
  · cases done
  · rename_i capacity enlarged
    split at done
    · cases done
    · split at done
      · simp only [Prod.mk.injEq, Except.ok.injEq] at done
        obtain ⟨rfl, rfl⟩ := done
        exact ⟨capacity, _, enlarged, rfl, rfl⟩
      · cases done

theorem grow_eq_ok {p p' : Pool} {system : System} {needed : Nat} {o o' : Observer}
    (done : p.grow system needed o = (.ok p', o')) :
    needed ≤ p'.capacity ∧ p.capacity ≤ p'.capacity ∧ p'.id = p.id ∧ p'.epoch = p.epoch ∧
      (∀ i < p.capacity, p'.memory i = p.memory i) ∧
      ∀ i, p.capacity ≤ i → i < p'.capacity → p'.memory i = 0 := by
  obtain ⟨capacity, event, enlarged, rfl, -⟩ := grow_ok_cases done
  have bounds := le_of_enlarge enlarged
  refine ⟨bounds.1, bounds.2, rfl, rfl, ?_, ?_⟩
  · intro i inside
    simp [Memory.fill, Memory.overlay, inside, Nat.not_le_of_lt inside]
  · intro i behind inside
    have inside : i < capacity := inside
    simp only [Memory.fill]
    rw [if_pos ⟨behind, by omega⟩]

/-- A block is carved where the used part ends, in the buffer as it is if that has room for it and
else in the one that the pool grows to. -/
theorem alloc_ok_cases {p p' : Pool} {system : System} {size : Nat} {o o' : Observer}
    {handle : Handle} (done : p.alloc system size o = (.ok (handle, p'), o')) :
    let needed := p.used + Word.roundUp size unit
    needed < Word.limit ∧
      handle = { pool := p.id, offset := p.used, length := size, epoch := p.epoch } ∧
      ∃ room, p' = { room with used := needed, allocations := p.allocations + 1 } ∧
        (needed ≤ p.capacity ∧ room = p ∧ o' = o ∨
          p.capacity < needed ∧ p.grow system needed o = (.ok room, o')) := by
  unfold alloc at done
  cases demanded : p.demand? size with
  | none => simp [demanded] at done
  | some needed =>
      obtain ⟨rfl, small⟩ := demand?_eq_some_iff.mp demanded
      refine ⟨small, ?_⟩
      by_cases short : p.capacity < p.used + Word.roundUp size unit
      · rcases grows : p.grow system (p.used + Word.roundUp size unit) o with ⟨failure | room, o''⟩
        · simp [demanded, short, grows, Except.map] at done
        · simp only [demanded, short, grows, Except.map, if_true, Prod.mk.injEq,
            Except.ok.injEq] at done
          obtain ⟨⟨rfl, rfl⟩, rfl⟩ := done
          exact ⟨rfl, room, rfl, .inr ⟨short, rfl⟩⟩
      · simp only [demanded, short, Except.map, if_false, Prod.mk.injEq, Except.ok.injEq] at done
        obtain ⟨⟨rfl, rfl⟩, rfl⟩ := done
        exact ⟨rfl, p, rfl, .inl ⟨Nat.le_of_not_lt short, rfl, rfl⟩⟩

/-- What carving a block does to a pool. -/
structure Carved (p : Pool) (size : Nat) (p' : Pool) : Prop where
  id : p'.id = p.id
  epoch : p'.epoch = p.epoch
  used : p'.used = p.used + Word.roundUp size unit
  room : p'.used ≤ p'.capacity
  grown : p.capacity ≤ p'.capacity
  kept : ∀ i < p.capacity, p'.memory i = p.memory i
  zero : ∀ i, p.capacity ≤ i → i < p'.capacity → p'.memory i = 0

theorem alloc_eq_ok {p p' : Pool} {system : System} {size : Nat} {o o' : Observer}
    {handle : Handle} (done : p.alloc system size o = (.ok (handle, p'), o')) :
    handle = { pool := p.id, offset := p.used, length := size, epoch := p.epoch } ∧
      p.Carved size p' := by
  obtain ⟨-, issued, room, rfl, ⟨fits, rfl, -⟩ | ⟨-, grows⟩⟩ := alloc_ok_cases done
  · refine ⟨issued, rfl, rfl, rfl, fits, Nat.le_refl _, fun _ _ => rfl, ?_⟩
    intro i behind inside
    exact absurd inside (Nat.not_lt_of_le behind)
  · obtain ⟨enough, larger, id, epoch, kept, zero⟩ := grow_eq_ok grows
    exact ⟨issued, id, epoch, rfl, enough, larger, kept, zero⟩

theorem check_eq_ok {p : Pool} {h : Handle} :
    p.check h = .ok () ↔ h.pool = p.id ∧ h.epoch = p.epoch ∧ h.offset + h.length ≤ p.used := by
  unfold check objection?
  by_cases pool : h.pool = p.id
  · by_cases epoch : h.epoch = p.epoch
    · by_cases outside : p.used < h.offset + h.length
      · simp [pool, epoch, outside, Nat.not_le_of_lt outside]
      · simp [pool, epoch, outside, Nat.le_of_not_lt outside]
    · simp [pool, epoch]
  · simp [pool]

theorem write_eq_ok {p p' : Pool} {h : Handle} {start : Nat} {bytes : List UInt8}
    (done : p.write h start bytes = .ok p') :
    p.check h = .ok () ∧ p' = { p with
      memory := p.memory.write (h.offset + start) (fitting h start bytes).toArray } := by
  unfold write at done
  cases checked : p.check h with
  | error failure => simp [checked, Except.map] at done
  | ok =>
      simp only [checked, Except.map, Except.ok.injEq] at done
      exact ⟨rfl, done.symm⟩

theorem length_fitting (h : Handle) (start : Nat) (bytes : List UInt8) :
    (fitting h start bytes).length ≤ h.length - start :=
  List.length_take_le _ _

/-- Setting every byte is writing so many of them from the front on. -/
theorem fill_eq_write (p : Pool) (h : Handle) (byte : UInt8) :
    p.fill h byte = p.write h 0 (List.replicate h.length byte) := by
  simp [fill, write, fitting, Memory.fill_eq_write]

end Pool

end Underlay
