/-!
Memory as a byte at each offset. Nothing bounds a memory by itself: blocks and pools say which
offsets are theirs. A write changes the bytes of its own range and no others. The system may
refuse any piece of memory, and a piece that it grants may hold anything; what it does is part of
the state of a program.
-/

namespace Underlay

abbrev Memory := Nat → UInt8

namespace Memory

/-- Unless it is said otherwise, the system grants the pieces below this size, `2 ^ 33`. -/
def limit : Nat := 0x200000000

/-- What the system grants unless it is said otherwise. -/
def available (size : Nat) : Bool :=
  decide (size < limit)

/-- The same byte everywhere. -/
def filled (byte : UInt8) : Memory := fun _ => byte

def fill (m : Memory) (offset count : Nat) (byte : UInt8) : Memory :=
  fun i => if offset ≤ i ∧ i < offset + count then byte else m i

def write (m : Memory) (offset : Nat) (bytes : Array UInt8) : Memory :=
  fun i =>
    if offset ≤ i ∧ i < offset + bytes.size then bytes.getD (i - offset) 0 else m i

/-- The first `count` bytes of one memory, and the other memory behind them. -/
def overlay (front back : Memory) (count : Nat) : Memory :=
  fun i => if i < count then front i else back i

def read (m : Memory) (offset count : Nat) : List UInt8 :=
  (List.range count).map fun i => m (offset + i)

@[simp]
theorem length_read (m : Memory) (offset count : Nat) : (m.read offset count).length = count := by
  simp [read]

theorem getElem?_read (m : Memory) (offset count i : Nat) :
    (m.read offset count)[i]? = if i < count then some (m (offset + i)) else none := by
  rw [read, List.getElem?_map]
  by_cases within : i < count
  · rw [List.getElem?_range within, if_pos within, Option.map_some]
  · rw [List.getElem?_eq_none (by simpa using within), if_neg within, Option.map_none]

theorem write_apply_outside {m : Memory} {offset i : Nat} {bytes : Array UInt8}
    (outside : i < offset ∨ offset + bytes.size ≤ i) : m.write offset bytes i = m i := by
  simp only [write]
  split
  · omega
  · rfl

theorem read_congr {m m' : Memory} {offset count : Nat}
    (agree : ∀ i, offset ≤ i → i < offset + count → m i = m' i) :
    m.read offset count = m'.read offset count := by
  apply List.map_congr_left
  intro i listed
  have below : i < count := List.mem_range.mp listed
  exact agree (offset + i) (by omega) (by omega)

/-- Writing the same to memories that agree at an offset leaves them agreeing there. -/
theorem write_apply_congr {m m' : Memory} {i : Nat} (agree : m i = m' i) (offset : Nat)
    (bytes : Array UInt8) : m.write offset bytes i = m'.write offset bytes i := by
  simp only [write, agree]

theorem fill_eq_write (m : Memory) (offset count : Nat) (byte : UInt8) :
    m.fill offset count byte = m.write offset (Array.replicate count byte) := by
  funext i
  simp only [fill, write, Array.size_replicate]
  split
  · rw [Array.getD_eq_getD_getElem?, Array.getElem?_replicate, if_pos (by omega)]
    rfl
  · rfl

end Memory

/-- What the system does when a program asks it for memory. -/
structure System where
  /-- Which sizes it grants. -/
  grants : Nat → Bool := Memory.available
  /-- What a granted piece holds before anything is written to it. It carries no meaning. -/
  fresh : Memory := .filled 0xAA
deriving Inhabited

end Underlay
