import Underlay.Machine.Heaps

/-!
# What blocks hold

The bytes of a block, as one list. Changing the content of a block leaves all other blocks alone,
those of its heap and those of other heaps; naming a block that is not there changes nothing.
-/

namespace Underlay

theorem Heap.block?_modify (h : Heap) (id other : BlockId) (change : Memory → Memory) :
    (h.modify id change).block? other =
      if other = id then (h.block? id).map fun b => { b with memory := change b.memory }
      else h.block? other := by
  by_cases home : id.heap = h.id
  · simp only [Heap.modify, if_pos home, Heap.block?, Array.getElem?_modify]
    by_cases same : other = id
    · simp only [same, home, if_true]
    · by_cases number : id.number = other.number
      · -- Blocks of one number are of different heaps.
        have beside : other.heap ≠ h.id := by
          intro beside
          apply same
          cases id
          cases other
          simp_all
        rw [if_neg beside, if_neg same, if_neg beside]
      · rw [if_neg number, if_neg same]
  · simp only [Heap.modify, if_neg home]
    by_cases same : other = id
    · simp only [same, Heap.block?, if_neg home, if_true, Option.map_none]
    · rw [if_neg same]

namespace Machine

def block? (machine : Machine) (id : BlockId) : Option Block :=
  (machine.heap id.heap).block? id

/-- The bytes of a block. A block that is not there has none. -/
def bytes (machine : Machine) (id : BlockId) : List UInt8 :=
  ((machine.block? id).map fun b => b.memory.read 0 b.size).getD []

theorem block?_of_absent {machine : Machine} {id : BlockId}
    (absent : ¬id.heap < machine.heaps.size) : machine.block? id = none := by
  simp [block?, heap_of_absent absent, Heap.block?]

theorem block?_setHeap {machine : Machine} {id : HeapId} (present : id < machine.heaps.size)
    (h : Heap) (other : BlockId) :
    (machine.setHeap id h).block? other =
      if other.heap = id then h.block? other else machine.block? other := by
  rw [block?]
  split
  · rw [‹other.heap = id›, heap_setHeap_self h present]
  · rw [heap_setHeap_of_ne machine h ‹other.heap ≠ id›, block?]

theorem block?_modifyBlock (machine : Machine) (id other : BlockId) (change : Memory → Memory) :
    (machine.modifyBlock id change).block? other =
      if other = id then (machine.block? id).map fun b => { b with memory := change b.memory }
      else machine.block? other := by
  by_cases present : id.heap < machine.heaps.size
  · rw [modifyBlock, block?_setHeap present, Heap.block?_modify]
    by_cases beside : other.heap = id.heap
    · rw [if_pos beside, block?, block?, beside]
    · have distinct : other ≠ id := fun same => beside (congrArg BlockId.heap same)
      rw [if_neg beside, if_neg distinct]
  · rw [modifyBlock, setHeap_of_absent _ present]
    by_cases same : other = id
    · rw [if_pos same, same, block?_of_absent present, Option.map_none]
    · rw [if_neg same]

theorem bytes_modifyBlock_of_ne (machine : Machine) {id other : BlockId} (distinct : other ≠ id)
    (change : Memory → Memory) :
    (machine.modifyBlock id change).bytes other = machine.bytes other := by
  rw [bytes, block?_modifyBlock, if_neg distinct, bytes]

theorem bytes_of_none {machine : Machine} {id : BlockId} (absent : machine.block? id = none) :
    machine.bytes id = [] := by
  rw [bytes, absent, Option.map_none, Option.getD_none]

theorem bytes_of_some {machine : Machine} {id : BlockId} {b : Block}
    (found : machine.block? id = some b) : machine.bytes id = b.memory.read 0 b.size := by
  rw [bytes, found, Option.map_some, Option.getD_some]

theorem bytes_modifyBlock_self {machine : Machine} {id : BlockId} {b : Block}
    (found : machine.block? id = some b) (change : Memory → Memory) :
    (machine.modifyBlock id change).bytes id = (change b.memory).read 0 b.size := by
  rw [bytes, block?_modifyBlock, if_pos rfl, found, Option.map_some, Option.map_some,
    Option.getD_some]

theorem readBlock_eq {machine : Machine} {id : BlockId} {offset count : Nat}
    (room : offset + count ≤ (machine.bytes id).length) :
    machine.readBlock id offset count = ((machine.bytes id).drop offset).take count := by
  cases found : machine.block? id with
  | none =>
      rw [bytes_of_none found] at room ⊢
      have nothing : count = 0 := by
        simp only [List.length_nil] at room
        omega
      have absent : (machine.heap id.heap).block? id = none := found
      simp [readBlock, absent]
  | some b =>
      have there : (machine.heap id.heap).block? id = some b := found
      rw [bytes_of_some found, Memory.length_read] at room
      rw [bytes_of_some found, readBlock, there]
      apply List.ext_getElem?
      intro i
      rw [List.getElem?_take, List.getElem?_drop, Memory.getElem?_read, Memory.getElem?_read]
      by_cases within : i < count
      · rw [if_pos within, if_pos within, if_pos (by omega), Nat.zero_add]
      · rw [if_neg within, if_neg within]

end Machine

end Underlay
