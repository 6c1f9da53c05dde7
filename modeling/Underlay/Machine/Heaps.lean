import Underlay.Machine
import Underlay.Memory.Reserve
import Underlay.Text.Utf8

/-!
Operations on the heaps of a program. A failure goes to the slot and leaves the heaps as they
were.
-/

namespace Underlay.Machine

def heap (machine : Machine) (id : HeapId) : Heap :=
  machine.heaps.getD id {}

def setHeap (machine : Machine) (id : HeapId) (heap : Heap) : Machine :=
  { machine with heaps := machine.heaps.setIfInBounds id heap }

def addRecorder (machine : Machine) (budget : Option Nat) : HeapId × Machine :=
  let id := machine.heaps.size
  (id, { machine with heaps := machine.heaps.push { id, source := .recording budget } })

/-- The bytes that the program reserves to serve a request of at least one byte. An empty request
does not reach the heap. -/
def requestRoom (machine : Machine) (id : HeapId) (size : Nat) : Nat :=
  if size = 0 then 0 else (machine.heap id).source.reserved size

/-- The bytes that the program reserves to serve a request for an array. -/
def arrayRoom (machine : Machine) (id : HeapId) (count size : Nat) : Nat :=
  machine.requestRoom id ((Word.fit? (count * size)).getD 0)

/-- What is reached once the program has reserved the bytes that it needs. -/
def reserving {α : Type} (machine : Machine) (bytes : Nat) (a : α) : Course α :=
  machine.session.system.reserving bytes a

/-- Ask a heap for a block past all checks; nobody counts it. -/
def allocateRaw (machine : Machine) (id : HeapId) (size : Nat) (zeroed : Bool) :
    Option BlockId × Machine :=
  let heap := machine.heap id
  match if zeroed then heap.allocateZeroed size else heap.allocate size with
  | some (block, heap) => (some block, machine.setHeap id heap)
  | none => (none, machine)

def onHeap {α : Type} (machine : Machine) (id : HeapId)
    (act : Heap → Observer → Except Failure (α × Heap × Observer)) : Except Failure α × Machine :=
  match act (machine.heap id) machine.observer with
  | .ok (a, heap, o) => (.ok a, (machine.setHeap id heap).observe o)
  | .error failure => (.error failure, machine.note (.error failure : Except Failure α))

def malloc (machine : Machine) (id : HeapId) (size : Nat) : Except Failure BlockId × Machine :=
  machine.onHeap id fun heap o => heap.malloc size o

def calloc (machine : Machine) (id : HeapId) (count size : Nat) :
    Except Failure BlockId × Machine :=
  machine.onHeap id fun heap o => heap.calloc count size o

def realloc (machine : Machine) (id : HeapId) (old : Option BlockId) (size : Nat) :
    Except Failure (Option BlockId) × Machine :=
  machine.onHeap id fun heap o => heap.realloc old size o

def free (machine : Machine) (id : HeapId) (block : Option BlockId) (size : Option Nat) : Machine :=
  let (heap, o) := (machine.heap id).free block size machine.observer
  (machine.setHeap id heap).observe o

def modifyBlock (machine : Machine) (block : BlockId) (change : Memory → Memory) : Machine :=
  machine.setHeap block.heap ((machine.heap block.heap).modify block change)

def readBlock (machine : Machine) (block : BlockId) (offset count : Nat) : List UInt8 :=
  match (machine.heap block.heap).block? block with
  | some b => b.memory.read offset count
  | none => []

/-- A block with a copy of a text and a zero byte behind it. -/
def copyText (machine : Machine) (text : List UInt8) : Except Failure BlockId × Machine :=
  machine.onHeap systemHeap fun heap o => heap.duplicateText text.toArray o

/-- A block with a copy of a zero-terminated text. -/
def copyTerminated (machine : Machine) (text : Option (List UInt8)) :
    Except Failure BlockId × Machine :=
  machine.onHeap systemHeap fun heap o => heap.duplicateTerminated (text.map List.toArray) o

/-- The bytes of a copy on the system heap, which is released behind. -/
def duplicated (machine : Machine) (size : Nat)
    (act : Heap → Observer → Except Failure (BlockId × Heap × Observer)) :
    Except Failure (List UInt8) × Machine :=
  match machine.onHeap systemHeap act with
  | (.error failure, machine) => (.error failure, machine)
  | (.ok block, machine) =>
      (.ok (machine.readBlock block 0 size), machine.free systemHeap (some block) none)

def duplicateText (machine : Machine) (text : List UInt8) : Except Failure (List UInt8) × Machine :=
  machine.duplicated (text.length + 1) fun heap o => heap.duplicateText text.toArray o

/-- Copy a zero-terminated text up to its first zero byte. -/
def duplicateTerminated (machine : Machine) (text : Option (List UInt8)) :
    Except Failure (List UInt8) × Machine :=
  machine.duplicated ((Text.terminated (text.getD [])).length + 1) fun heap o =>
    heap.duplicateTerminated (text.map List.toArray) o

theorem onHeap_cases {α : Type} (machine : Machine) (id : HeapId)
    (act : Heap → Observer → Except Failure (α × Heap × Observer)) :
    (∃ failure, machine.onHeap id act =
      (.error failure, machine.note (.error failure : Except Failure α))) ∨
    ∃ a heap o, act (machine.heap id) machine.observer = .ok (a, heap, o) ∧
      machine.onHeap id act = (.ok a, (machine.setHeap id heap).observe o) := by
  unfold onHeap
  cases done : act (machine.heap id) machine.observer with
  | error failure => exact .inl ⟨failure, rfl⟩
  | ok answer =>
      obtain ⟨a, heap, o⟩ := answer
      exact .inr ⟨a, heap, o, rfl, rfl⟩

@[simp]
theorem heaps_size_setHeap (machine : Machine) (id : HeapId) (heap : Heap) :
    (machine.setHeap id heap).heaps.size = machine.heaps.size := by
  simp [setHeap]

theorem heap_of_absent {machine : Machine} {id : HeapId} (absent : ¬id < machine.heaps.size) :
    machine.heap id = {} := by
  simp [Machine.heap, absent]

theorem setHeap_of_absent {machine : Machine} {id : HeapId} (heap : Heap)
    (absent : ¬id < machine.heaps.size) : machine.setHeap id heap = machine := by
  simp [setHeap, Array.setIfInBounds, absent]

theorem heap_setHeap_self {machine : Machine} {id : HeapId} (heap : Heap)
    (present : id < machine.heaps.size) : (machine.setHeap id heap).heap id = heap := by
  simp [Machine.heap, setHeap, present]

theorem heap_setHeap_of_ne (machine : Machine) {id other : HeapId} (heap : Heap)
    (distinct : other ≠ id) : (machine.setHeap id heap).heap other = machine.heap other := by
  simp [Machine.heap, setHeap, Array.getD_eq_getD_getElem?,
    Array.getElem?_setIfInBounds_ne (Ne.symm distinct)]

end Underlay.Machine
