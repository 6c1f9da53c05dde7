import Underlay.Memory.Bounded
import Underlay.Machine.Heaps
import Underlay.Workbench.Views

/-!
Operations of a workbench on heaps, blocks, buffers and counters.
-/

namespace Underlay.Workbench

/-- The heap of a name; no name means the system heap. -/
def heap (name : Option String) : Bench HeapId := do
  return (← known? Workbench.recorders name).getD Machine.systemHeap

def nameBlock (label : String) (size : Nat) (block : BlockId) : Bench Json := do
  modify fun w => { w with
    blocks := w.blocks.set label { block, size }
    issued := (block, label) :: w.issued }
  return .string label

def nameBlock? (label : String) (size : Nat) (block : Option BlockId) : Bench Json := do
  match block with
  | none => return .null
  | some block => nameBlock label size block

def forgetBlock (label : Option String) : Bench Unit := do
  match label with
  | none => return
  | some label => modify fun w => { w with blocks := w.blocks.erase label }

def granted (label : String) (size : Nat) (result : Except Failure BlockId) : Bench Answer := do
  match result with
  | .error failure => return failed failure
  | .ok block => return ok (← nameBlock label size block)

def newRecorder (name : String) (budget : Option Nat) : Bench Answer := do
  let heap ← run (·.addRecorder budget)
  modify fun w => { w with recorders := w.recorders.set name heap }
  return ok .null

/-- Ask a heap for a block past all checks. -/
def allocateRaw (name label : String) (size : Nat) (zeroed : Bool) : Bench Answer := do
  let heap ← heap (some name)
  reserve fun machine => (machine.heap heap).source.reserved size
  return ok (← nameBlock? label size (← run (·.allocateRaw heap size zeroed)))

/-- What a heap has granted, and the released blocks by the names of their issue. -/
def heapState (name : String) : Bench Answer := do
  let id ← heap (some name)
  let w ← get
  let heap := w.machine.heap id
  let label (block : BlockId) : Json :=
    Json.ofOption (fun entry => .string (Prod.snd entry))
      (w.issued.find? fun entry => entry.1 == block)
  return ok (.object [("allocations", .nat heap.blocks.size),
    ("releases", .array (heap.releases.map label))])

def releaseCount (name label : String) : Bench Answer := do
  let heap ← heap (some name)
  let b ← known Workbench.blocks label
  return ok (.nat (((← get).machine.heap heap).releaseCount b.block))

def malloc (name : Option String) (label : String) (size : Nat) : Bench Answer := do
  let heap ← heap name
  reserve (·.requestRoom heap size)
  granted label size (← run (·.malloc heap size))

def calloc (name : Option String) (label : String) (count size : Nat) : Bench Answer := do
  let heap ← heap name
  reserve (·.arrayRoom heap count size)
  granted label (count * size) (← run (·.calloc heap count size))

/-- Resize a block; its old name is gone unless this fails. -/
def realloc (name block : Option String) (label : String) (size : Nat) : Bench Answer := do
  let heap ← heap name
  let old ← known? Workbench.blocks block
  reserve (·.requestRoom heap size)
  match ← run (·.realloc heap (old.map NamedBlock.block) size) with
  | .error failure => return failed failure
  | .ok new =>
      forgetBlock block
      return ok (← nameBlock? label size new)

/-- Release a block. A block of a recording heap keeps its name. -/
def release (name block : Option String) (size : Option Nat) : Bench Answer := do
  let heap ← heap name
  let b ← known? Workbench.blocks block
  update (·.free heap (b.map NamedBlock.block) size)
  if heap == Machine.systemHeap then forgetBlock block
  return ok .null

def writeBlock (label : String) (offset : Nat) (bytes : List UInt8) : Bench Unit := do
  let b ← known Workbench.blocks label
  update (·.modifyBlock b.block fun m => m.write offset bytes.toArray)

/-- The bytes of a block, those to its end if no count is given. -/
def readBlock (label : String) (offset : Nat) (count : Option Nat) : Bench Json := do
  let b ← known Workbench.blocks label
  return View.hex ((← get).machine.readBlock b.block offset (count.getD (b.size - offset)))

def counters : Bench Counters := do
  return (← get).machine.observer.counters

/-- Work on counters of one's own. -/
def onTracker (name : String) (act : Counters → Counters) : Bench Answer := do
  let c := act (((← get).trackers.get? name).getD {})
  modify fun w => { w with trackers := w.trackers.set name c }
  return ok (.object [("stats", View.counters c), ("leaks", .bool c.hasLeaks)])

/-- The answer of an operation that changes a buffer: with the buffer behind it. -/
def buffered (before : List UInt8) (result : Except Failure (List UInt8)) : Bench Answer :=
  noted result View.nothing [("buf", View.hex (Bounded.behind before result))]

def duplicateText (bytes : List UInt8) : Bench Answer := do
  return answered (← run (·.duplicateText bytes)) fun copy =>
    .object [("bytes", View.hex copy), ("c_len", .nat (Text.terminated copy).length)]

def duplicateTerminated (bytes : Option (List UInt8)) : Bench Answer := do
  return answered (← run (·.duplicateTerminated bytes)) View.hex

end Underlay.Workbench
