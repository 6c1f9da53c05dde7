import Underlay.Memory.Bytes
import Underlay.Observer
import Underlay.Failure

/-!
Heaps. A heap numbers the blocks that it grants from zero and keeps a log of releases; a block
that was granted and not released is live. A block is known by its heap and its number there, so
that no two heaps grant the same block; a heap may be told to release a block of another heap, and
then logs that one. The system heap grants the requests that the system grants. A recording heap
grants as long as its budget lasts and the program can reserve the block, and a release only goes
into its log.

On a heap stand the checked operations. They refuse empty and overflowing requests, report
exhaustion, and tell the observer what was obtained and given back; a refused request changes
nothing.
-/

namespace Underlay

/-- Where a heap takes its blocks from. -/
inductive Source where
  | system (system : System)
  | recording (budget : Option Nat)
deriving Inhabited

namespace Source

/-- The source after granting a request, if it grants it. -/
def grant (size : Nat) : Source → Option Source
  | system s => if s.grants size then some (system s) else none
  | recording none => some (recording none)
  | recording (some 0) => none
  | recording (some (left + 1)) => some (recording (some left))

/-- What a fresh block holds. A recording heap hands out zeros. -/
def fresh : Source → Memory
  | system s => s.fresh
  | recording _ => .filled 0

/-- The room that a request takes: a recording heap has no empty blocks. -/
def room (size : Nat) : Source → Nat
  | system _ => size
  | recording _ => max 1 size

/-- The bytes that the program reserves for itself to serve a request: the blocks of a recording
heap are vectors of its own. -/
def reserved (size : Nat) : Source → Nat
  | system _ | recording (some 0) => 0
  | recording _ => max 1 size

end Source

structure Block where
  size : Nat
  memory : Memory
deriving Inhabited

abbrev HeapId := Nat

/-- What a block is known by. -/
structure BlockId where
  heap : HeapId
  number : Nat
deriving DecidableEq, Repr, Inhabited

structure Heap where
  id : HeapId := 0
  source : Source := .system {}
  /-- Every block ever granted, by its number. -/
  blocks : Array Block := #[]
  /-- The blocks that it was told to release, in that order. -/
  releases : List BlockId := []
deriving Inhabited

namespace Heap

def block? (h : Heap) (id : BlockId) : Option Block :=
  if id.heap = h.id then h.blocks[id.number]? else none

def releaseCount (h : Heap) (id : BlockId) : Nat :=
  h.releases.count id

/-- Grant a block with the given content. -/
def grant (h : Heap) (size : Nat) (memory : Memory) : Option (BlockId × Heap) :=
  (h.source.grant size).map fun source =>
    ({ heap := h.id, number := h.blocks.size },
      { h with source, blocks := h.blocks.push { size := h.source.room size, memory } })

def allocate (h : Heap) (size : Nat) : Option (BlockId × Heap) :=
  h.grant size h.source.fresh

def allocateZeroed (h : Heap) (size : Nat) : Option (BlockId × Heap) :=
  h.grant size (.filled 0)

/-- Log the release of a block. -/
def release (h : Heap) (id : BlockId) : Heap :=
  { h with releases := h.releases ++ [id] }

/-- A block of another size that begins with the content of the old one, which is released. -/
def reallocate (h : Heap) (old : Option BlockId) (size : Nat) : Option (BlockId × Heap) :=
  match old with
  | none => h.allocate size
  | some id =>
      let content := (h.block? id).getD { size := 0, memory := .filled 0 }
      (h.grant size (content.memory.overlay h.source.fresh (min content.size size))).map
        fun (granted, h) => (granted, h.release id)

/-- Change the content of a block. -/
def modify (h : Heap) (id : BlockId) (change : Memory → Memory) : Heap :=
  if id.heap = h.id then
    { h with blocks := h.blocks.modify id.number fun b => { b with memory := change b.memory } }
  else
    h

def exhausted (verb operation : String) (size : Nat) : Failure :=
  .raise .memory ("failed to " ++ verb ++ " " ++ toString size ++ " bytes") operation

/-- A block of `size` bytes, at least one. -/
def malloc (h : Heap) (size : Nat) (o : Observer) : Except Failure (BlockId × Heap × Observer) :=
  if size = 0 then
    .error (.raise .value "cannot allocate zero bytes" "checked_malloc")
  else
    match h.allocate size with
    | some (id, h) => .ok (id, h, o.noteAlloc size)
    | none => .error (exhausted "allocate" "checked_malloc" size)

/-- A zeroed block for `count` elements of `size` bytes. -/
def calloc (h : Heap) (count size : Nat) (o : Observer) :
    Except Failure (BlockId × Heap × Observer) :=
  if count = 0 ∨ size = 0 then
    .error (.raise .value "cannot allocate zero elements" "checked_calloc")
  else
    match Word.fit? (count * size) with
    | none =>
        .error (.raise .value
          ("allocation size overflow: " ++ toString count ++ " * " ++ toString size)
          "checked_calloc")
    | some total =>
        match h.allocateZeroed total with
        | some (id, h) => .ok (id, h, o.noteAlloc total)
        | none => .error (exhausted "allocate" "checked_calloc" total)

/-- Resize a block. Size zero releases it instead; without a block this is an allocation, and
only then the observer counts one. -/
def realloc (h : Heap) (old : Option BlockId) (size : Nat) (o : Observer) :
    Except Failure (Option BlockId × Heap × Observer) :=
  if size = 0 then
    match old with
    | some id => .ok (none, h.release id, o.noteFree none)
    | none => .ok (none, h, o)
  else
    match h.reallocate old size with
    | some (id, h) => .ok (some id, h, if old.isNone then o.noteAlloc size else o)
    | none => .error (exhausted "reallocate to" "checked_realloc" size)

/-- Release a block; releasing none does nothing. -/
def free (h : Heap) (id : Option BlockId) (size : Option Nat) (o : Observer) : Heap × Observer :=
  match id with
  | some id => (h.release id, o.noteFree size)
  | none => (h, o)

/-- A block that holds the given bytes, at least one. -/
def duplicate (h : Heap) (bytes : Array UInt8) (o : Observer) :
    Except Failure (BlockId × Heap × Observer) :=
  (h.malloc bytes.size o).map fun (id, h, o) =>
    (id, h.modify id fun m => m.write 0 bytes, o)

/-- A copy of a text with a zero byte behind it. -/
def duplicateText (h : Heap) (text : Array UInt8) (o : Observer) :
    Except Failure (BlockId × Heap × Observer) :=
  h.duplicate (text.push 0) o

/-- A copy of a zero-terminated text, up to and with its first zero byte. -/
def duplicateTerminated (h : Heap) (text : Option (Array UInt8)) (o : Observer) :
    Except Failure (BlockId × Heap × Observer) :=
  match text with
  | none => .error (.raise .value "cannot duplicate null string" "strdup")
  | some bytes => h.duplicateText (bytes.takeWhile (· != 0)) o

/-! Granting a block logs no release. -/

theorem releases_of_grant {h h' : Heap} {size : Nat} {memory : Memory} {id : BlockId}
    (granted : h.grant size memory = some (id, h')) : h'.releases = h.releases := by
  simp only [grant, Option.map_eq_some_iff, Prod.mk.injEq] at granted
  obtain ⟨source, -, -, rfl⟩ := granted
  rfl

theorem releases_of_malloc {h h' : Heap} {size : Nat} {o o' : Observer} {id : BlockId}
    (done : h.malloc size o = .ok (id, h', o')) : h'.releases = h.releases := by
  unfold malloc at done
  split at done
  · cases done
  · cases granted : h.allocate size with
    | none => simp [granted] at done
    | some answer =>
        simp only [granted, Except.ok.injEq, Prod.mk.injEq] at done
        obtain ⟨rfl, rfl, -⟩ := done
        exact releases_of_grant granted

theorem releases_of_calloc {h h' : Heap} {count size : Nat} {o o' : Observer} {id : BlockId}
    (done : h.calloc count size o = .ok (id, h', o')) : h'.releases = h.releases := by
  unfold calloc at done
  split at done
  · cases done
  · cases fitting : Word.fit? (count * size) with
    | none => simp [fitting] at done
    | some total =>
        cases granted : h.allocateZeroed total with
        | none => simp [fitting, granted] at done
        | some answer =>
            simp only [fitting, granted, Except.ok.injEq, Prod.mk.injEq] at done
            obtain ⟨rfl, rfl, -⟩ := done
            exact releases_of_grant granted

end Heap

end Underlay
