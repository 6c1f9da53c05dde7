import Underlay.Boundary.Containers
import Underlay.Boundary.Handles
import Underlay.Memory.Bounded
import Underlay.Progression
import Underlay.Proofs.Failures.Routine

/-!
# Operations as routines

Every operation that can fail, step by step in the order in which it takes its steps: what it
checks, what it raises and where, what it obtains, and what it writes. An operation that calls
another one takes its steps, so that what the other one raises is raised once. The site is where
the operation was called from; it is handed on to whatever the operation calls.
-/

namespace Underlay.Failures.Routine

variable {γ ε κ υ : Type} (site : Site)

/-! ## Positions, slices and containers -/

def resolveIndex (index : Int) (length : Nat) : Routine ε Nat :=
  let position := if index < 0 then Word.saturate (index + Word.signed length) else index
  if 0 ≤ position ∧ position < length then
    return position.toNat
  else
    raise site (.raise .index
      ("index " ++ toString index ++ " out of range for length " ++ toString length)
      "normalize_index")

def resolveSlice (spec : SliceSpec) (length : Nat) : Routine ε Slice :=
  if spec.step.getD 1 = 0 then
    raise site (.raise .value "slice step cannot be zero" "normalize_slice")
  else
    return spec.bounds length

def progression (start stop step : Int) : Routine ε Progression :=
  if step = 0 then
    raise site (.raise .value "range() arg 3 must not be zero" "range")
  else
    return { start, stop, step, current := some start }

def element (s : Sequence ε) (index : Int) : Routine ε ε := do
  let position ← resolveIndex site index s.size
  match s.at? position with
  | some e => return e
  | none => raise site (s.emptyAt position "safe_at")

def lookup (m : Mapping κ υ) (key : κ) : Routine ε υ :=
  match if m.contains key then m.get? key else none with
  | some value => return value
  | none => raise site (m.missing key)

def collect (s : Sequence ε) (cursor : Slice.Cursor) : Nat → Routine ε (List ε)
  | 0 => return []
  | count + 1 =>
      match cursor.next? with
      | none => return []
      | some (index, cursor) =>
          match s.at? index with
          | none => raise site (s.emptyAt index "slice")
          | some e => do
              let rest ← collect s cursor count
              return e :: rest

def slice (s : Sequence ε) (spec : SliceSpec) : Routine ε (List ε) := do
  let resolved ← resolveSlice site spec s.size
  reserve (Sequence.referenceSize * resolved.length)
  collect site s resolved.cursor resolved.length

/-! ## Heaps -/

section Heaps

variable (id : HeapId)

def changeHeap (write : Heap → Heap) : Routine ε Unit :=
  changeMachine fun machine => machine.setHeap id (write (machine.heap id))

/-- Take one from the budget of a heap, if there is one and nothing is left of it say no. -/
def takeBudget : Routine ε Bool := do
  let heap ← view (·.machine.heap id)
  match heap.source with
  | .recording (some 0) => return false
  | .recording (some (left + 1)) =>
      changeHeap id ({ · with source := .recording (some left) })
      return true
  | _ => return true

/-- Put a block behind the others. -/
def place (block : Block) : Routine ε BlockId := do
  let heap ← view (·.machine.heap id)
  changeHeap id fun heap => { heap with blocks := heap.blocks.push block }
  return { heap := heap.id, number := heap.blocks.size }

/-- Ask a heap for a block. The blocks of a recording heap are vectors of the program, which come
out of its budget first. -/
def allocate (size : Nat) (zeroed : Bool) : Routine ε (Option BlockId) := do
  let heap ← view (·.machine.heap id)
  match heap.source with
  | .system system =>
      if system.grants size then
        let block ← place id { size, memory := if zeroed then .filled 0 else system.fresh }
        return some block
      else
        return none
  | .recording _ =>
      if ← takeBudget id then
        reserve (max 1 size)
        let block ← place id { size := max 1 size, memory := .filled 0 }
        return some block
      else
        return none

/-- Ask a heap for a block in the place of another: what the old one holds is copied as far as
there is room, and the old one is released. -/
def reallocate (old : Option BlockId) (size : Nat) : Routine ε (Option BlockId) := do
  match ← allocate id size false with
  | none => return none
  | some granted =>
      match old with
      | none => return some granted
      | some old =>
          changeHeap id fun heap =>
            let content := (heap.block? old).getD { size := 0, memory := .filled 0 }
            heap.modify granted fun m => content.memory.overlay m (min content.size size)
          changeHeap id (·.release old)
          return some granted

def malloc (size : Nat) : Routine ε BlockId :=
  if size = 0 then
    raise site (.raise .value "cannot allocate zero bytes" "checked_malloc")
  else do
    match ← allocate id size false with
    | some block =>
        observe (·.noteAlloc size)
        return block
    | none => raise site (Heap.exhausted "allocate" "checked_malloc" size)

def calloc (count size : Nat) : Routine ε BlockId :=
  if count = 0 ∨ size = 0 then
    raise site (.raise .value "cannot allocate zero elements" "checked_calloc")
  else
    match Word.fit? (count * size) with
    | none =>
        raise site (.raise .value
          ("allocation size overflow: " ++ toString count ++ " * " ++ toString size)
          "checked_calloc")
    | some total => do
        match ← allocate id total true with
        | some block =>
            observe (·.noteAlloc total)
            return block
        | none => raise site (Heap.exhausted "allocate" "checked_calloc" total)

def realloc (old : Option BlockId) (size : Nat) : Routine ε (Option BlockId) :=
  if size = 0 then
    match old with
    | none => return none
    | some block => do
        changeHeap id (·.release block)
        observe (·.noteFree none)
        return none
  else do
    match ← reallocate id old size with
    | some block =>
        if old.isNone then
          observe (·.noteAlloc size)
          return some block
        else
          return some block
    | none => raise site (Heap.exhausted "reallocate to" "checked_realloc" size)

/-- A block that holds the given bytes. -/
def duplicate (bytes : Array UInt8) : Routine ε BlockId := do
  let block ← malloc site id bytes.size
  changeHeap id (·.modify block fun m => m.write 0 bytes)
  return block

end Heaps

def copyText (text : List UInt8) : Routine ε BlockId :=
  duplicate site Machine.systemHeap (text.toArray.push 0)

def copyTerminated (text : Option (List UInt8)) : Routine ε BlockId :=
  match text with
  | none => raise site (.raise .value "cannot duplicate null string" "strdup")
  | some bytes => duplicate site Machine.systemHeap ((bytes.toArray.takeWhile (· != 0)).push 0)

/-! ## Bounded copies -/

section Copies

def write (write : List UInt8 → List UInt8) : Routine ε Unit :=
  change fun scene => { scene with bytes := write scene.bytes }

def copy (src : List UInt8) : Routine ε Unit := do
  let dest ← view Scene.bytes
  if dest.length < src.length then
    raise site (Bounded.overrun "copy_checked" "source size" src.length dest.length)
  else
    write (Bounded.splice · 0 src)

def move (src dest count : Nat) : Routine ε Unit := do
  let buffer ← view Scene.bytes
  if src + count ≤ buffer.length ∧ dest + count ≤ buffer.length ∧
      src + count < Word.limit ∧ dest + count < Word.limit then
    write fun buffer => Bounded.splice buffer dest ((buffer.drop src).take count)
  else
    raise site (Bounded.overrun "move_checked" "move of" count buffer.length)

def fill (byte : UInt8) (count : Nat) : Routine ε Unit := do
  let dest ← view Scene.bytes
  if dest.length < count then
    raise site (Bounded.overrun "fill_checked" "count" count dest.length)
  else
    write (Bounded.splice · 0 (List.replicate count byte))

/-- A copy past all bounds but those that the caller tells. The region to write is inside the bytes
of the caller, and missing if its pointer is null. -/
def copyRaw (dest src : Bool) (destSize srcSize : Nat) (overlapping : Bool)
    (copied : List UInt8 → List UInt8) : Routine ε Unit :=
  if !dest || !src then
    raise site (.raise .value "null pointer in copy" (Bounded.regionOperation overlapping))
  else if destSize < srcSize then
    raise site
      (Bounded.overrun (Bounded.regionOperation overlapping) "source size" srcSize destSize)
  else
    write copied

def copyRegion (dest : Bool) (src : Option (List UInt8)) (destSize srcSize : Nat)
    (overlapping : Bool) : Routine ε Unit :=
  copyRaw site dest src.isSome destSize srcSize overlapping
    (Bounded.splice · 0 ((src.getD []).take srcSize))

def moveRegion (src dest count destSize : Nat) : Routine ε Unit :=
  copyRaw site true true destSize count true
    fun buffer => Bounded.splice buffer dest ((buffer.drop src).take count)

def fillRegion (dest : Bool) (destSize : Nat) (byte : UInt8) (count : Nat) : Routine ε Unit :=
  if !dest then
    raise site (.raise .value "null pointer in fill" "memset_safe")
  else if destSize < count then
    raise site (Bounded.overrun "memset_safe" "count" count destSize)
  else
    write (Bounded.splice · 0 (List.replicate count byte))

end Copies

/-! ## Scopes -/

section Scopes

variable (id : Nat)

/-- Register a block in a scope, in front of the others. -/
def push (name : String) (block : BlockId) (size : Option Nat) : Routine ε Unit := do
  changeMachine fun machine =>
    match machine.scope? id with
    | some s => machine.setScope { s.scope with owned := { block, size } :: s.scope.owned }
    | none => machine
  match ← view (·.machine.scope? id) with
  | none => return
  | some s =>
      observe (·.emit
        { s.scope.event name (" live=" ++ toString s.scope.owned.length) with
          subject := some block.number, size })

/-- A block that a scope asks its heap for and then owns. A request that fails leaves a warning. -/
def own (name : String) (warned size : Nat) (request : HeapId → Routine ε BlockId) :
    Routine ε BlockId := do
  match ← view (·.machine.scope? id) with
  | none => return default
  | some s =>
      let block ← (request s.heap).onFailure fun machine =>
        machine.observe (s.scope.warn name warned machine.observer)
      push id name block (some size)
      return block

def scopeAlloc (size : Nat) : Routine ε BlockId :=
  own id "alloc" size size fun heap => malloc site heap size

def scopeAllocZeroed (count size : Nat) : Routine ε BlockId :=
  own id "alloc_zeroed" (Word.saturateSize (count * size)) (count * size) fun heap =>
    calloc site heap count size

def scopeRegister (block : Option BlockId) : Routine ε Unit := do
  match ← view (·.machine.scope? id) with
  | none => return
  | some _ =>
      match block with
      | none => raise site (.raise .value "cannot register a null pointer" "scope_register")
      | some block => push id "register" block none

end Scopes

/-! ## Pools -/

section Pools

/-- Refuse a buffer that no address space has room for. -/
def layout (capacity : Nat) : Routine ε Unit :=
  if capacity ≤ Pool.addressLimit then
    return
  else
    raise site (.raise .memory
      ("memory pool of " ++ toString capacity ++ " bytes exceeds the address space") "pool_open")

/-- The number of the next pool. -/
def takeNumber : Routine ε Nat := do
  changeMachine fun machine =>
    { machine with session :=
        { machine.session with poolsOpened := machine.session.poolsOpened + 1 } }
  view (·.machine.session.poolsOpened)

def openPool (asked : Option Nat) : Routine ε Nat := do
  let session ← view (·.machine.session)
  let capacity := if asked.getD 0 = 0 then session.poolCapacity else asked.getD 0
  layout site capacity
  if session.system.grants capacity then
    observe (·.noteAlloc capacity)
    let id ← takeNumber
    observe (·.emit
      { component := "pool", name := "open", subject := some id, size := some capacity,
        details := "pool=" ++ toString id })
    changeMachine fun machine =>
      { machine with pools := machine.pools ++
          [{ id, capacity, memory := session.system.fresh.fill 0 capacity 0 }] }
    return id
  else
    raise site (.raise .memory
      ("failed to allocate memory pool of " ++ toString capacity ++ " bytes") "pool_open")

variable (id : Nat)

/-- What is known of a pool that is open. -/
def self : Routine ε Pool :=
  view fun scene => (scene.machine.pool? id).getD default

def changePool (write : Pool → Pool) : Routine ε Unit :=
  changeMachine fun machine =>
    match machine.pool? id with
    | some p => machine.setPool (write p)
    | none => machine

/-- Move a pool to a buffer that holds `needed` bytes. The capacity is chosen before the buffer is
obtained; the pool has it only behind. The old buffer was obtained with a layout of its own. -/
def grow (needed : Nat) : Routine ε Unit := do
  let p ← self id
  match Pool.enlarge p.capacity needed with
  | none =>
      raise site (.raise .memory ("pool cannot grow to " ++ toString needed ++ " bytes")
        "pool_alloc")
  | some capacity =>
      layout site capacity
      let system ← view (·.machine.session.system)
      if system.grants capacity then
        changePool id fun p => { p with
          memory := (p.memory.overlay system.fresh p.capacity).fill p.capacity
            (capacity - p.capacity) 0 }
        observe (·.noteAlloc (capacity - p.capacity))
        observe (·.emit
          { component := "pool", name := "grow", subject := some p.id, size := some capacity,
            details := "from=" ++ toString p.capacity })
        changePool id fun p => { p with capacity }
        changePool id fun p => { p with growths := p.growths + 1 }
      else
        observe (·.emit
          { component := "pool", name := "grow", level := .warn, size := some capacity,
            outcome := "failed", details := "pool=" ++ toString p.id })
        raise site (.raise .memory
          ("failed to grow memory pool to " ++ toString capacity ++ " bytes") "pool_alloc")

/-- Move the end of the used part; where it was. -/
def carve (needed : Nat) : Routine ε Nat := do
  let p ← self id
  changePool id fun p => { p with used := needed }
  changePool id fun p => { p with allocations := p.allocations + 1 }
  return p.used

/-- Carve a block, after growing if it takes that; where it begins. -/
def bump (size : Nat) : Routine ε Nat := do
  let p ← self id
  match p.demand? size with
  | none =>
      raise site (.raise .memory ("pool request of " ++ toString size ++ " bytes overflows")
        "pool_alloc")
  | some needed =>
      if p.capacity < needed then do
        grow site id needed
        carve id needed
      else
        carve id needed

/-- An operation on an open pool. -/
def onPool {α : Type} (absent : α) (routine : Routine ε α) : Routine ε α := do
  match ← view (·.machine.pool? id) with
  | none => return absent
  | some _ => routine

def poolAlloc (size : Nat) : Routine ε Handle :=
  onPool id default do
    let offset ← bump site id size
    let p ← self id
    return { pool := p.id, offset, length := size, epoch := p.epoch }

/-- Carve a block of which only the address is wanted. -/
def poolAllocRaw (size : Nat) : Routine ε Nat :=
  onPool id 0 (bump site id size)

/-- Refuse a handle that the pool does not honour. -/
def check (handle : Handle) : Routine ε Unit := do
  let p ← self id
  match p.objection? handle with
  | none => return
  | some message => raise site (.raise .value message "pool_access")

def poolBytes (handle : Handle) : Routine ε (List UInt8) :=
  onPool id [] do
    check site id handle
    let p ← self id
    return p.memory.read handle.offset handle.length

def poolWrite (handle : Handle) (start : Nat) (bytes : List UInt8) : Routine ε Unit :=
  onPool id () do
    check site id handle
    changePool id fun p => { p with
      memory := p.memory.write (handle.offset + start)
        (Pool.fitting handle start bytes).toArray }

def poolFill (handle : Handle) (byte : UInt8) : Routine ε Unit :=
  onPool id () do
    check site id handle
    changePool id fun p => { p with memory := p.memory.fill handle.offset handle.length byte }

def poolAddress (handle : Handle) : Routine ε Nat :=
  onPool id 0 do
    check site id handle
    return handle.offset

end Pools

/-! ## Entry points that write to their caller -/

section Entries

/-- Demand a pointer, which is called `what` in the failure. -/
def require {α : Type} (pointer : Option α) (operation what : String) : Routine ε α :=
  match pointer with
  | some a => return a
  | none => raise .internal (.raise .value (what ++ " is null") operation)

/-- Demand a part of a container. -/
def demand {α : Type} (operation : String) (part : Option α) : Routine ε α :=
  match part with
  | some a => return a
  | none => raise .internal (Boundary.invalid operation)

def normalizeSlice (written : Option Boundary.WrittenSlice) (length : Nat) : Routine ε Unit := do
  let written ← require written "pyrt_normalize_slice" "slice"
  let _ ← require (← view Scene.slice) "pyrt_normalize_slice" "output slot"
  let resolved ← resolveSlice .internal written.spec length
  change ({ · with slice := some resolved })

/-- Write elements into the places for them, from a place on. -/
def writeAll (place : Nat) : List ε → Routine ε Unit
  | [] => return
  | e :: rest => do
      change fun scene => { scene with elements := scene.elements.map (·.set place (some e)) }
      writeAll (place + 1) rest

/-- Write the elements of a slice if there are enough places; how many were written. -/
def writeFitting (capacity : Nat) (elements : List ε) : Routine ε Nat := do
  let out ← view Scene.elements
  if capacity < elements.length ∨ (!out.isSome ∧ !elements.isEmpty) then
    raise .internal (.raise .value ("slice of " ++ toString elements.length ++
      " elements does not fit in " ++ toString capacity) "pyrt_slice")
  else do
    writeAll 0 elements
    return elements.length

def writeSlice (table : Option (Boundary.SequenceTable γ ε)) (container : Option γ)
    (written : Option Boundary.WrittenSlice) (capacity : Nat) : Routine ε Nat := do
  let table ← demand "pyrt_slice" table
  let container ← demand "pyrt_slice" container
  let size ← demand "pyrt_slice" table.size
  let element ← demand "pyrt_slice" table.element
  let written ← demand "pyrt_slice" written
  let elements ← slice .internal (table.sequence size element container) written.spec
  writeFitting capacity elements

def register (registry : Option RegistryId) (resource : Option Nat) (cleanup : Bool)
    (name : Option (List UInt8)) : Routine ε Unit := do
  let registry ← require registry "pyrt_registry_register" "registry"
  let resource ← require resource "pyrt_registry_register" "resource"
  if cleanup then do
    let entry : Registry.Entry :=
      { name := name.map Boundary.textOf, cleanup := .resource (toString resource) }
    let pending := entry :: (← view (·.machine.registry registry)).pending
    changeMachine (·.setRegistry registry { pending })
    observe (·.emit
      { component := "registry", name := "register",
        details := entry.label ++ " live=" ++ toString pending.length })
  else
    raise .internal (.raise .value "cleanup callback is null" "pyrt_registry_register")

end Entries

end Underlay.Failures.Routine
