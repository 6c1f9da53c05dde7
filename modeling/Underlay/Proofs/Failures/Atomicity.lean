import Underlay.Proofs.Failures.Run
import Underlay.Proofs.Failures.Sparing

/-!
# Failures are atomic

Every operation that can fail checks and obtains first and writes behind that: a heap that is asked
for a block and has none is as it was, a resized block is copied and released only once there is
another one, a pool has its new capacity only once it has the buffer, and elements are looked up
before the first of them is written. So an operation that fails leaves the scene as it was but for
the slot of the last failure and at most one warning. This holds at every scene, however it came
about.
-/

namespace Underlay

namespace Failures

variable {γ ε κ υ α : Type}

namespace Routine

section Operations

variable (site : Site)

/-! Positions, slices and containers -/

theorem clean_resolveIndex (index : Int) (length : Nat) :
    (resolveIndex site index length : Routine ε _).Clean :=
  .ite (total_pure _).failsTo (clean_raise site _)

theorem still_resolveIndex (index : Int) (length : Nat) :
    (resolveIndex site index length : Routine ε _).Still :=
  .ite (still_pure _) (still_raise site _)

theorem clean_resolveSlice (spec : SliceSpec) (length : Nat) :
    (resolveSlice site spec length : Routine ε _).Clean :=
  .ite (clean_raise site _) (total_pure _).failsTo

theorem still_resolveSlice (spec : SliceSpec) (length : Nat) :
    (resolveSlice site spec length : Routine ε _).Still :=
  .ite (still_raise site _) (still_pure _)

theorem clean_progression (start stop step : Int) :
    (progression site start stop step : Routine ε _).Clean :=
  .ite (clean_raise site _) (total_pure _).failsTo

theorem clean_element (s : Sequence ε) (index : Int) : (element site s index).Clean := by
  refine (clean_resolveIndex site index s.size).bind_still
    (still_resolveIndex site index s.size) fun position => ?_
  cases s.at? position with
  | none => exact clean_raise site _
  | some e => exact (total_pure e).failsTo

theorem clean_lookup (m : Mapping κ υ) (key : κ) : (lookup site m key : Routine ε _).Clean := by
  unfold lookup
  cases (if m.contains key then m.get? key else none) with
  | none => exact clean_raise site _
  | some value => exact (total_pure value).failsTo

theorem still_collect (s : Sequence ε) (cursor : Slice.Cursor) (count : Nat) :
    (collect site s cursor count).Still := by
  induction count generalizing cursor with
  | zero => exact still_pure []
  | succ count inductionHypothesis =>
      unfold collect
      cases cursor.next? with
      | none => exact still_pure []
      | some next =>
          dsimp only
          cases s.at? next.1 with
          | none => exact still_raise site _
          | some e => exact (inductionHypothesis next.2).bind fun rest => still_pure (e :: rest)

/-- Whatever was collected before an element is missing was written nowhere. -/
theorem clean_collect (s : Sequence ε) (cursor : Slice.Cursor) (count : Nat) :
    (collect site s cursor count).Clean := by
  induction count generalizing cursor with
  | zero => exact (total_pure []).failsTo
  | succ count inductionHypothesis =>
      unfold collect
      cases cursor.next? with
      | none => exact (total_pure []).failsTo
      | some next =>
          dsimp only
          cases s.at? next.1 with
          | none => exact clean_raise site _
          | some e => exact (inductionHypothesis next.2).bind_total fun rest => total_pure _

theorem clean_slice (s : Sequence ε) (spec : SliceSpec) : (slice site s spec).Clean :=
  (clean_resolveSlice site spec s.size).bind_still (still_resolveSlice site spec s.size)
    fun resolved => (total_reserve _).failsTo.bind_still (still_reserve _)
      fun _ => clean_collect site s resolved.cursor resolved.length

theorem still_slice (s : Sequence ε) (spec : SliceSpec) : (slice site s spec).Still :=
  (still_resolveSlice site spec s.size).bind fun resolved =>
    (still_reserve _).bind fun _ => still_collect site s resolved.cursor resolved.length

/-! Heaps -/

section Heaps

variable (id : HeapId)

theorem total_changeHeap (write : Heap → Heap) : (changeHeap id write : Routine ε Unit).Total :=
  total_changeMachine _

theorem total_takeBudget : (takeBudget id : Routine ε Bool).Total := by
  refine .view fun heap => ?_
  split
  · exact total_pure false
  · exact (total_changeHeap id _).bind fun _ => total_pure true
  · exact total_pure true

/-- The budget of a heap that has none left stays as it is. -/
theorem stillAt_takeBudget : (takeBudget id : Routine ε Bool).StillAt false := by
  intro scene after answered
  unfold takeBudget at answered
  rw [run_view_bind] at answered
  split at answered
  · cases answered
    rfl
  · obtain ⟨_, _, -, answered⟩ := run_bind_answered answered
    cases answered
  · cases answered

theorem total_place (block : Block) : (place id block : Routine ε _).Total :=
  .view fun _ => (total_changeHeap id _).bind fun _ => total_pure _

theorem total_allocate (size : Nat) (zeroed : Bool) :
    (allocate id size zeroed : Routine ε _).Total := by
  refine .view fun heap => ?_
  cases heap.source with
  | system system =>
      exact .ite ((total_place id _).bind fun block => total_pure (some block)) (total_pure none)
  | recording budget =>
      exact (total_takeBudget id).bind fun taken => .ite
        ((total_reserve _).bind fun _ => (total_place id _).bind fun block =>
          total_pure (some block))
        (total_pure none)

/-- A heap that answers with nothing is as it was. -/
theorem stillAt_allocate (size : Nat) (zeroed : Bool) :
    (allocate id size zeroed : Routine ε _).StillAt none := by
  intro scene after answered
  unfold allocate at answered
  rw [run_view_bind] at answered
  cases source : (scene.machine.heap id).source with
  | system system =>
      simp only [source] at answered
      split at answered
      · obtain ⟨block, _, -, answered⟩ := run_bind_answered answered
        cases answered
      · cases answered
        rfl
  | recording budget =>
      simp only [source] at answered
      obtain ⟨taken, middle, took, answered⟩ := run_bind_answered answered
      cases taken with
      | false =>
          cases answered
          exact stillAt_takeBudget id took
      | true =>
          obtain ⟨_, _, -, answered⟩ := run_bind_answered answered
          obtain ⟨block, _, -, answered⟩ := run_bind_answered answered
          cases answered

theorem total_reallocate (old : Option BlockId) (size : Nat) :
    (reallocate id old size : Routine ε _).Total := by
  refine (total_allocate id size false).bind fun granted => ?_
  cases granted with
  | none => exact total_pure none
  | some granted =>
      cases old with
      | none => exact total_pure (some granted)
      | some old =>
          exact (total_changeHeap id _).bind fun _ =>
            (total_changeHeap id _).bind fun _ => total_pure (some granted)

/-- A block that cannot be resized is neither copied nor released. -/
theorem stillAt_reallocate (old : Option BlockId) (size : Nat) :
    (reallocate id old size : Routine ε _).StillAt none := by
  intro scene after answered
  obtain ⟨granted, middle, asked, answered⟩ := run_bind_answered answered
  cases granted with
  | none =>
      cases answered
      exact stillAt_allocate id size false asked
  | some granted =>
      cases old with
      | none => cases answered
      | some old =>
          obtain ⟨_, _, -, answered⟩ := run_bind_answered answered
          obtain ⟨_, _, -, answered⟩ := run_bind_answered answered
          cases answered

theorem clean_malloc (size : Nat) : (malloc site id size : Routine ε _).Clean := by
  refine .ite (clean_raise site _)
    ((total_allocate id size false).failsTo.bind fun granted => ?_)
  cases granted with
  | none => exact .inr ⟨stillAt_allocate id size false, clean_raise site _⟩
  | some block => exact .inl ((total_observe _).bind fun _ => total_pure block)

theorem clean_calloc (count size : Nat) : (calloc site id count size : Routine ε _).Clean := by
  refine .ite (clean_raise site _) ?_
  cases Word.fit? (count * size) with
  | none => exact clean_raise site _
  | some total =>
      refine (total_allocate id total true).failsTo.bind fun granted => ?_
      cases granted with
      | none => exact .inr ⟨stillAt_allocate id total true, clean_raise site _⟩
      | some block => exact .inl ((total_observe _).bind fun _ => total_pure block)

theorem clean_realloc (old : Option BlockId) (size : Nat) :
    (realloc site id old size : Routine ε _).Clean := by
  unfold realloc
  split
  · cases old with
    | none => exact (total_pure none).failsTo
    | some block =>
        exact Total.failsTo ((total_changeHeap id _).bind fun _ =>
          (total_observe _).bind fun _ => total_pure none)
  · refine (total_reallocate id old size).failsTo.bind fun granted => ?_
    cases granted with
    | none => exact .inr ⟨stillAt_reallocate id old size, clean_raise site _⟩
    | some block =>
        exact .inl (.ite ((total_observe _).bind fun _ => total_pure (some block))
          (total_pure (some block)))

theorem clean_duplicate (bytes : Array UInt8) : (duplicate site id bytes : Routine ε _).Clean :=
  (clean_malloc site id bytes.size).bind_total fun block =>
    (total_changeHeap id _).bind fun _ => total_pure block

end Heaps

theorem clean_copyText (text : List UInt8) : (copyText site text : Routine ε _).Clean :=
  clean_duplicate site Machine.systemHeap _

theorem clean_copyTerminated (text : Option (List UInt8)) :
    (copyTerminated site text : Routine ε _).Clean := by
  cases text with
  | none => exact clean_raise site _
  | some bytes => exact clean_duplicate site Machine.systemHeap _

/-! Bounded copies -/

section Copies

theorem total_write (written : List UInt8 → List UInt8) :
    (write written : Routine ε Unit).Total :=
  total_change _

theorem clean_copy (src : List UInt8) : (copy site src : Routine ε _).Clean :=
  .view fun _ => .ite (clean_raise site _) (total_write _).failsTo

theorem clean_move (src dest count : Nat) : (move site src dest count : Routine ε _).Clean :=
  .view fun _ => .ite (total_write _).failsTo (clean_raise site _)

theorem clean_fill (byte : UInt8) (count : Nat) : (fill site byte count : Routine ε _).Clean :=
  .view fun _ => .ite (clean_raise site _) (total_write _).failsTo

theorem clean_copyRaw (dest src : Bool) (destSize srcSize : Nat) (overlapping : Bool)
    (copied : List UInt8 → List UInt8) :
    (copyRaw site dest src destSize srcSize overlapping copied : Routine ε _).Clean :=
  .ite (clean_raise site _) (.ite (clean_raise site _) (total_write copied).failsTo)

theorem clean_fillRegion (dest : Bool) (destSize : Nat) (byte : UInt8) (count : Nat) :
    (fillRegion site dest destSize byte count : Routine ε _).Clean :=
  .ite (clean_raise site _) (.ite (clean_raise site _) (total_write _).failsTo)

end Copies

/-! Scopes -/

section Scopes

variable (id : Nat)

theorem total_push (name : String) (block : BlockId) (size : Option Nat) :
    (push id name block size : Routine ε _).Total := by
  refine (total_changeMachine _).bind fun _ => .view fun found => ?_
  cases found with
  | none => exact total_pure ()
  | some s => exact total_observe _

/-- The warning of a request that fails is all that it leaves besides its report. -/
theorem atomic_own (name : String) (warned size : Nat) {request : HeapId → Routine ε BlockId}
    (clean : ∀ heap, (request heap).Clean) : (own id name warned size request).Atomic := by
  refine .view fun found => ?_
  cases found with
  | none => exact (total_pure default).failsTo
  | some s =>
      refine FailsTo.bind_total ((clean s.heap).onFailure fun o => o.warns_emit rfl) fun block => ?_
      exact (total_push id name block _).bind fun _ => total_pure block

theorem atomic_scopeAlloc (size : Nat) : (scopeAlloc site id size : Routine ε _).Atomic :=
  atomic_own id _ _ _ fun heap => clean_malloc site heap size

theorem atomic_scopeAllocZeroed (count size : Nat) :
    (scopeAllocZeroed site id count size : Routine ε _).Atomic :=
  atomic_own id _ _ _ fun heap => clean_calloc site heap count size

theorem clean_scopeRegister (block : Option BlockId) :
    (scopeRegister site id block : Routine ε _).Clean := by
  refine .view fun found => ?_
  cases found with
  | none => exact (total_pure ()).failsTo
  | some s =>
      cases block with
      | none => exact clean_raise site _
      | some block => exact (total_push id _ block none).failsTo

end Scopes

/-! Pools -/

section Pools

theorem clean_layout (capacity : Nat) : (layout site capacity : Routine ε _).Clean :=
  .ite (total_pure ()).failsTo (clean_raise site _)

theorem still_layout (capacity : Nat) : (layout site capacity : Routine ε _).Still :=
  .ite (still_pure ()) (still_raise site _)

theorem total_takeNumber : (takeNumber : Routine ε Nat).Total :=
  (total_changeMachine _).bind fun _ => .view fun number => total_pure number

/-- A pool that is not opened takes no number. -/
theorem clean_openPool (asked : Option Nat) : (openPool site asked : Routine ε _).Clean := by
  refine .view fun session => (clean_layout site _).bind_still (still_layout site _) fun _ => ?_
  refine .ite (Total.failsTo ?_) (clean_raise site _)
  exact (total_observe _).bind fun _ => total_takeNumber.bind fun number =>
    (total_observe _).bind fun _ => (total_changeMachine _).bind fun _ => total_pure number

variable (id : Nat)

theorem total_changePool (write : Pool → Pool) : (changePool id write : Routine ε _).Total :=
  total_changeMachine _

/-- The capacity is chosen before the buffer is there, but written only behind. -/
theorem atomic_grow (needed : Nat) : (grow site id needed : Routine ε _).Atomic := by
  refine .view fun p => ?_
  cases Pool.enlarge p.capacity needed with
  | none => exact (clean_raise site _).atomic
  | some capacity =>
      refine (clean_layout site capacity).atomic.bind_still (still_layout site capacity)
        fun _ => .view fun system => ?_
      refine .ite (Total.failsTo ?_) (atomic_warn_raise (fun o => o.warns_emit rfl) site _)
      exact (total_changePool id _).bind fun _ => (total_observe _).bind fun _ =>
        (total_observe _).bind fun _ => (total_changePool id _).bind fun _ =>
          total_changePool id _

theorem total_carve (needed : Nat) : (carve id needed : Routine ε _).Total :=
  .view fun p => (total_changePool id _).bind fun _ =>
    (total_changePool id _).bind fun _ => total_pure p.used

theorem atomic_bump (size : Nat) : (bump site id size : Routine ε _).Atomic := by
  refine .view fun p => ?_
  cases p.demand? size with
  | none => exact (clean_raise site _).atomic
  | some needed =>
      exact .ite ((atomic_grow site id needed).bind_total fun _ => total_carve id needed)
        (total_carve id needed).failsTo

theorem FailsTo.onPool {leaves : Scene ε → Scene ε → Prop} {absent : α} {routine : Routine ε α}
    (fails : routine.FailsTo leaves) : (onPool id absent routine).FailsTo leaves := by
  refine .view fun found => ?_
  cases found with
  | none => exact (total_pure absent).failsTo
  | some p => exact fails

theorem atomic_poolAlloc (size : Nat) : (poolAlloc site id size : Routine ε _).Atomic :=
  .onPool id ((atomic_bump site id size).bind_total fun _ => .view fun _ => total_pure _)

theorem atomic_poolAllocRaw (size : Nat) : (poolAllocRaw site id size : Routine ε _).Atomic :=
  .onPool id (atomic_bump site id size)

theorem clean_check (handle : Handle) : (check site id handle : Routine ε _).Clean := by
  refine .view fun p => ?_
  cases p.objection? handle with
  | none => exact (total_pure ()).failsTo
  | some message => exact clean_raise site _

theorem clean_poolBytes (handle : Handle) : (poolBytes site id handle : Routine ε _).Clean :=
  .onPool id ((clean_check site id handle).bind_total fun _ => .view fun _ => total_pure _)

theorem clean_poolWrite (handle : Handle) (start : Nat) (bytes : List UInt8) :
    (poolWrite site id handle start bytes : Routine ε _).Clean :=
  .onPool id ((clean_check site id handle).bind_total fun _ => total_changePool id _)

theorem clean_poolFill (handle : Handle) (byte : UInt8) :
    (poolFill site id handle byte : Routine ε _).Clean :=
  .onPool id ((clean_check site id handle).bind_total fun _ => total_changePool id _)

theorem clean_poolAddress (handle : Handle) : (poolAddress site id handle : Routine ε _).Clean :=
  .onPool id ((clean_check site id handle).bind_total fun _ => total_pure _)

end Pools

end Operations

/-! Entry points that write to their caller -/

section Entries

theorem clean_require (pointer : Option α) (operation what : String) :
    (require pointer operation what : Routine ε α).Clean := by
  cases pointer with
  | none => exact clean_raise .internal _
  | some a => exact (total_pure a).failsTo

theorem still_require (pointer : Option α) (operation what : String) :
    (require pointer operation what : Routine ε α).Still := by
  cases pointer with
  | none => exact still_raise .internal _
  | some a => exact still_pure a

theorem clean_demand (operation : String) (part : Option α) :
    (demand operation part : Routine ε α).Clean := by
  cases part with
  | none => exact clean_raise .internal _
  | some a => exact (total_pure a).failsTo

theorem still_demand (operation : String) (part : Option α) :
    (demand operation part : Routine ε α).Still := by
  cases part with
  | none => exact still_raise .internal _
  | some a => exact still_pure a

theorem clean_normalizeSlice (written : Option Boundary.WrittenSlice) (length : Nat) :
    (normalizeSlice written length : Routine ε _).Clean := by
  refine (clean_require written _ _).bind_still (still_require written _ _) fun written => ?_
  refine .view fun slot => (clean_require slot _ _).bind_still (still_require slot _ _) fun _ => ?_
  exact (clean_resolveSlice .internal written.spec length).bind_total fun _ => total_change _

theorem total_writeAll (place : Nat) (elements : List ε) : (writeAll place elements).Total := by
  induction elements generalizing place with
  | nil => exact total_pure ()
  | cons e rest inductionHypothesis =>
      exact (total_change _).bind fun _ => inductionHypothesis (place + 1)

/-- Elements are written only when all of them are there and have room. -/
theorem clean_writeSlice (table : Option (Boundary.SequenceTable γ ε)) (container : Option γ)
    (written : Option Boundary.WrittenSlice) (capacity : Nat) :
    (writeSlice table container written capacity).Clean := by
  refine (clean_demand _ table).bind_still (still_demand _ table) fun table => ?_
  refine (clean_demand _ container).bind_still (still_demand _ container) fun container => ?_
  refine (clean_demand _ table.size).bind_still (still_demand _ table.size) fun size => ?_
  refine (clean_demand _ table.element).bind_still (still_demand _ table.element)
    fun element => ?_
  refine (clean_demand _ written).bind_still (still_demand _ written) fun written => ?_
  refine (clean_slice .internal _ written.spec).bind_still
    (still_slice .internal _ written.spec) fun elements => ?_
  refine .view fun out => .ite (clean_raise .internal _) (Total.failsTo ?_)
  exact (total_writeAll 0 elements).bind fun _ => total_pure elements.length

theorem clean_register (registry : Option RegistryId) (resource : Option Nat) (cleanup : Bool)
    (name : Option (List UInt8)) :
    (register registry resource cleanup name : Routine ε _).Clean := by
  refine (clean_require registry _ _).bind_still (still_require registry _ _) fun registry => ?_
  refine (clean_require resource _ _).bind_still (still_require resource _ _) fun resource => ?_
  refine .ite (.view fun before => Total.failsTo ?_) (clean_raise .internal _)
  exact (total_changeMachine _).bind fun _ => total_observe _

end Entries

end Routine

/-! Requests of a program: operations, and entry points that write to their caller. -/

section

variable (γ ε κ υ : Type)

/-- Requests on containers `γ` of elements `ε`. -/
inductive Request where
  | call (site : Site) (operation : Operation ε κ υ)
  | normalizeSlice (written : Option Boundary.WrittenSlice) (length : Nat)
  | writeSlice (table : Option (Boundary.SequenceTable γ ε)) (container : Option γ)
      (written : Option Boundary.WrittenSlice) (capacity : Nat)
  | register (registry : Option RegistryId) (resource : Option Nat) (cleanup : Bool)
      (name : Option (List UInt8))

end

def Request.routine : Request γ ε κ υ → Routine ε Unit
  | .call site operation => operation.routine site
  | .normalizeSlice written length => Routine.normalizeSlice written length
  | .writeSlice table container written capacity =>
      discard (Routine.writeSlice table container written capacity)
  | .register registry resource cleanup name => Routine.register registry resource cleanup name

theorem Routine.FailsTo.discard {leaves : Scene ε → Scene ε → Prop} {routine : Routine ε α}
    (fails : routine.FailsTo leaves) : (discard routine).FailsTo leaves :=
  fails.bind_total fun _ => total_pure ()

theorem Operation.atomic (site : Site) (operation : Operation ε κ υ) :
    (operation.routine site).Atomic := by
  cases operation with
  | resolveIndex index length => exact (Routine.clean_resolveIndex site index length).atomic.discard
  | resolveSlice spec length => exact (Routine.clean_resolveSlice site spec length).atomic.discard
  | progression start stop step =>
      exact (Routine.clean_progression site start stop step).atomic.discard
  | element s index => exact (Routine.clean_element site s index).atomic.discard
  | lookup m key => exact (Routine.clean_lookup site m key).atomic.discard
  | slice s spec => exact (Routine.clean_slice site s spec).atomic.discard
  | malloc heap size => exact (Routine.clean_malloc site heap size).atomic.discard
  | calloc heap count size => exact (Routine.clean_calloc site heap count size).atomic.discard
  | realloc heap old size => exact (Routine.clean_realloc site heap old size).atomic.discard
  | copyText text => exact (Routine.clean_copyText site text).atomic.discard
  | copyTerminated text => exact (Routine.clean_copyTerminated site text).atomic.discard
  | copy src => exact (Routine.clean_copy site src).atomic
  | move src dest count => exact (Routine.clean_move site src dest count).atomic
  | fill byte count => exact (Routine.clean_fill site byte count).atomic
  | copyRegion dest src destSize srcSize overlapping =>
      exact (Routine.clean_copyRaw site dest src.isSome destSize srcSize overlapping _).atomic
  | moveRegion src dest count destSize =>
      exact (Routine.clean_copyRaw site true true destSize count true _).atomic
  | fillRegion dest destSize byte count =>
      exact (Routine.clean_fillRegion site dest destSize byte count).atomic
  | scopeAlloc scope size => exact (Routine.atomic_scopeAlloc site scope size).discard
  | scopeAllocZeroed scope count size =>
      exact (Routine.atomic_scopeAllocZeroed site scope count size).discard
  | scopeRegister scope block => exact (Routine.clean_scopeRegister site scope block).atomic
  | openPool capacity => exact (Routine.clean_openPool site capacity).atomic.discard
  | poolAlloc pool size => exact (Routine.atomic_poolAlloc site pool size).discard
  | poolAllocRaw pool size => exact (Routine.atomic_poolAllocRaw site pool size).discard
  | poolBytes pool handle => exact (Routine.clean_poolBytes site pool handle).atomic.discard
  | poolWrite pool handle start bytes =>
      exact (Routine.clean_poolWrite site pool handle start bytes).atomic
  | poolFill pool handle byte => exact (Routine.clean_poolFill site pool handle byte).atomic
  | poolAddress pool handle => exact (Routine.clean_poolAddress site pool handle).atomic.discard

/-- Every request that fails leaves the whole scene as it was, apart from the slot and at most one
warning at level `trace`: the machine, the bytes of the caller, the slot for a resolved slice and
the places for elements. -/
theorem atomic_of_failed (request : Request γ ε κ υ) {scene after : Scene ε} {failure : Failure}
    (failed : request.routine.run scene = .reached (.error failure, after)) :
    scene.Spares after := by
  cases request with
  | call site operation => exact operation.atomic site failed
  | normalizeSlice written length =>
      exact (Routine.clean_normalizeSlice written length).atomic failed
  | writeSlice table container written capacity =>
      exact (Routine.clean_writeSlice table container written capacity).atomic.discard failed
  | register registry resource cleanup name =>
      exact (Routine.clean_register registry resource cleanup name).atomic failed

/-- At level `trace` a scope asks an exhausted heap, and two elements are to go to one place. -/
theorem atomic_of_failed_exhausted :
    let scene : Scene Nat :=
      { machine :=
          { session := { observer := { tracking := .trace } }
            heaps := #[{}, { id := 1, source := .recording (some 0) }]
            scopes := [{ scope := { id := 1 }, heap := 1 }] }
        bytes := [1, 2], elements := some [none] }
    let table : Boundary.SequenceTable (List Nat) Nat :=
      { typeName := none, size := some List.length
        element := some fun container i => container[i]? }
    let written : Boundary.WrittenSlice :=
      { start := 0, stop := 0, step := 0, hasStart := 0, hasStop := 0, hasStep := 0 }
    let exhausted : Request (List Nat) Nat Nat Nat := .call .internal (.scopeAlloc 1 16)
    let narrow : Request (List Nat) Nat Nat Nat :=
      .writeSlice (some table) (some [7, 8]) (some written) 1
    let failure : Failure := .raise .value "slice of 2 elements does not fit in 1" "pyrt_slice"
    (∃ refused after, exhausted.routine.run scene = .reached (.error refused, after) ∧
        refused.kind = .memory ∧ after.machine.observer.log.size = 1 ∧ scene.Spares after) ∧
      narrow.routine.run scene = .reached (.error failure, scene.report failure) ∧
        scene.Spares (scene.report failure) := by
  intro scene table written exhausted narrow failure
  have crowded : narrow.routine.run scene = .reached (.error failure, scene.report failure) := by
    simp +zetaDelta only
    rfl
  refine ⟨⟨_, _, rfl, rfl, rfl, ?_⟩, crowded, atomic_of_failed narrow crowded⟩
  exact atomic_of_failed exhausted rfl

end Failures

end Underlay
