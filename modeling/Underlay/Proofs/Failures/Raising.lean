import Underlay.Proofs.Failures.Operations

/-!
# Routines that report

`Reports` says of a routine that it leaves the slot alone if it succeeds, and that it puts there
what it fails with, once. The law is handed from the steps of a routine to the whole: what one step
has raised no later step can raise again, as a failure ends the routine. Every operation that can
fail gets one lemma, which follows its steps.
-/

namespace Underlay

/-- A failure that was raised in an operation called at a site. -/
structure Failure.RaisedAt (site : Site) (failure : Failure) : Prop where
  genuine : failure.kind ≠ .ok
  located : ∃ function, failure.location = some (site.location function)

namespace Failures

variable {ε κ υ α β : Type}

namespace Routine

/-- What an answer means for the slot. -/
def Told (site : Site) (scene : Scene ε) : Except Failure α × Scene ε → Prop
  | (.ok _, after) => after.slot = scene.slot ∧ after.reported = scene.reported
  | (.error failure, after) =>
      failure.RaisedAt site ∧ after.slot = .ofFailure failure ∧
        after.reported = failure :: scene.reported

/-- The routine puts into the slot what it fails with, once, and nothing else. -/
def Reports (site : Site) (routine : Routine ε α) : Prop :=
  ∀ ⦃scene answer⦄, routine.run scene = .reached answer → Told site scene answer

section Rules

variable {site : Site} {routine other : Routine ε α}

theorem reports_pure (a : α) : (pure a : Routine ε α).Reports site := by
  rintro scene answer ⟨⟩
  exact ⟨rfl, rfl⟩

theorem reports_raise {failure : Failure} (genuine : failure.kind ≠ .ok)
    (located : failure.location.isSome) : (raise site failure : Routine ε α).Reports site := by
  rintro scene answer ⟨⟩
  obtain ⟨place, found⟩ := Option.isSome_iff_exists.mp located
  have raised : (failure.calledAt site).location = some (site.location place.function) := by
    rw [Failure.calledAt, found, Option.map_some]
  exact ⟨⟨genuine, place.function, raised⟩, rfl, rfl⟩

theorem reports_change {write : Scene ε → Scene ε}
    (quiet : ∀ scene, (write scene).slot = scene.slot)
    (apart : ∀ scene, (write scene).reported = scene.reported) :
    (change write).Reports site := by
  rintro scene answer ⟨⟩
  exact ⟨quiet scene, apart scene⟩

theorem reports_changeMachine {write : Machine → Machine}
    (quiet : ∀ machine, (write machine).slot = machine.slot) :
    (changeMachine write : Routine ε Unit).Reports site :=
  reports_change (fun scene => quiet scene.machine) fun _ => rfl

theorem reports_observe (note : Observer → Observer) :
    (observe note : Routine ε Unit).Reports site :=
  reports_changeMachine fun _ => rfl

theorem reports_reserve (bytes : Nat) : (reserve bytes : Routine ε Unit).Reports site := by
  intro scene answer reached
  unfold reserve Machine.reserving System.reserving at reached
  dsimp only at reached
  split at reached
  · obtain rfl := Course.reached.inj reached
    exact ⟨rfl, rfl⟩
  · cases reached

theorem Reports.bind {next : α → Routine ε β} (first : routine.Reports site)
    (later : ∀ a, (next a).Reports site) : (routine >>= next).Reports site := by
  intro scene answer reached
  rw [run_bind] at reached
  cases ran : routine.run scene with
  | aborted => simp [ran] at reached
  | reached step =>
      have told := first ran
      rcases step with ⟨failure | a, middle⟩
      · simp only [ran, Course.reached.injEq] at reached
        obtain rfl := reached
        exact told
      · simp only [ran] at reached
        have told' := later a reached
        obtain ⟨slot, reported⟩ := told
        rcases answer with ⟨failure | b, after⟩
        · obtain ⟨raised, slot', reported'⟩ := told'
          exact ⟨raised, slot', reported ▸ reported'⟩
        · exact ⟨told'.1.trans slot, told'.2.trans reported⟩

theorem Reports.view {read : Scene ε → α} {next : α → Routine ε β}
    (later : ∀ a, (next a).Reports site) : (view read >>= next).Reports site :=
  fun _ _ reached => later _ reached

theorem Reports.discard (reports : routine.Reports site) : (discard routine).Reports site :=
  reports.bind fun _ => reports_pure ()

theorem Reports.ite {condition : Prop} [Decidable condition] (reports : routine.Reports site)
    (reports' : other.Reports site) : (if condition then routine else other).Reports site := by
  split
  · exact reports
  · exact reports'

theorem Reports.onFailure (reports : routine.Reports site) {write : Machine → Machine}
    (quiet : ∀ machine, (write machine).slot = machine.slot) :
    (routine.onFailure write).Reports site := by
  intro scene answer reached
  unfold Routine.onFailure at reached
  dsimp only at reached
  split at reached
  · rename_i failure after ran
    obtain rfl := Course.reached.inj reached
    obtain ⟨raised, slot, reported⟩ := reports ran
    exact ⟨raised, (quiet after.machine).trans slot, reported⟩
  · exact reports reached

end Rules

/-! Every operation reports. -/

section Operations

variable (site : Site)

theorem reports_resolveIndex (index : Int) (length : Nat) :
    (resolveIndex site index length : Routine ε _).Reports site :=
  .ite (reports_pure _) (reports_raise (by simp) rfl)

theorem reports_resolveSlice (spec : SliceSpec) (length : Nat) :
    (resolveSlice site spec length : Routine ε _).Reports site :=
  .ite (reports_raise (by simp) rfl) (reports_pure _)

theorem reports_progression (start stop step : Int) :
    (progression site start stop step : Routine ε _).Reports site :=
  .ite (reports_raise (by simp) rfl) (reports_pure _)

theorem reports_element (s : Sequence ε) (index : Int) : (element site s index).Reports site := by
  refine .bind (reports_resolveIndex site index s.size) fun position => ?_
  cases s.at? position with
  | none => exact reports_raise (by simp [Sequence.emptyAt]) rfl
  | some e => exact reports_pure e

theorem reports_lookup (m : Mapping κ υ) (key : κ) :
    (lookup site m key : Routine ε _).Reports site := by
  unfold lookup
  cases (if m.contains key then m.get? key else none) with
  | none => exact reports_raise (by simp [Mapping.missing]) rfl
  | some value => exact reports_pure value

theorem reports_collect (s : Sequence ε) (cursor : Slice.Cursor) (count : Nat) :
    (collect site s cursor count).Reports site := by
  induction count generalizing cursor with
  | zero => exact reports_pure []
  | succ count inductionHypothesis =>
      unfold collect
      cases cursor.next? with
      | none => exact reports_pure []
      | some next =>
          dsimp only
          cases s.at? next.1 with
          | none => exact reports_raise (by simp [Sequence.emptyAt]) rfl
          | some e => exact .bind (inductionHypothesis next.2) fun rest => reports_pure (e :: rest)

theorem reports_slice (s : Sequence ε) (spec : SliceSpec) : (slice site s spec).Reports site :=
  .bind (reports_resolveSlice site spec s.size) fun resolved =>
    .bind (reports_reserve _) fun _ => reports_collect site s resolved.cursor resolved.length

section Heaps

variable (id : HeapId)

theorem reports_changeHeap (write : Heap → Heap) :
    (changeHeap id write : Routine ε Unit).Reports site :=
  reports_changeMachine fun _ => rfl

theorem reports_takeBudget : (takeBudget id : Routine ε Bool).Reports site := by
  refine .view fun heap => ?_
  split
  · exact reports_pure false
  · exact .bind (reports_changeHeap site id _) fun _ => reports_pure true
  · exact reports_pure true

theorem reports_place (block : Block) : (place id block : Routine ε _).Reports site :=
  .view fun _ => .bind (reports_changeHeap site id _) fun _ => reports_pure _

/-- A heap that is out of memory answers with nothing, which is no failure yet. -/
theorem reports_allocate (size : Nat) (zeroed : Bool) :
    (allocate id size zeroed : Routine ε _).Reports site := by
  refine .view fun heap => ?_
  cases heap.source with
  | system system =>
      exact .ite (.bind (reports_place site id _) fun block => reports_pure (some block))
        (reports_pure none)
  | recording budget =>
      refine .bind (reports_takeBudget site id) fun taken => ?_
      exact .ite
        (.bind (reports_reserve _) fun _ =>
          .bind (reports_place site id _) fun block => reports_pure (some block))
        (reports_pure none)

theorem reports_reallocate (old : Option BlockId) (size : Nat) :
    (reallocate id old size : Routine ε _).Reports site := by
  refine .bind (reports_allocate site id size false) fun granted => ?_
  cases granted with
  | none => exact reports_pure none
  | some granted =>
      cases old with
      | none => exact reports_pure (some granted)
      | some old =>
          exact .bind (reports_changeHeap site id _) fun _ =>
            .bind (reports_changeHeap site id _) fun _ => reports_pure (some granted)

theorem reports_malloc (size : Nat) : (malloc site id size : Routine ε _).Reports site := by
  refine .ite (reports_raise (by simp) rfl) (.bind (reports_allocate site id size false) ?_)
  intro granted
  cases granted with
  | none => exact reports_raise (by simp [Heap.exhausted]) rfl
  | some block => exact .bind (reports_observe _) fun _ => reports_pure block

theorem reports_calloc (count size : Nat) :
    (calloc site id count size : Routine ε _).Reports site := by
  refine .ite (reports_raise (by simp) rfl) ?_
  cases Word.fit? (count * size) with
  | none => exact reports_raise (by simp) rfl
  | some total =>
      refine .bind (reports_allocate site id total true) fun granted => ?_
      cases granted with
      | none => exact reports_raise (by simp [Heap.exhausted]) rfl
      | some block => exact .bind (reports_observe _) fun _ => reports_pure block

theorem reports_realloc (old : Option BlockId) (size : Nat) :
    (realloc site id old size : Routine ε _).Reports site := by
  unfold realloc
  split
  · cases old with
    | none => exact reports_pure none
    | some block =>
        exact .bind (reports_changeHeap site id _) fun _ =>
          .bind (reports_observe _) fun _ => reports_pure none
  · refine .bind (reports_reallocate site id old size) fun granted => ?_
    cases granted with
    | none => exact reports_raise (by simp [Heap.exhausted]) rfl
    | some block =>
        exact .ite (.bind (reports_observe _) fun _ => reports_pure (some block))
          (reports_pure (some block))

theorem reports_duplicate (bytes : Array UInt8) :
    (duplicate site id bytes : Routine ε _).Reports site :=
  .bind (reports_malloc site id bytes.size) fun block =>
    .bind (reports_changeHeap site id _) fun _ => reports_pure block

end Heaps

theorem reports_copyText (text : List UInt8) : (copyText site text : Routine ε _).Reports site :=
  reports_duplicate site Machine.systemHeap _

theorem reports_copyTerminated (text : Option (List UInt8)) :
    (copyTerminated site text : Routine ε _).Reports site := by
  cases text with
  | none => exact reports_raise (by simp) rfl
  | some bytes => exact reports_duplicate site Machine.systemHeap _

section Copies

theorem reports_write (written : List UInt8 → List UInt8) :
    (write written : Routine ε Unit).Reports site :=
  reports_change (fun _ => rfl) fun _ => rfl

theorem reports_copy (src : List UInt8) : (copy site src : Routine ε _).Reports site :=
  .view fun _ => .ite (reports_raise (by simp [Bounded.overrun]) rfl) (reports_write site _)

theorem reports_move (src dest count : Nat) :
    (move site src dest count : Routine ε _).Reports site :=
  .view fun _ => .ite (reports_write site _) (reports_raise (by simp [Bounded.overrun]) rfl)

theorem reports_fill (byte : UInt8) (count : Nat) :
    (fill site byte count : Routine ε _).Reports site :=
  .view fun _ => .ite (reports_raise (by simp [Bounded.overrun]) rfl) (reports_write site _)

theorem reports_copyRaw (dest src : Bool) (destSize srcSize : Nat) (overlapping : Bool)
    (copied : List UInt8 → List UInt8) :
    (copyRaw site dest src destSize srcSize overlapping copied : Routine ε _).Reports site :=
  .ite (reports_raise (by simp) rfl)
    (.ite (reports_raise (by simp [Bounded.overrun]) rfl) (reports_write site copied))

theorem reports_fillRegion (dest : Bool) (destSize : Nat) (byte : UInt8) (count : Nat) :
    (fillRegion site dest destSize byte count : Routine ε _).Reports site :=
  .ite (reports_raise (by simp) rfl)
    (.ite (reports_raise (by simp [Bounded.overrun]) rfl) (reports_write site _))

end Copies

section Scopes

variable (id : Nat)

theorem reports_push (name : String) (block : BlockId) (size : Option Nat) :
    (push id name block size : Routine ε _).Reports site := by
  refine .bind (reports_changeMachine fun machine => ?_) fun _ => .view fun found => ?_
  · cases machine.scope? id <;> rfl
  · cases found with
    | none => exact reports_pure ()
    | some s => exact reports_observe _

/-- The warning of a request that fails comes after its report, and leaves the slot alone. -/
theorem reports_own (name : String) (warned size : Nat) {request : HeapId → Routine ε BlockId}
    (reports : ∀ heap, (request heap).Reports site) :
    (own id name warned size request).Reports site := by
  refine .view fun found => ?_
  cases found with
  | none => exact reports_pure default
  | some s =>
      exact .bind ((reports s.heap).onFailure fun _ => rfl) fun block =>
        .bind (reports_push site id name block _) fun _ => reports_pure block

theorem reports_scopeAlloc (size : Nat) : (scopeAlloc site id size : Routine ε _).Reports site :=
  reports_own site id _ _ _ fun heap => reports_malloc site heap size

theorem reports_scopeAllocZeroed (count size : Nat) :
    (scopeAllocZeroed site id count size : Routine ε _).Reports site :=
  reports_own site id _ _ _ fun heap => reports_calloc site heap count size

theorem reports_scopeRegister (block : Option BlockId) :
    (scopeRegister site id block : Routine ε _).Reports site := by
  refine .view fun found => ?_
  cases found with
  | none => exact reports_pure ()
  | some s =>
      cases block with
      | none => exact reports_raise (by simp) rfl
      | some block => exact reports_push site id _ block none

end Scopes

section Pools

theorem reports_layout (capacity : Nat) : (layout site capacity : Routine ε _).Reports site :=
  .ite (reports_pure ()) (reports_raise (by simp) rfl)

theorem reports_takeNumber : (takeNumber : Routine ε Nat).Reports site :=
  .bind (reports_changeMachine fun _ => rfl) fun _ => .view fun number => reports_pure number

theorem reports_openPool (asked : Option Nat) :
    (openPool site asked : Routine ε _).Reports site := by
  refine .view fun session => .bind (reports_layout site _) fun _ => ?_
  exact .ite
    (.bind (reports_observe _) fun _ => .bind (reports_takeNumber site) fun number =>
      .bind (reports_observe _) fun _ => .bind (reports_changeMachine fun _ => rfl) fun _ =>
        reports_pure number)
    (reports_raise (by simp) rfl)

variable (id : Nat)

theorem reports_changePool (write : Pool → Pool) :
    (changePool id write : Routine ε _).Reports site := by
  refine reports_changeMachine fun machine => ?_
  cases machine.pool? id <;> rfl

theorem reports_grow (needed : Nat) : (grow site id needed : Routine ε _).Reports site := by
  refine .view fun p => ?_
  cases Pool.enlarge p.capacity needed with
  | none => exact reports_raise (by simp) rfl
  | some capacity =>
      refine .bind (reports_layout site capacity) fun _ => .view fun system => ?_
      exact .ite
        (.bind (reports_changePool site id _) fun _ => .bind (reports_observe _) fun _ =>
          .bind (reports_observe _) fun _ => .bind (reports_changePool site id _) fun _ =>
            reports_changePool site id _)
        (.bind (reports_observe _) fun _ => reports_raise (by simp) rfl)

theorem reports_carve (needed : Nat) : (carve id needed : Routine ε _).Reports site :=
  .view fun p => .bind (reports_changePool site id _) fun _ =>
    .bind (reports_changePool site id _) fun _ => reports_pure p.used

theorem reports_bump (size : Nat) : (bump site id size : Routine ε _).Reports site := by
  refine .view fun p => ?_
  cases p.demand? size with
  | none => exact reports_raise (by simp) rfl
  | some needed =>
      exact .ite (.bind (reports_grow site id needed) fun _ => reports_carve site id needed)
        (reports_carve site id needed)

theorem reports_onPool {absent : α} {routine : Routine ε α} (reports : routine.Reports site) :
    (onPool id absent routine).Reports site := by
  refine .view fun found => ?_
  cases found with
  | none => exact reports_pure absent
  | some p => exact reports

theorem reports_poolAlloc (size : Nat) : (poolAlloc site id size : Routine ε _).Reports site :=
  reports_onPool site id
    (.bind (reports_bump site id size) fun _ => .view fun _ => reports_pure _)

theorem reports_poolAllocRaw (size : Nat) :
    (poolAllocRaw site id size : Routine ε _).Reports site :=
  reports_onPool site id (reports_bump site id size)

theorem reports_check (handle : Handle) : (check site id handle : Routine ε _).Reports site := by
  refine .view fun p => ?_
  cases p.objection? handle with
  | none => exact reports_pure ()
  | some message => exact reports_raise (by simp) rfl

theorem reports_poolBytes (handle : Handle) :
    (poolBytes site id handle : Routine ε _).Reports site :=
  reports_onPool site id
    (.bind (reports_check site id handle) fun _ => .view fun _ => reports_pure _)

theorem reports_poolWrite (handle : Handle) (start : Nat) (bytes : List UInt8) :
    (poolWrite site id handle start bytes : Routine ε _).Reports site :=
  reports_onPool site id
    (.bind (reports_check site id handle) fun _ => reports_changePool site id _)

theorem reports_poolFill (handle : Handle) (byte : UInt8) :
    (poolFill site id handle byte : Routine ε _).Reports site :=
  reports_onPool site id
    (.bind (reports_check site id handle) fun _ => reports_changePool site id _)

theorem reports_poolAddress (handle : Handle) :
    (poolAddress site id handle : Routine ε _).Reports site :=
  reports_onPool site id (.bind (reports_check site id handle) fun _ => reports_pure _)

end Pools

end Operations

end Routine

end Failures

end Underlay
