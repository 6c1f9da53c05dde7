import Underlay.Proofs.Accounting.Counting
import Underlay.Shared
import Underlay.Registry

/-!
# What is recorded

At the level that logs, an operation leaves records. `Records` says which ones it leaves behind
those that were made before. Every operation on scopes, pools, objects and registries gets one
lemma; giving up a holder and taking an entry out of a registry are looked at one by one, as a
callback may be run behind each of them.
-/

namespace Underlay

namespace Observer

/-- Between two observers at the level that logs these events were recorded, in that order. -/
def Records (o o' : Observer) (events : List Lifecycle.Event) : Prop :=
  o.tracking = .trace → o'.tracking = .trace ∧ o'.log = events.foldl Lifecycle.Log.record o.log

variable {o o' o'' : Observer} {events more : List Lifecycle.Event}

theorem records_self (o : Observer) : o.Records o [] :=
  fun traces => ⟨traces, rfl⟩

theorem Records.trans (first : o.Records o' events) (second : o'.Records o'' more) :
    o.Records o'' (events ++ more) := by
  intro traces
  obtain ⟨between, log⟩ := first traces
  obtain ⟨after, later⟩ := second between
  rw [log, ← List.foldl_append] at later
  exact ⟨after, later⟩

theorem records_emit (o : Observer) (event : Lifecycle.Event) :
    o.Records (o.emit event) [event] := by
  intro traces
  rw [emit, traces]
  exact ⟨rfl, rfl⟩

theorem records_noteAlloc (o : Observer) (size : Nat) : o.Records (o.noteAlloc size) [] := by
  intro traces
  unfold noteAlloc
  split <;> exact ⟨traces, rfl⟩

theorem records_noteFree (o : Observer) (size : Option Nat) : o.Records (o.noteFree size) [] := by
  intro traces
  unfold noteFree
  split <;> exact ⟨traces, rfl⟩

end Observer

namespace Scope

/-- The record of a call that registers a block. -/
def registration (s : Scope) (call : String) (block : BlockId) (size : Option Nat) :
    Lifecycle.Event :=
  { s.event call (" live=" ++ toString (s.owned.length + 1)) with
    subject := some block.number, size }

/-- The record of a call that fails. -/
def refusal (s : Scope) (call : String) (size : Nat) : Lifecycle.Event :=
  { s.event call with level := .warn, size := some size, outcome := "failed" }

def closing (s : Scope) : Lifecycle.Event :=
  s.event "close" (" released=" ++ toString s.owned.length)

/-- A call that allocates records that it failed, or it registers the block and records that. -/
inductive Noted (s : Scope) (o : Observer) (call : String) (asked : Nat) :
    Except Failure (BlockId × Scope × Heap) × Observer → Prop where
  | refused (failure : Failure) {o' : Observer}
      (records : o.Records o' [s.refusal call asked]) :
      Noted s o call asked (.error failure, o')
  | registered (block : BlockId) (size : Option Nat) (h : Heap) {o' : Observer}
      (records : o.Records o' [s.registration call block size]) :
      Noted s o call asked (.ok (block, { s with owned := { block, size } :: s.owned }, h), o')

theorem noted_alloc (s : Scope) (h : Heap) (size : Nat) (o : Observer) :
    s.Noted o "alloc" size (s.alloc h size o) := by
  unfold alloc
  split
  · exact .refused _ (o.records_emit _)
  · rename_i block h' o' result
    obtain ⟨-, rfl⟩ := Heap.observer_of_malloc result
    exact .registered block (some size) h'
      ((o.records_noteAlloc size).trans (Observer.records_emit _ _))

theorem noted_allocZeroed (s : Scope) (h : Heap) (count size : Nat) (o : Observer) :
    s.Noted o "alloc_zeroed" (Word.saturateSize (count * size)) (s.allocZeroed h count size o) := by
  unfold allocZeroed
  split
  · exact .refused _ (o.records_emit _)
  · rename_i block h' o' result
    obtain ⟨-, rfl⟩ := Heap.observer_of_calloc result
    exact .registered block (some (count * size)) h'
      ((o.records_noteAlloc (count * size)).trans (Observer.records_emit _ _))

theorem records_releaseAll (registrations : List Registration) (h : Heap) (o : Observer) :
    o.Records (releaseAll registrations h o).2 [] := by
  induction registrations generalizing h o with
  | nil => exact o.records_self
  | cons r rest inductionHypothesis =>
      exact (o.records_noteFree r.size).trans (inductionHypothesis (h.release r.block) _)

theorem records_close (s : Scope) (h : Heap) (o : Observer) :
    o.Records (s.close h o).2 [s.closing] :=
  (records_releaseAll s.owned h o).trans (Observer.records_emit _ _)

end Scope

namespace Pool

variable {o o' : Observer}

/-- Only records of pools are made. -/
def Noted (o o' : Observer) : Prop :=
  ∃ events, o.Records o' events ∧ ∀ event ∈ events, event.component = "pool"

theorem noted_self (o : Observer) : Noted o o :=
  ⟨[], o.records_self, nofun⟩

theorem noted_emit (o : Observer) (event : Lifecycle.Event) (ours : event.component = "pool") :
    Noted o (o.emit event) :=
  ⟨[event], o.records_emit event, List.forall_mem_singleton.mpr ours⟩

theorem Noted.trans {o'' : Observer} (first : Noted o o') (second : Noted o' o'') :
    Noted o o'' := by
  obtain ⟨events, records, ours⟩ := first
  obtain ⟨more, later, oursLater⟩ := second
  refine ⟨events ++ more, records.trans later, fun event listed => ?_⟩
  exact (List.mem_append.mp listed).elim (ours event) (oursLater event)

theorem noted_noteAlloc (o : Observer) (size : Nat) : Noted o (o.noteAlloc size) :=
  ⟨[], o.records_noteAlloc size, nofun⟩

theorem noted_noteFree (o : Observer) (size : Option Nat) : Noted o (o.noteFree size) :=
  ⟨[], o.records_noteFree size, nofun⟩

theorem noted_make (system : System) (id capacity : Nat) (o : Observer) :
    Noted o (make system id capacity o).2 := by
  unfold make
  split
  · exact noted_self o
  · exact (noted_noteAlloc o capacity).trans (noted_emit _ _ rfl)

theorem noted_grow (p : Pool) (system : System) (needed : Nat) (o : Observer) :
    Noted o (p.grow system needed o).2 := by
  unfold grow
  split
  · exact noted_self o
  · split
    · exact noted_self o
    · split
      · exact (noted_noteAlloc o _).trans (noted_emit _ _ rfl)
      · exact noted_emit _ _ rfl

theorem noted_alloc (p : Pool) (system : System) (size : Nat) (o : Observer) :
    Noted o (p.alloc system size o).2 := by
  unfold alloc
  split
  · exact noted_self o
  · rename_i needed _
    by_cases short : p.capacity < needed
    · simp only [if_pos short]
      exact noted_grow p system needed o
    · simp only [if_neg short]
      exact noted_self o

theorem noted_close (p : Pool) (o : Observer) : Noted o (p.close o) :=
  (noted_emit o _ rfl).trans (noted_noteFree _ _)

end Pool

namespace Objects

variable {π : Type}

theorem records_retain {s : Objects π} {id : ObjectId} {object : Object π}
    (present : s.get? id = some object) (o : Observer) :
    o.Records (s.retain id o).2
      [event "retain" id ("count=" ++ toString (object.count + 1))] := by
  simp only [retain, present]
  exact o.records_emit _

end Objects

namespace Registry

/-- The record of a new entry. -/
def entering (r : Registry) (entry : Entry) : Lifecycle.Event :=
  { component := "registry", name := "register",
    details := entry.label ++ " live=" ++ toString (r.pending.length + 1) }

theorem records_register (r : Registry) (entry : Entry) (o : Observer) :
    o.Records (r.register entry o).2 [r.entering entry] :=
  o.records_emit _

/-- The record of an entry that is about to be run. -/
def Entry.announcement (entry : Entry) : Lifecycle.Event :=
  { component := "registry", name := "cleanup", details := entry.label }

end Registry

end Underlay
