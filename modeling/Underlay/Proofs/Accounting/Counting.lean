import Mathlib.Algebra.Ring.Nat
import Mathlib.Data.List.Basic
import Underlay.Memory.Pool
import Underlay.Memory.Scope

/-!
# What observers are told of memory

`Counted` reads the counters as two totals: the bytes obtained and the bytes given back. Totals
below the word do not wrap, and as long as no more is given back than was obtained the bytes
outstanding do not stop at zero. `Tells` says by how much an operation moves the two totals, with
these two provisos; every operation on scopes and pools gets one lemma.
-/

namespace Underlay

namespace Observer

/-- The observer counts, and it has counted so many bytes each way. -/
structure Counted (o : Observer) (obtained returned : Nat) : Prop where
  counts : o.tracking.counts = true
  allocated : o.counters.totalAllocated = obtained
  freed : o.counters.totalFreed = returned
  current : o.counters.current + returned = obtained

/-- Between two observers `gained` bytes were obtained and `lost` bytes were given back. -/
def Tells (o o' : Observer) (gained lost : Nat) : Prop :=
  ∀ obtained returned, o.Counted obtained returned → obtained + gained < Word.limit →
    returned + lost ≤ obtained → o'.Counted (obtained + gained) (returned + lost)

variable {o o' o'' : Observer}

theorem tells_self (o : Observer) : o.Tells o 0 0 :=
  fun _ _ counted _ _ => counted

theorem Tells.trans {gained lost gained' lost' : Nat} (first : o.Tells o' gained lost)
    (second : o'.Tells o'' gained' lost') : o.Tells o'' (gained + gained') (lost + lost') := by
  intro obtained returned counted room enough
  have between := first obtained returned counted (by omega) (by omega)
  simpa only [Nat.add_assoc] using second _ _ between (by omega) (by omega)

/-- Records do not count. -/
theorem tells_emit (o : Observer) (event : Lifecycle.Event) : o.Tells (o.emit event) 0 0 := by
  intro obtained returned counted room enough
  unfold emit
  split
  · exact ⟨counted.counts, counted.allocated, counted.freed, counted.current⟩
  · exact counted

theorem tells_noteAlloc (o : Observer) (size : Nat) : o.Tells (o.noteAlloc size) size 0 := by
  intro obtained returned counted room enough
  have current := counted.current
  rw [noteAlloc, if_pos counted.counts]
  refine ⟨counted.counts, ?_, counted.freed, ?_⟩
  · change Word.wrap (o.counters.totalAllocated + size) = obtained + size
    rw [counted.allocated]
    exact Nat.mod_eq_of_lt room
  · change Word.wrap (o.counters.current + size) + returned = obtained + size
    rw [Word.wrap, Nat.mod_eq_of_lt (by omega)]
    omega

theorem tells_noteFree (o : Observer) (size : Option Nat) :
    o.Tells (o.noteFree size) 0 (size.getD 0) := by
  intro obtained returned counted room enough
  have current := counted.current
  rw [noteFree, if_pos counted.counts]
  cases size with
  | none => exact ⟨counted.counts, counted.allocated, counted.freed, counted.current⟩
  | some size =>
      simp only [Option.getD_some] at enough ⊢
      refine ⟨counted.counts, counted.allocated, ?_, ?_⟩
      · change Word.wrap (o.counters.totalFreed + size) = returned + size
        rw [counted.freed]
        exact Nat.mod_eq_of_lt (by omega)
      · change o.counters.current - size + (returned + size) = obtained + 0
        omega

end Observer

namespace Heap

variable {h h' : Heap} {size count : Nat} {o o' : Observer} {block : BlockId}

theorem observer_of_malloc (done : h.malloc size o = .ok (block, h', o')) :
    0 < size ∧ o' = o.noteAlloc size := by
  unfold malloc at done
  split at done
  · cases done
  · rename_i nonempty
    cases granted : h.allocate size with
    | none => simp [granted] at done
    | some answer =>
        simp only [granted, Except.ok.injEq, Prod.mk.injEq] at done
        exact ⟨Nat.pos_of_ne_zero nonempty, done.2.2.symm⟩

theorem observer_of_calloc (done : h.calloc count size o = .ok (block, h', o')) :
    0 < count * size ∧ o' = o.noteAlloc (count * size) := by
  unfold calloc at done
  split at done
  · cases done
  · rename_i nonempty
    have positive : 0 < count * size := by
      rw [Nat.mul_pos_iff_of_pos_left] <;> omega
    cases fitting : Word.fit? (count * size) with
    | none => simp [fitting] at done
    | some product =>
        obtain ⟨rfl, -⟩ := Word.fit?_eq_some.mp fitting
        cases granted : h.allocateZeroed (count * size) with
        | none => simp [fitting, granted] at done
        | some answer =>
            simp only [fitting, granted, Except.ok.injEq, Prod.mk.injEq] at done
            exact ⟨positive, done.2.2.symm⟩

end Heap

namespace Scope

/-- The bytes of the blocks that a scope allocated. Adopted blocks have no known size. -/
def bytes (s : Scope) : Nat :=
  (s.owned.map fun r => r.size.getD 0).sum

/-- A call on a scope fails and tells of no memory, or it registers a block and tells of its
size, which is not zero. -/
inductive Registers {α : Type} (s : Scope) (o : Observer) (size : Option Nat) :
    Except Failure (α × Scope × Heap) × Observer → Prop where
  | failed (failure : Failure) {o' : Observer} (tells : o.Tells o' 0 0) :
      Registers s o size (.error failure, o')
  | registered (answer : α) (block : BlockId) (h : Heap) {o' : Observer}
      (nonempty : size ≠ some 0) (tells : o.Tells o' (size.getD 0) 0) :
      Registers s o size (.ok (answer, { s with owned := { block, size } :: s.owned }, h), o')

theorem registers_alloc (s : Scope) (h : Heap) (size : Nat) (o : Observer) :
    s.Registers o (some size) (s.alloc h size o) := by
  unfold alloc
  split
  · exact .failed _ (o.tells_emit _)
  · rename_i block h' o' result
    obtain ⟨positive, rfl⟩ := Heap.observer_of_malloc result
    refine .registered block block h' ?_ ((o.tells_noteAlloc size).trans (Observer.tells_emit _ _))
    simpa using Nat.ne_of_gt positive

theorem registers_allocZeroed (s : Scope) (h : Heap) (count size : Nat) (o : Observer) :
    s.Registers o (some (count * size)) (s.allocZeroed h count size o) := by
  unfold allocZeroed
  split
  · exact .failed _ (o.tells_emit _)
  · rename_i block h' o' result
    obtain ⟨positive, rfl⟩ := Heap.observer_of_calloc result
    refine .registered block block h' ?_
      ((o.tells_noteAlloc (count * size)).trans (Observer.tells_emit _ _))
    simpa using Nat.ne_of_gt positive

theorem registers_register (s : Scope) (h : Heap) (block : Option BlockId) (o : Observer) :
    s.Registers o none
      ((s.register block o).1.map fun s => ((), s, h), (s.register block o).2) := by
  cases block with
  | none => exact .failed _ o.tells_self
  | some block => exact .registered () block h (by simp) (o.tells_emit _)

theorem tells_releaseAll (registrations : List Registration) (h : Heap) (o : Observer) :
    o.Tells (releaseAll registrations h o).2 0 (registrations.map fun r => r.size.getD 0).sum := by
  induction registrations generalizing h o with
  | nil => exact o.tells_self
  | cons r rest inductionHypothesis =>
      have later := inductionHypothesis (h.release r.block) (o.noteFree r.size)
      simpa [releaseAll] using (o.tells_noteFree r.size).trans later

/-- Closing a scope gives back what it allocated. -/
theorem tells_close (s : Scope) (h : Heap) (o : Observer) : o.Tells (s.close h o).2 0 s.bytes :=
  (tells_releaseAll s.owned h o).trans (Observer.tells_emit _ _)

end Scope

namespace Pool

variable {p p' : Pool} {system : System} {id capacity needed size : Nat} {o o' : Observer}
  {handle : Handle} {failure : Failure}

theorem tells_make_ok (done : make system id capacity o = (.ok p, o')) : o.Tells o' capacity 0 := by
  unfold make at done
  split at done
  · cases done
  · obtain ⟨-, rfl⟩ := Prod.mk.inj done
    exact (o.tells_noteAlloc capacity).trans (Observer.tells_emit _ _)

theorem tells_make_error (failed : make system id capacity o = (.error failure, o')) :
    o.Tells o' 0 0 := by
  unfold make at failed
  split at failed
  · obtain ⟨-, rfl⟩ := Prod.mk.inj failed
    exact o.tells_self
  · cases failed

theorem tells_grow_ok (done : p.grow system needed o = (.ok p', o')) :
    o.Tells o' (p'.capacity - p.capacity) 0 := by
  obtain ⟨capacity, event, -, rfl, rfl⟩ := grow_ok_cases done
  exact (o.tells_noteAlloc _).trans (Observer.tells_emit _ _)

theorem tells_grow_error (failed : p.grow system needed o = (.error failure, o')) :
    o.Tells o' 0 0 := by
  unfold grow at failed
  split at failed
  · obtain ⟨-, rfl⟩ := Prod.mk.inj failed
    exact o.tells_self
  · split at failed
    · obtain ⟨-, rfl⟩ := Prod.mk.inj failed
      exact o.tells_self
    · split at failed
      · cases failed
      · obtain ⟨-, rfl⟩ := Prod.mk.inj failed
        exact o.tells_emit _

/-- Carving a block tells of what the buffer grew by. -/
theorem tells_alloc_ok (done : p.alloc system size o = (.ok (handle, p'), o')) :
    o.Tells o' (p'.capacity - p.capacity) 0 := by
  obtain ⟨-, -, room, rfl, ⟨-, rfl, rfl⟩ | ⟨-, grows⟩⟩ := alloc_ok_cases done
  · simpa using o'.tells_self
  · have told := tells_grow_ok grows
    exact told

theorem tells_alloc_error (failed : p.alloc system size o = (.error failure, o')) :
    o.Tells o' 0 0 := by
  unfold alloc at failed
  split at failed
  · obtain ⟨-, rfl⟩ := Prod.mk.inj failed
    exact o.tells_self
  · rename_i needed demanded
    by_cases short : p.capacity < needed
    · rcases room : p.grow system needed o with ⟨failure | grown, o''⟩
      · simp only [short, room, if_true, Prod.mk.injEq] at failed
        obtain ⟨-, rfl⟩ := failed
        exact tells_grow_error room
      · simp [short, room, Except.map] at failed
    · simp [short, Except.map] at failed

theorem tells_close (p : Pool) (o : Observer) : o.Tells (p.close o) 0 p.capacity := by
  unfold close
  simpa using (o.tells_emit _).trans (Observer.tells_noteFree _ (some p.capacity))

end Pool

end Underlay
