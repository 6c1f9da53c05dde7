import Underlay.Proofs.Accounting.Counting
import Underlay.Proofs.Leaks.Run

/-!
# What the bytes outstanding tell of leaks

Releasing a block tells no size, so nothing is ever taken off the bytes outstanding: they are the
bytes of all blocks that a run obtained, modulo the word. A block that is still there is told by
this, but one that is gone is told just as well.
-/

namespace Underlay

namespace Heap

variable {h h' : Heap} {size : Nat} {old block : Option BlockId} {o o' : Observer}

theorem observer_of_duplicateTerminated {text : Option (List UInt8)} {block : BlockId}
    (done : h.duplicateTerminated (text.map List.toArray) o = .ok (block, h', o')) :
    o' = o.noteAlloc ((Text.terminated (text.getD [])).length + 1) := by
  cases text with
  | none => cases done
  | some bytes =>
      have size : ((bytes.toArray.takeWhile (· != 0)).push 0).size =
          (Text.terminated bytes).length + 1 := by
        rw [Array.size_push, List.takeWhile_toArray, List.size_toArray, Text.terminated]
      simp only [duplicateTerminated, duplicateText, duplicate, Option.map_some, size] at done
      cases granted : h.malloc ((Text.terminated bytes).length + 1) o with
      | error failure => simp [granted, Except.map] at done
      | ok answer =>
          simp only [granted, Except.map, Except.ok.injEq, Prod.mk.injEq] at done
          obtain ⟨-, -, rfl⟩ := done
          exact (observer_of_malloc granted).2

/-- Without a block, resizing asks for one. -/
theorem observer_of_realloc_none (done : h.realloc none size o = .ok (block, h', o')) :
    (0 < size ∧ block.isSome ∧ o' = o.noteAlloc size) ∨ (block = none ∧ o' = o) := by
  unfold realloc at done
  split at done
  · cases done
    exact .inr ⟨rfl, rfl⟩
  · rename_i nonempty
    cases granted : h.reallocate none size with
    | none => simp [granted] at done
    | some answer =>
        simp only [granted, Except.ok.injEq, Prod.mk.injEq] at done
        obtain ⟨rfl, -, rfl⟩ := done
        exact .inl ⟨Nat.pos_of_ne_zero nonempty, rfl, rfl⟩

/-- With a block, resizing tells of no bytes. -/
theorem observer_of_realloc_some {id : BlockId}
    (done : h.realloc (some id) size o = .ok (block, h', o')) :
    o' = o ∨ o' = o.noteFree none := by
  unfold realloc at done
  split at done
  · cases done
    exact .inr rfl
  · cases granted : h.reallocate (some id) size with
    | none => simp [granted] at done
    | some answer =>
        simp only [granted, Except.ok.injEq, Prod.mk.injEq] at done
        exact .inl done.2.2.symm

end Heap

namespace Leaks

open Machine (systemHeap)

/-- The observer still counts if it did, and no bytes outstanding came or went. -/
structure Silent (o o' : Observer) : Prop where
  counts : o.tracking.counts = true → o'.tracking.counts = true
  current : o'.counters.current = o.counters.current

theorem silent_self (o : Observer) : Silent o o :=
  ⟨id, rfl⟩

theorem silent_noteFree (o : Observer) : Silent o (o.noteFree none) := by
  unfold Observer.noteFree
  split <;> exact ⟨id, rfl⟩

theorem silent_track (level : Int) (machine : Machine) :
    Silent machine.observer (track level machine).observer := by
  unfold track
  split
  · rename_i positive
    exact ⟨fun _ => Tracking.counts_ofNumber positive, rfl⟩
  · exact silent_self _

inductive Step (machine : Machine) : Event → Machine → Prop where
  | obtained (block : BlockId) {bytes : Nat} (positive : 0 < bytes) {machine' : Machine}
      (told : machine'.observer = machine.observer.noteAlloc bytes) :
      Step machine (.obtained block bytes) machine'
  | resized (old new : BlockId) {machine' : Machine}
      (silent : Silent machine.observer machine'.observer) : Step machine (.resized old new) machine'
  | released (block : BlockId) {machine' : Machine}
      (silent : Silent machine.observer machine'.observer) : Step machine (.released block) machine'
  | idle {machine' : Machine} (silent : Silent machine.observer machine'.observer) :
      Step machine .idle machine'

section Calls

variable {machine machine' : Machine} {bytes size : Nat}

theorem step_grant (act : Heap → Observer → Except Failure (BlockId × Heap × Observer))
    (tells : ∀ block heap o, act (machine.heap systemHeap) machine.observer = .ok (block, heap, o) →
      0 < bytes ∧ o = machine.observer.noteAlloc bytes) :
    let asked := machine.onHeap systemHeap act
    let call := grant bytes (asked.1.toOption, asked.2)
    Step machine call.1 call.2 := by
  intro asked call
  rcases machine.onHeap_cases systemHeap act with
    ⟨failure, answered⟩ | ⟨block, heap, o, done, answered⟩
  · simp only [call, asked, answered]
    exact .idle (silent_self _)
  · obtain ⟨positive, rfl⟩ := tells block heap o done
    simp only [call, asked, answered]
    exact .obtained block positive rfl

theorem step_realloc_none :
    let call := grant size (Boundary.realloc none size machine)
    Step machine call.1 call.2 := by
  intro call
  rcases machine.onHeap_cases systemHeap fun heap o => heap.realloc none size o with
    ⟨failure, answered⟩ | ⟨block, heap, o, done, answered⟩
  · simp only [call, Boundary.realloc, Machine.realloc, answered]
    exact .idle (silent_self _)
  · simp only [call, Boundary.realloc, Machine.realloc, answered]
    rcases Heap.observer_of_realloc_none done with ⟨positive, granted, rfl⟩ | ⟨rfl, rfl⟩
    · obtain ⟨block, rfl⟩ := Option.isSome_iff_exists.mp granted
      exact .obtained block positive rfl
    · exact .idle (silent_self _)

theorem step_resize (old : BlockId) (granted : Option BlockId)
    (silent : Silent machine.observer machine'.observer) :
    let call := resize old size (granted, machine')
    Step machine call.1 call.2 := by
  cases granted with
  | some new => exact .resized old new silent
  | none =>
      by_cases empty : size = 0
      · simp only [resize, if_pos empty]
        exact .released old silent
      · simp only [resize, if_neg empty]
        exact .idle silent

theorem step_realloc_some (old : BlockId) :
    let call := resize old size (Boundary.realloc (some old) size machine)
    Step machine call.1 call.2 := by
  intro call
  rcases machine.onHeap_cases systemHeap fun heap o => heap.realloc (some old) size o with
    ⟨failure, answered⟩ | ⟨granted, heap, o, done, answered⟩
  · simp only [call, Boundary.realloc, Machine.realloc, answered]
    exact step_resize old none (silent_self _)
  · simp only [call, Boundary.realloc, Machine.realloc, answered]
    apply step_resize old granted
    rcases Heap.observer_of_realloc_some done with rfl | rfl
    · exact silent_self _
    · exact silent_noteFree _

theorem step_onHeld {run : Run Machine Event} {block : BlockId} {call : Event × Machine}
    (held : Step run.state call.1 call.2) :
    Step run.state (onHeld run block call).1 (onHeld run block call).2 := by
  unfold onHeld
  split
  · exact .idle (silent_self _)
  · exact held

end Calls

theorem step_perform (run : Run Machine Event) (command : Command) :
    Step run.state (perform run command).1 (perform run command).2 := by
  cases command with
  | malloc size => exact step_grant (fun heap o => heap.malloc size o) fun _ _ _ done =>
      Heap.observer_of_malloc done
  | calloc count size => exact step_grant (fun heap o => heap.calloc count size o) fun _ _ _ done =>
      Heap.observer_of_calloc done
  | copyText text =>
      exact step_grant (fun heap o => heap.duplicateTerminated (text.map List.toArray) o)
        fun _ _ _ done => ⟨Nat.succ_pos _, Heap.observer_of_duplicateTerminated done⟩
  | realloc block size =>
      cases block with
      | none => exact step_realloc_none
      | some old => exact step_onHeld (step_realloc_some old)
  | free block =>
      cases block with
      | none => exact .idle (silent_self _)
      | some block => exact step_onHeld (.released block (silent_noteFree _))
  | track level => exact .idle (silent_track level run.state)
  | setSource source => exact .idle (silent_self _)

/-- The observer counts, and what it counts as outstanding are the bytes obtained. -/
structure Tracks (run : Run Machine Event) : Prop where
  counts : run.state.observer.tracking.counts = true
  current : run.state.observer.counters.current = Word.wrap (obtainedBytes run.history)
  nonempty : obtainedBytes run.history = 0 ↔ obtained run.history = []

theorem Tracks.step {machine machine' : Machine} {history : List Event} {event : Event}
    (tracks : Tracks { state := machine, history }) (taken : Step machine event machine') :
    Tracks { state := machine', history := event :: history } := by
  have counts : machine.observer.tracking.counts = true := tracks.counts
  have current : machine.observer.counters.current = Word.wrap (obtainedBytes history) :=
    tracks.current
  cases taken with
  | obtained block positive told =>
      rw [Observer.noteAlloc, if_pos counts] at told
      refine ⟨?_, ?_, ?_⟩
      · simpa only [told] using counts
      · simp only [told, Counters.onAlloc, current, obtainedBytes]
        exact Nat.mod_add_mod _ _ _
      · simpa [obtained, obtainedBytes] using fun _ => Nat.ne_of_gt positive
  | resized _ _ silent | released _ silent | idle silent =>
      exact ⟨silent.counts counts, silent.current.trans current, tracks.nonempty⟩

theorem obtained_ne_nil_of_live {history : List Event} (present : live history ≠ []) :
    obtained history ≠ [] := by
  induction history with
  | nil => exact present
  | cons event past inductionHypothesis =>
      cases event with
      | obtained block bytes => exact List.cons_ne_nil _ _
      | resized old new =>
          apply inductionHypothesis
          intro nothing
          simp [live, nothing] at present
      | released block =>
          apply inductionHypothesis
          intro nothing
          simp [live, nothing] at present
      | idle => exact inductionHypothesis present

/-- In every run whose counters start from zero, memory is said to leak unless the blocks that the
run obtained, released or not, are of a total size that the word wraps to zero. Below the word it
is said as soon as a block was obtained, and so as long as one is still there. -/
theorem leaks_of_run (machine : Machine) (counts : machine.observer.tracking.counts = true)
    (zeroed : machine.observer.counters = {}) (commands : List Command) :
    let ran := run machine commands
    let leaks := Boundary.flag ran.state.observer.counters.hasLeaks
    (leaks = if Word.wrap (obtainedBytes ran.history) = 0 then 0 else 1) ∧
      (obtainedBytes ran.history < Word.limit →
        (leaks = 1 ↔ obtained ran.history ≠ []) ∧ (live ran.history ≠ [] → leaks = 1)) := by
  intro ran leaks
  have start : Tracks { state := machine } := by
    refine ⟨counts, ?_, ⟨fun _ => rfl, fun _ => rfl⟩⟩
    rw [zeroed]
    rfl
  have tracks : Tracks ran := Run.steps_induction _
    (fun run command tracks => tracks.step (step_perform run command)) start commands
  have answered : leaks = if Word.wrap (obtainedBytes ran.history) = 0 then 0 else 1 := by
    simp only [leaks, Boundary.flag, Counters.hasLeaks, tracks.current, decide_eq_true_eq,
      Nat.pos_iff_ne_zero, ite_not]
  refine ⟨answered, ?_⟩
  intro below
  have told : leaks = 1 ↔ obtained ran.history ≠ [] := by
    simp only [answered, Word.wrap, Nat.mod_eq_of_lt below, tracks.nonempty]
    by_cases nothing : obtained ran.history = []
    · simp [nothing]
    · simp [nothing]
  exact ⟨told, fun present => told.mpr (obtained_ne_nil_of_live present)⟩

/-- A block is resized and then released, a text is copied, requests are refused on either side of
a change of the level, and a block is named again after its release. -/
theorem leaks_of_run_released :
    let machine := ({} : Machine).observe { tracking := .stats }
    let block (number : Nat) : BlockId := { heap := 0, number }
    let commands : List Command :=
      [.malloc 8, .realloc (some (block 0)) 32, .malloc 0, .track 2,
        .calloc 0x100000000 0x100000000, .copyText (some [104, 105, 0, 7]), .copyText none,
        .realloc none 5, .realloc (some (block 2)) 0, .free (some (block 1)), .free none,
        .free (some (block 0)), .free (some (block 3))]
    let ran := run machine commands
    machine.observer.tracking.counts = true ∧ machine.observer.counters = {} ∧
      obtainedBytes ran.history = 8 + 3 + 5 ∧ live ran.history = [] ∧
      Boundary.flag ran.state.observer.counters.hasLeaks = 1 := by
  intro machine block commands ran
  have bytes : obtainedBytes ran.history = 8 + 3 + 5 := by decide +kernel
  have below : obtainedBytes ran.history < Word.limit := by
    rw [bytes]
    decide
  refine ⟨rfl, rfl, bytes, by decide +kernel, ?_⟩
  apply ((leaks_of_run machine rfl rfl commands).2 below).1.mpr
  decide +kernel

/-- What is said to leak need not be there: a block that was released is told like a leak. -/
theorem not_leaks_iff_live :
    ¬ ∀ (machine : Machine) (commands : List Command),
      machine.observer.tracking.counts = true → machine.observer.counters = {} →
        (Boundary.flag (run machine commands).state.observer.counters.hasLeaks = 1 ↔
          live (run machine commands).history ≠ []) := by
  intro claimed
  have asked := claimed (({} : Machine).observe { tracking := .stats })
    [.malloc 8, .free (some { heap := 0, number := 0 })] rfl rfl
  revert asked
  decide +kernel

end Leaks

end Underlay
