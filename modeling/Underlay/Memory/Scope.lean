import Underlay.Memory.Heap

/-!
Scopes. A scope owns blocks of one heap: those that it allocated itself, whose size it knows, and
those that it adopted. Closing it releases every registration once, the newest first; a block that
was adopted twice is released twice.
-/

namespace Underlay

structure Registration where
  block : BlockId
  size : Option Nat
deriving DecidableEq, Repr, Inhabited

structure Scope where
  id : Nat
  /-- What the scope owns, the newest first. -/
  owned : List Registration := []
deriving DecidableEq, Repr, Inhabited

namespace Scope

def event (s : Scope) (name : String) (details : String := "") : Lifecycle.Event :=
  { component := "scope", name, details := "scope=" ++ toString s.id ++ details }

/-- Open a scope under a number. -/
def make (id : Nat) (o : Observer) : Scope × Observer :=
  let s : Scope := { id }
  (s, o.emit (s.event "open"))

/-- Take a block into ownership. -/
def push (s : Scope) (name : String) (block : BlockId) (size : Option Nat) (o : Observer) :
    Scope × Observer :=
  let s := { s with owned := { block, size } :: s.owned }
  (s, o.emit { s.event name (" live=" ++ toString s.owned.length) with
    subject := some block.number, size })

/-- The warning that an allocation of `size` bytes failed. -/
def warn (s : Scope) (name : String) (size : Nat) (o : Observer) : Observer :=
  o.emit { s.event name with level := .warn, size := some size, outcome := "failed" }

/-- Allocate `size` bytes that the scope owns. -/
def alloc (s : Scope) (h : Heap) (size : Nat) (o : Observer) :
    Except Failure (BlockId × Scope × Heap) × Observer :=
  match h.malloc size o with
  | .error failure => (.error failure, s.warn "alloc" size o)
  | .ok (block, h, o) =>
      let (s, o) := s.push "alloc" block (some size) o
      (.ok (block, s, h), o)

/-- Allocate zeroed room for `count` elements of `size` bytes. -/
def allocZeroed (s : Scope) (h : Heap) (count size : Nat) (o : Observer) :
    Except Failure (BlockId × Scope × Heap) × Observer :=
  match h.calloc count size o with
  | .error failure =>
      (.error failure, s.warn "alloc_zeroed" (Word.saturateSize (count * size)) o)
  | .ok (block, h, o) =>
      let (s, o) := s.push "alloc_zeroed" block (some (count * size)) o
      (.ok (block, s, h), o)

/-- Adopt a block. -/
def register (s : Scope) (block : Option BlockId) (o : Observer) :
    Except Failure Scope × Observer :=
  match block with
  | none => (.error (.raise .value "cannot register a null pointer" "scope_register"), o)
  | some block =>
      let (s, o) := s.push "register" block none o
      (.ok s, o)

/-- Release registrations in the given order. -/
def releaseAll : List Registration → Heap → Observer → Heap × Observer
  | [], h, o => (h, o)
  | r :: rest, h, o => releaseAll rest (h.release r.block) (o.noteFree r.size)

/-- Release everything that the scope owns. -/
def close (s : Scope) (h : Heap) (o : Observer) : Heap × Observer :=
  let (h, o) := releaseAll s.owned h o
  (h, o.emit (s.event "close" (" released=" ++ toString s.owned.length)))

theorem releases_of_releaseAll (registrations : List Registration) (h : Heap) (o : Observer) :
    (releaseAll registrations h o).1.releases =
      h.releases ++ registrations.map Registration.block := by
  induction registrations generalizing h o with
  | nil => simp [releaseAll]
  | cons r rest inductionHypothesis =>
      simp [releaseAll, inductionHypothesis, Heap.release]

/-- Closing logs the release of every registration, the newest first. -/
theorem releases_of_close (s : Scope) (h : Heap) (o : Observer) :
    (s.close h o).1.releases = h.releases ++ s.owned.map Registration.block :=
  releases_of_releaseAll s.owned h o

/-! What an operation does that succeeds: it registers one block, in front of the others. -/

theorem alloc_eq_ok {s s' : Scope} {h h' : Heap} {size : Nat} {o o' : Observer} {block : BlockId}
    (done : s.alloc h size o = (.ok (block, s', h'), o')) :
    s' = { s with owned := { block, size := some size } :: s.owned } ∧
      h'.releases = h.releases := by
  unfold alloc at done
  cases result : h.malloc size o with
  | error failure => simp [result] at done
  | ok answer =>
      simp only [result, push, Prod.mk.injEq, Except.ok.injEq] at done
      obtain ⟨⟨rfl, rfl, rfl⟩, -⟩ := done
      exact ⟨rfl, Heap.releases_of_malloc result⟩

theorem allocZeroed_eq_ok {s s' : Scope} {h h' : Heap} {count size : Nat} {o o' : Observer}
    {block : BlockId} (done : s.allocZeroed h count size o = (.ok (block, s', h'), o')) :
    s' = { s with owned := { block, size := some (count * size) } :: s.owned } ∧
      h'.releases = h.releases := by
  unfold allocZeroed at done
  cases result : h.calloc count size o with
  | error failure => simp [result] at done
  | ok answer =>
      simp only [result, push, Prod.mk.injEq, Except.ok.injEq] at done
      obtain ⟨⟨rfl, rfl, rfl⟩, -⟩ := done
      exact ⟨rfl, Heap.releases_of_calloc result⟩

theorem register_eq_ok {s s' : Scope} {block : Option BlockId} {o o' : Observer}
    (done : s.register block o = (.ok s', o')) :
    ∃ adopted, block = some adopted ∧
      s' = { s with owned := { block := adopted, size := none } :: s.owned } := by
  cases block with
  | none => simp [register] at done
  | some adopted =>
      simp only [register, push, Prod.mk.injEq, Except.ok.injEq] at done
      exact ⟨adopted, rfl, done.1.symm⟩

end Scope

end Underlay
