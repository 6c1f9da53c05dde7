import Underlay.Observer.Lifecycle

/-!
# The ring keeps the latest records

A ring of records is filled from the start on; once it is full, each new record takes the place of
the oldest one, which wanders in a circle. Seen from the latest record backwards this is one rule:
a new record goes in front, and what is past the capacity falls off behind.
-/

namespace Underlay.Lifecycle.Log

variable {log : Log}

/-- The oldest record stands at the start until the ring is full, and inside of it then. -/
structure Circular (log : Log) : Prop where
  room : 0 < log.capacity
  fits : log.slots.size ≤ log.capacity
  straight : log.slots.size < log.capacity → log.oldest = 0
  inside : log.oldest < log.capacity

theorem circular_withCapacity (capacity : Nat) : (withCapacity capacity).Circular where
  room := Nat.lt_of_lt_of_le Nat.one_pos (Nat.le_max_left 1 capacity)
  fits := Nat.zero_le _
  straight _ := rfl
  inside := Nat.lt_of_lt_of_le Nat.one_pos (Nat.le_max_left 1 capacity)

theorem Circular.drain (circular : log.Circular) : log.drain.2.Circular where
  room := circular.room
  fits := Nat.zero_le _
  straight _ := rfl
  inside := circular.room

theorem Circular.record (circular : log.Circular) (event : Event) :
    (log.record event).Circular := by
  have room := circular.room
  have fits := circular.fits
  have inside := circular.inside
  unfold Log.record
  split
  · rename_i unfilled
    refine ⟨room, ?_, fun _ => circular.straight unfilled, inside⟩
    simpa [Nat.succ_le_iff] using unfilled
  · refine ⟨room, by simpa using fits, ?_, ?_⟩
    · intro unfilled
      simp only [Array.size_setIfInBounds] at unfilled
      omega
    · change (if log.oldest + 1 < log.slots.size then log.oldest + 1 else 0) < log.capacity
      split <;> omega

@[simp]
theorem length_toList (log : Log) : log.toList.length = log.size := by
  simp only [toList, size, List.length_append, List.length_drop, List.length_take,
    Array.length_toList]
  omega

@[simp]
theorem toList_drain (log : Log) : log.drain.2.toList = [] := rfl

@[simp]
theorem nextId_record (log : Log) (event : Event) :
    (log.record event).nextId = log.nextId + 1 := by
  unfold record
  split <;> rfl

@[simp]
theorem capacity_record (log : Log) (event : Event) :
    (log.record event).capacity = log.capacity := by
  unfold record
  split <;> rfl

theorem toList_record_of_lt (circular : log.Circular) (unfilled : log.slots.size < log.capacity)
    (event : Event) :
    (log.record event).toList = log.toList ++ [{ id := log.nextId, event }] := by
  simp [record, toList, unfilled, circular.straight unfilled]

/-- A circle is read from one place on. When something is written over that place and the reading
begins behind it, then what was there is gone from the front and the new thing stands at the end. -/
theorem circle_set {α : Type} (things : List α) {place : Nat} (inside : place < things.length)
    (a : α) :
    (things.set place a).drop (if place + 1 < things.length then place + 1 else 0) ++
        (things.set place a).take (if place + 1 < things.length then place + 1 else 0) =
      (things.drop place ++ things.take place).tail ++ [a] := by
  have length_front : (things.take place).length = place := by
    simp [Nat.le_of_lt inside]
  rw [List.set_eq_take_append_cons_drop, if_pos inside, List.drop_eq_getElem_cons inside,
    List.cons_append, List.tail_cons]
  split
  · rw [List.drop_append, List.take_append, length_front,
      List.drop_eq_nil_of_le (by omega : (things.take place).length ≤ place + 1),
      List.take_of_length_le (by omega : (things.take place).length ≤ place + 1)]
    simp
  · rename_i last
    have nothing : things.drop (place + 1) = [] := List.drop_eq_nil_of_le (by omega)
    simp [nothing]

theorem toList_record_of_full (full : log.slots.size = log.capacity)
    (inside : log.oldest < log.slots.size) (event : Event) :
    (log.record event).toList = log.toList.tail ++ [{ id := log.nextId, event }] := by
  have circle := circle_set log.slots.toList (by simpa using inside)
    ({ id := log.nextId, event } : Record)
  simpa [record, full, toList] using circle

/-- From the latest record backwards, a new record goes in front and one past the capacity is
dropped. -/
theorem reverse_toList_record (circular : log.Circular) (event : Event) :
    (log.record event).toList.reverse =
      ({ id := log.nextId, event } :: log.toList.reverse).take log.capacity := by
  have fits := circular.fits
  by_cases unfilled : log.slots.size < log.capacity
  · rw [toList_record_of_lt circular unfilled, List.reverse_append, List.reverse_singleton,
      List.singleton_append, List.take_of_length_le]
    simpa [size, Nat.succ_le_iff] using unfilled
  · have full : log.slots.size = log.capacity := by omega
    have inside := circular.inside
    have length_list := length_toList log
    rw [toList_record_of_full full (by omega)]
    cases listed : log.toList with
    | nil =>
        rw [listed, size] at length_list
        simp only [List.length_nil] at length_list
        omega
    | cons first others =>
        have counted : log.capacity = others.length + 1 := by
          rw [← full, ← size, ← length_list, listed, List.length_cons]
        have kept : (first :: others).reverse.take others.length = others.reverse := by
          rw [List.reverse_cons, List.take_append_of_le_length (by simp),
            List.take_of_length_le (by simp)]
        rw [counted, List.take_succ_cons, kept, List.tail_cons, List.reverse_append]
        rfl

/-- A full ring counts the record that it drops. -/
theorem evicted_record (circular : log.Circular) (event : Event) :
    (log.record event).evicted + (log.record event).size = log.evicted + log.size + 1 := by
  have fits := circular.fits
  unfold record size
  split
  · simp only [Array.size_push]
    omega
  · simp only [Array.size_setIfInBounds]
    omega

end Underlay.Lifecycle.Log
