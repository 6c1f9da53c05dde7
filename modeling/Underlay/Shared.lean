import Underlay.Observer

/-!
Shared objects. Each object counts its holders: handles outside, and references that other
objects keep to it as their children. Giving up a holder lowers the count; when the last holder
goes, the destructor runs on the payload, the payload is dropped, and then the children are given
up in order, which may destroy them in turn. What happens on the way is returned as a list, in the
order in which it happens, each happening with the number of its object.
-/

namespace Underlay

abbrev ObjectId := Nat

/-- What runs on a payload when its last holder goes. It may change the payload and report to the
observer. -/
structure Destructor (π : Type) where
  tag : String
  act : π → π := id
  reports : List Lifecycle.Event := []

structure Object (π : Type) where
  count : Nat
  payload : π
  children : List ObjectId := []
  destructor : Option (Destructor π) := none

/-- What happens to objects while holders are given up. -/
inductive Happening (π : Type) where
  /-- A holder was given up, and so many are left. -/
  | released (id : ObjectId) (left : Nat)
  /-- The destructor `tag` was run on a payload with so many children. -/
  | destructed (id : ObjectId) (tag : String) (payload : π) (children : Nat)
  | dropped (id : ObjectId) (payload : π)
deriving DecidableEq, Repr

/-- Objects by their numbers; a destroyed object leaves its number empty. -/
structure Objects (π : Type) where
  slots : List (Option (Object π)) := []

instance {π : Type} : Inhabited (Objects π) := ⟨{}⟩

namespace Objects

variable {π : Type}

def get? (s : Objects π) (id : ObjectId) : Option (Object π) :=
  (s.slots[id]?).join

def set (s : Objects π) (id : ObjectId) (object : Option (Object π)) : Objects π :=
  { slots := s.slots.set id object }

def count (s : Objects π) (id : ObjectId) : Nat :=
  ((s.get? id).map Object.count).getD 0

def event (name : String) (id : ObjectId) (details : String := "") : Lifecycle.Event :=
  { component := "refcount", name, subject := some id, details }

/-- A new object with one holder. -/
def create (s : Objects π) (payload : π) (destructor : Option (Destructor π))
    (children : List ObjectId) (o : Observer) : ObjectId × Objects π × Observer :=
  let id := s.slots.length
  (id, { slots := s.slots ++ [some { count := 1, payload, children, destructor }] },
    o.emit (event "new" id))

/-- One more holder of an object. -/
def retain (s : Objects π) (id : ObjectId) (o : Observer) : Objects π × Observer :=
  match s.get? id with
  | none => (s, o)
  | some object =>
      let count := object.count + 1
      (s.set id (some { object with count }),
        o.emit (event "retain" id ("count=" ++ toString count)))

/-- The sum of a measure over the objects that are there. -/
def total (measure : Object π → Nat) : List (Option (Object π)) → Nat
  | [] => 0
  | none :: rest => total measure rest
  | some object :: rest => measure object + total measure rest

theorem total_set (measure : Object π → Nat) {slots : List (Option (Object π))} {id : ObjectId}
    {old : Object π} (present : slots[id]? = some (some old)) (new : Option (Object π)) :
    total measure (slots.set id new) + measure old = total measure slots + total measure [new] := by
  induction slots generalizing id with
  | nil => simp at present
  | cons slot rest inductionHypothesis =>
      cases id with
      | zero =>
          simp only [List.getElem?_cons_zero, Option.some.injEq] at present
          subst present
          cases new <;> simp only [List.set_cons_zero, total] <;> omega
      | succ id =>
          simp only [List.getElem?_cons_succ] at present
          have step := inductionHypothesis present
          cases slot <;> simp only [List.set_cons_succ, total] <;> omega

/-- A bound on the holders that can still be given up. -/
def weight (slots : List (Option (Object π))) : Nat :=
  total (fun object => object.count + object.children.length) slots

theorem getElem?_of_get? {s : Objects π} {id : ObjectId} {object : Object π}
    (present : s.get? id = some object) : s.slots[id]? = some (some object) := by
  simpa [get?, Option.join_eq_some_iff] using present

/-- What happens to the payload of an object that is being destroyed. -/
def ending (id : ObjectId) (object : Object π) : List (Happening π) :=
  match object.destructor with
  | none => [.dropped id object.payload]
  | some destructor =>
      [.destructed id destructor.tag object.payload object.children.length,
        .dropped id (destructor.act object.payload)]

/-- What the destructor of an object reports. -/
def report (object : Object π) (o : Observer) : Observer :=
  ((object.destructor.map Destructor.reports).getD []).foldl Observer.emit o

/-- Give up one holder of each listed object, in order. What an object holds itself is given up
before the rest of the list. -/
def giveUp (s : Objects π) (o : Observer) :
    List ObjectId → Objects π × Observer × List (Happening π)
  | [] => (s, o, [])
  | id :: rest =>
      match _present : s.get? id with
      | none => giveUp s o rest
      | some object =>
          if 1 < object.count then
            let count := object.count - 1
            let (s, o, happened) := giveUp (s.set id (some { object with count }))
              (o.emit (event "release" id ("count=" ++ toString count))) rest
            (s, o, .released id count :: happened)
          else
            let (s, o, happened) := giveUp (s.set id none)
              (report object (o.emit (event "destroy" id))) (object.children ++ rest)
            (s, o, .released id 0 :: ending id object ++ happened)
termination_by pending => weight s.slots + pending.length
decreasing_by
  · simp
  · have step := total_set (fun object => object.count + object.children.length)
      (getElem?_of_get? _present) (some { object with count := object.count - 1 })
    simp only [total] at step
    simp only [set, weight, List.length_cons]
    omega
  · have step := total_set (fun object => object.count + object.children.length)
      (getElem?_of_get? _present) none
    simp only [total] at step
    simp only [set, weight, List.length_cons, List.length_append]
    omega

/-- Give up one holder, and say whether it was the last one. -/
def release (s : Objects π) (id : ObjectId) (o : Observer) :
    Bool × Objects π × Observer × List (Happening π) :=
  (s.count id == 1, s.giveUp o [id])

theorem total_append (measure : Object π → Nat) (slots more : List (Option (Object π))) :
    total measure (slots ++ more) = total measure slots + total measure more := by
  induction slots with
  | nil => simp [total]
  | cons slot rest inductionHypothesis =>
      cases slot with
      | none => exact inductionHypothesis
      | some object =>
          simp only [List.cons_append, total, inductionHypothesis]
          omega

theorem le_total (measure : Object π → Nat) {slots : List (Option (Object π))} {id : ObjectId}
    {object : Object π} (present : slots[id]? = some (some object)) :
    measure object ≤ total measure slots := by
  have removed := total_set measure present none
  simp only [total] at removed
  omega

/-- Of a sum that is not zero some part is not zero. -/
theorem exists_of_total_pos {measure : Object π → Nat} {slots : List (Option (Object π))}
    (positive : 0 < total measure slots) :
    ∃ (id : ObjectId) (object : Object π),
      slots[id]? = some (some object) ∧ 0 < measure object := by
  induction slots with
  | nil => cases positive
  | cons slot rest inductionHypothesis =>
      cases slot with
      | none =>
          obtain ⟨id, object, present, share⟩ := inductionHypothesis positive
          exact ⟨id + 1, object, present, share⟩
      | some object =>
          by_cases share : 0 < measure object
          · exact ⟨0, object, rfl, share⟩
          · simp only [total] at positive
            obtain ⟨id, object, present, share⟩ := inductionHypothesis (by omega)
            exact ⟨id + 1, object, present, share⟩

theorem lt_length_of_get? {s : Objects π} {id : ObjectId} {object : Object π}
    (present : s.get? id = some object) : id < s.slots.length :=
  (List.getElem?_eq_some_iff.mp (getElem?_of_get? present)).1

theorem count_of_get? {s : Objects π} {id : ObjectId} {object : Object π}
    (present : s.get? id = some object) : s.count id = object.count := by
  simp [count, present]

theorem get?_of_count_pos {s : Objects π} {id : ObjectId} (positive : 0 < s.count id) :
    ∃ object, s.get? id = some object := by
  cases found : s.get? id with
  | none => simp [count, found] at positive
  | some object => exact ⟨object, rfl⟩

theorem get?_set_self {s : Objects π} {id : ObjectId} {old : Object π}
    (present : s.get? id = some old) (new : Option (Object π)) :
    (s.set id new).get? id = new := by
  simp [get?, set, lt_length_of_get? present]

theorem get?_set_of_ne (s : Objects π) {id other : ObjectId} (distinct : other ≠ id)
    (new : Option (Object π)) : (s.set id new).get? other = s.get? other := by
  simp [get?, set, Ne.symm distinct]

theorem get?_create (s : Objects π) (payload : π) (destructor : Option (Destructor π))
    (children : List ObjectId) (o : Observer) (id : ObjectId) :
    (s.create payload destructor children o).2.1.get? id =
      if id = s.slots.length then some { count := 1, payload, children, destructor }
      else s.get? id := by
  by_cases new : id = s.slots.length
  · simp [get?, create, new]
  · by_cases below : id < s.slots.length
    · simp [get?, create, new, List.getElem?_append_left below]
    · have above : s.slots.length < id := Nat.lt_of_le_of_ne (Nat.le_of_not_lt below) (Ne.symm new)
      have outside :
          (s.slots ++ [some { count := 1, payload, children, destructor }])[id]? = none :=
        List.getElem?_eq_none (by simpa [Nat.succ_le_iff] using above)
      rw [if_neg new, get?, create, get?, outside, List.getElem?_eq_none (Nat.le_of_lt above)]

end Objects

end Underlay
