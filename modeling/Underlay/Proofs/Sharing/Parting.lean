import Underlay.Proofs.Observation.Records

/-!
# Giving up one holder

`letGo` gives up one holder of one object and stops there: if it was the last, the object is out of
the store and handed out, but nothing was done about its destructor and its children yet. To give
up a list of holders is to let go of the first of them, to let the destructor report, and to go on
with the children.
-/

namespace Underlay.Objects

variable {π : Type} {s : Objects π} {id : ObjectId} {object : Object π}

/-- Give up a holder, and hand the object out if it was the last one. -/
def letGo (s : Objects π) (id : ObjectId) (o : Observer) :
    Option (Object π) × Objects π × Observer :=
  match s.get? id with
  | none => (none, s, o)
  | some object =>
      if 1 < object.count then
        let count := object.count - 1
        (none, s.set id (some { object with count }),
          o.emit (event "release" id ("count=" ++ toString count)))
      else
        (some object, s.set id none, o.emit (event "destroy" id))

theorem letGo_of_lt (present : s.get? id = some object) (shared : 1 < object.count)
    (o : Observer) :
    s.letGo id o = (none, s.set id (some { object with count := object.count - 1 }),
      o.emit (event "release" id ("count=" ++ toString (object.count - 1)))) := by
  simp only [letGo, present, if_pos shared]

theorem letGo_of_last (present : s.get? id = some object) (last : ¬ 1 < object.count)
    (o : Observer) :
    s.letGo id o = (some object, s.set id none, o.emit (event "destroy" id)) := by
  simp only [letGo, present, if_neg last]

/-- What is left when holders are given up, and what was noted. -/
def leave (s : Objects π) (o : Observer) (pending : List ObjectId) : Objects π × Observer :=
  ((s.giveUp o pending).1, (s.giveUp o pending).2.1)

theorem leave_nil (s : Objects π) (o : Observer) : s.leave o [] = (s, o) := by
  simp only [leave, giveUp]

/-- To give up holders is to let go of them one by one, and of the children of what is destroyed
before the others. -/
theorem leave_cons (s : Objects π) (o : Observer) (id : ObjectId) (rest : List ObjectId) :
    s.leave o (id :: rest) =
      match s.letGo id o with
      | (none, s', o') => s'.leave o' rest
      | (some object, s', o') => s'.leave (report object o') (object.children ++ rest) := by
  rw [leave, giveUp]
  split
  · rename_i absent
    simp only [letGo, absent, leave]
  · rename_i object present
    by_cases shared : 1 < object.count
    · rw [letGo_of_lt present shared, if_pos shared]
      rfl
    · rw [letGo_of_last present shared, if_neg shared]
      rfl

/-- Giving up holders, by what letting go of the first of them leads to. -/
theorem leave_induction {motive : Objects π → Observer → List ObjectId → Prop}
    (nil : ∀ s o, motive s o [])
    (kept : ∀ s o id rest s' o', s.letGo id o = (none, s', o') → motive s' o' rest →
      motive s o (id :: rest))
    (last : ∀ s o id rest object s' o', s.letGo id o = (some object, s', o') →
      motive s' (report object o') (object.children ++ rest) → motive s o (id :: rest))
    (s : Objects π) (o : Observer) (pending : List ObjectId) : motive s o pending := by
  induction s, o, pending using giveUp.induct with
  | case1 s o => exact nil s o
  | case2 s o id rest absent inductionHypothesis =>
      exact kept s o id rest s o (by simp only [letGo, absent]) inductionHypothesis
  | case3 s o id rest object present shared count _ _ _ _ inductionHypothesis =>
      exact kept s o id rest _ _ (letGo_of_lt present shared o) inductionHypothesis
  | case4 s o id rest object present alone _ _ _ _ inductionHypothesis =>
      exact last s o id rest object _ _ (letGo_of_last present alone o) inductionHypothesis

end Underlay.Objects
