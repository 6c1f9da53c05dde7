import Underlay.Proofs.Sharing.Balance

/-!
# Giving up holders, one inside the other

`GivesUp` tells how holders are given up by nesting: when the last holder of an object goes, the
object ends, then its children are given up from the first to the last, and only then the next
holder is looked at. `giveUp` works through one list instead, and does the same on every balanced
state. While it runs the state is balanced with the holders still to be given up.
-/

namespace Underlay

def Happening.destructed? {π : Type} : Happening π → Option ObjectId
  | .destructed id .. => some id
  | _ => none

namespace Objects

variable {π : Type}

inductive GivesUp : Objects π → List ObjectId → List (Happening π) → Objects π → Prop where
  | done (s : Objects π) : GivesUp s [] [] s
  /-- Other holders are left. -/
  | shared {s s' : Objects π} {id : ObjectId} {rest : List ObjectId} {object : Object π}
      {left : Nat} {others : List (Happening π)} (present : s.get? id = some object)
      (count : object.count = left + 1) (held : 0 < left)
      (behind : GivesUp (s.set id (some { object with count := left })) rest others s') :
      GivesUp s (id :: rest) (.released id left :: others) s'
  /-- The destructor runs, the payload is dropped, and the children are given up in their turn. -/
  | last {s inner s' : Objects π} {id : ObjectId} {rest : List ObjectId} {object : Object π}
      {owned others : List (Happening π)} (present : s.get? id = some object)
      (count : object.count = 1)
      (children : GivesUp (s.set id none) object.children owned inner)
      (behind : GivesUp inner rest others s') :
      GivesUp s (id :: rest) (.released id 0 :: ending id object ++ (owned ++ others)) s'

/-- An object without its count. -/
def bare (s : Objects π) (id : ObjectId) : Option (Object π) :=
  (s.get? id).map fun object => { object with count := 0 }

/-- The destructors of an object that are still to be run. -/
def owed (s : Objects π) (id : ObjectId) : Nat :=
  ((s.bare id).bind Object.destructor).isSome.toNat

def destructed (happened : List (Happening π)) : List ObjectId :=
  happened.filterMap Happening.destructed?

section Destructed

variable (id : ObjectId) (rest more : List (Happening π))

@[simp]
theorem destructed_released (left : Nat) :
    destructed (.released id left :: rest) = destructed rest :=
  rfl

@[simp]
theorem destructed_destructed (tag : String) (payload : π) (children : Nat) :
    destructed (.destructed id tag payload children :: rest) = id :: destructed rest :=
  rfl

@[simp]
theorem destructed_dropped (payload : π) :
    destructed (.dropped id payload :: rest) = destructed rest :=
  rfl

@[simp]
theorem destructed_append : destructed (rest ++ more) = destructed rest ++ destructed more :=
  List.filterMap_append

@[simp]
theorem destructed_nil : destructed ([] : List (Happening π)) = [] :=
  rfl

end Destructed

theorem bare_recount {s : Objects π} {id : ObjectId} {object : Object π}
    (present : s.get? id = some object) (n : Nat) (other : ObjectId) :
    (s.set id (some { object with count := n })).bare other = s.bare other := by
  by_cases same : other = id
  · subst same
    simp [bare, get?_set_self present, present]
  · simp [bare, get?_set_of_ne s same]

theorem count_destructed_ending {s : Objects π} {id : ObjectId} {object : Object π}
    (present : s.get? id = some object) (other : ObjectId) :
    (destructed (ending id object)).count other + (s.set id none).owed other = s.owed other := by
  by_cases same : other = id
  · subst same
    cases declared : object.destructor <;>
      simp [owed, bare, get?_set_self present, present, ending, declared]
  · cases declared : object.destructor <;>
      simp [owed, bare, get?_set_of_ne s same, ending, declared, Ne.symm same]

namespace GivesUp

variable {s s' : Objects π} {ids : List ObjectId} {happened : List (Happening π)}

theorem split {front back : List ObjectId} (given : GivesUp s (front ++ back) happened s') :
    ∃ first middle second, happened = first ++ second ∧
      GivesUp s front first middle ∧ GivesUp middle back second s' := by
  generalize whole : front ++ back = ids at given
  induction given generalizing front with
  | done s =>
      obtain ⟨rfl, rfl⟩ := List.append_eq_nil_iff.mp whole
      exact ⟨[], s, [], rfl, .done s, .done s⟩
  | @shared s s' id rest object left others present count held behind inductionHypothesis =>
      cases front with
      | nil =>
          obtain rfl : back = id :: rest := whole
          exact ⟨[], s, _, rfl, .done s, .shared present count held behind⟩
      | cons head front =>
          obtain ⟨rfl, tail⟩ := List.cons.inj whole
          obtain ⟨first, middle, second, rfl, before, after⟩ := inductionHypothesis tail
          exact ⟨.released head left :: first, middle, second, rfl,
            .shared present count held before, after⟩
  | @last s inner s' id rest object owned others present count children behind _
      inductionHypothesis =>
      cases front with
      | nil =>
          obtain rfl : back = id :: rest := whole
          exact ⟨[], s, _, rfl, .done s, .last present count children behind⟩
      | cons head front =>
          obtain ⟨rfl, tail⟩ := List.cons.inj whole
          obtain ⟨first, middle, second, rfl, before, after⟩ := inductionHypothesis tail
          refine ⟨.released head 0 :: ending head object ++ (owned ++ first), middle, second,
            by simp only [List.cons_append, List.append_assoc],
            .last present count children before, after⟩

/-- Giving up holders destroys an object or changes nothing but its count. -/
theorem frame (given : GivesUp s ids happened s') (id : ObjectId) :
    s'.bare id = none ∨ s'.bare id = s.bare id := by
  induction given with
  | done s => exact .inr rfl
  | shared present count held behind inductionHypothesis =>
      rwa [bare_recount present] at inductionHypothesis
  | @last s inner s' other rest object owned others present count children behind front back =>
      rcases back with gone | same
      · exact .inl gone
      · rw [same]
        rcases front with gone | same
        · exact .inl gone
        · rw [same]
          by_cases here : id = other
          · subst here
            exact .inl (by simp [bare, get?_set_self present])
          · exact .inr (by simp [bare, get?_set_of_ne s here])

theorem get?_eq_none (given : GivesUp s ids happened s') {id : ObjectId}
    (absent : s.get? id = none) : s'.get? id = none := by
  have blank : s.bare id = none := by simp [bare, absent]
  have still : s'.bare id = none := by
    rcases given.frame id with gone | same
    · exact gone
    · exact same.trans blank
  simpa [bare] using still

/-- Destructors that ran and destructors still to be run are the destructors there were. -/
theorem count_destructed (given : GivesUp s ids happened s') (id : ObjectId) :
    (destructed happened).count id + s'.owed id = s.owed id := by
  induction given with
  | done s => simp
  | @shared s s' other rest object left others present count held behind inductionHypothesis =>
      have same : (s.set other (some { object with count := left })).owed id = s.owed id := by
        simp only [owed, bare_recount present]
      rw [← same]
      exact inductionHypothesis
  | @last s inner s' other rest object owned others present count children behind front back =>
      have ended := count_destructed_ending present id
      simp only [List.cons_append, destructed_released, destructed_append, List.count_append]
      omega

theorem length_slots (given : GivesUp s ids happened s') : s'.slots.length = s.slots.length := by
  induction given with
  | done s => rfl
  | shared present count held behind inductionHypothesis =>
      simpa [set] using inductionHypothesis
  | last present count children behind front back =>
      rw [back, front]
      simp [set]

theorem count_eq_one_iff {id : ObjectId} (given : GivesUp s [id] happened s') :
    s.count id = 1 ↔ ¬ s'.Live id := by
  rw [Live, Option.not_isSome_iff_eq_none]
  cases given with
  | @shared _ _ _ _ object left _ present count held behind =>
      cases behind
      rw [count_of_get? present, get?_set_self present, count]
      simp only [reduceCtorEq, iff_false]
      omega
  | last present count children behind =>
      cases behind
      rw [count_of_get? present, count]
      exact ⟨fun _ => children.get?_eq_none (get?_set_self present none), fun _ => rfl⟩

end GivesUp

/-- On a balanced state giving up holders is the nested run, and the state behind it is balanced
with the other holders. -/
theorem givesUp_giveUp {s : Objects π} {pending others : List ObjectId}
    (balanced : Balanced s (pending ++ others)) (o : Observer) :
    GivesUp s pending (s.giveUp o pending).2.2 (s.giveUp o pending).1 ∧
      Balanced (s.giveUp o pending).1 others := by
  fun_induction giveUp s o pending with
  | case1 s o => exact ⟨.done s, balanced⟩
  | case2 s o id rest absent =>
      obtain ⟨object, present⟩ :=
        balanced.live_of_mem (List.mem_append_left others List.mem_cons_self)
      simp [absent] at present
  | case3 s o id rest object present shared left s' o' happened again inductionHypothesis =>
      have fewer : Balanced (s.set id (some { object with count := left })) (rest ++ others) := by
        refine balanced.recount present (Nat.sub_pos_of_lt shared) ?_ ?_
        · simp only [List.cons_append, List.count_cons_self, left]
          omega
        · intro other distinct
          simp [List.count_cons_of_ne (Ne.symm distinct)]
      obtain ⟨given, after⟩ := inductionHypothesis fewer
      rw [again] at given after
      exact ⟨.shared present (by omega) (Nat.sub_pos_of_lt shared) given, after⟩
  | case4 s o id rest object present unshared s' o' happened again inductionHypothesis =>
      have last : object.count = 1 := by
        have positive := balanced.positive id object present
        omega
      have fewer : Balanced (s.set id none) (object.children ++ rest ++ others) := by
        rw [List.append_assoc]
        exact balanced.destroy present last
      obtain ⟨given, after⟩ := inductionHypothesis fewer
      rw [again] at given after
      obtain ⟨owned, inner, behind, rfl, children, next⟩ := given.split
      exact ⟨.last present last children next, after⟩

/-! A release that gives up one holder of several, and one that gives up the last holder of an object
without children. -/

theorem release_of_lt {s : Objects π} {id : ObjectId} {object : Object π}
    (present : s.get? id = some object) (shared : 1 < object.count) (o : Observer) :
    s.release id o =
      (false, s.set id (some { object with count := object.count - 1 }),
        o.emit (event "release" id ("count=" ++ toString (object.count - 1))),
        [.released id (object.count - 1)]) := by
  have unlike : (object.count == 1) = false := beq_false_of_ne (Nat.ne_of_gt shared)
  rw [release, count_of_get? present, unlike, giveUp]
  split
  · rename_i absent
    cases present.symm.trans absent
  · rename_i found foundPresent
    obtain rfl : object = found := Option.some.inj (present.symm.trans foundPresent)
    simp only [if_pos shared, giveUp]

theorem release_of_eq_one {s : Objects π} {id : ObjectId} {object : Object π}
    (present : s.get? id = some object) (last : object.count = 1)
    (childless : object.children = []) (o : Observer) :
    s.release id o =
      (true, s.set id none, report object (o.emit (event "destroy" id)),
        .released id 0 :: ending id object) := by
  have unshared : ¬ 1 < object.count := by omega
  rw [release, count_of_get? present, last, giveUp]
  split
  · rename_i absent
    cases present.symm.trans absent
  · rename_i found foundPresent
    obtain rfl : object = found := Option.some.inj (present.symm.trans foundPresent)
    simp only [if_neg unshared, childless, giveUp, List.append_nil]
    rfl

end Objects

end Underlay
