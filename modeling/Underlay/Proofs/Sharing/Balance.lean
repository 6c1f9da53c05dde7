import Mathlib.Logic.Relation
import Underlay.Shared

/-!
# Counts and holders

`Counted` says that every object counts exactly its holders: those in a list, and the references
that live objects keep to it. This is so however the references run. Where they lead to older
objects only, as `Balanced` adds, an object is live exactly when it is reachable from a holder in
the list.
-/

namespace Underlay.Objects

variable {π : Type}

def Live (s : Objects π) (id : ObjectId) : Prop :=
  (s.get? id).isSome

instance (s : Objects π) (id : ObjectId) : Decidable (s.Live id) :=
  inferInstanceAs (Decidable ((s.get? id).isSome = true))

/-- How many references live objects keep to an object. -/
def stored (s : Objects π) (id : ObjectId) : Nat :=
  total (fun object => object.children.count id) s.slots

def Keeps (s : Objects π) (owner child : ObjectId) : Prop :=
  ∃ object, s.get? owner = some object ∧ child ∈ object.children

structure Counted (s : Objects π) (holders : List ObjectId) : Prop where
  counted : ∀ id, s.count id = holders.count id + s.stored id
  positive : ∀ id object, s.get? id = some object → 0 < object.count

structure Balanced (s : Objects π) (holders : List ObjectId) : Prop extends
    Counted s holders where
  /-- References lead to older objects. -/
  older : ∀ id object, s.get? id = some object → ∀ child ∈ object.children, child < id

theorem live_iff {s : Objects π} {id : ObjectId} :
    s.Live id ↔ ∃ object, s.get? id = some object := by
  rw [Live, Option.isSome_iff_exists]

/-- When one object is replaced or taken away, the others are what they were. -/
theorem forall_get?_set {P : ObjectId → Object π → Prop} {s : Objects π} {id : ObjectId}
    {old : Object π} (all : ∀ id object, s.get? id = some object → P id object)
    (present : s.get? id = some old) {new : Option (Object π)}
    (here : ∀ object, new = some object → P id object) :
    ∀ other object, (s.set id new).get? other = some object → P other object := by
  intro other object found
  by_cases same : other = id
  · subst same
    exact here object ((get?_set_self present new).symm.trans found)
  · exact all other object ((get?_set_of_ne s same new).symm.trans found)

theorem stored_set {s : Objects π} {id : ObjectId} {old : Object π}
    (present : s.get? id = some old) (new : Option (Object π)) (child : ObjectId) :
    (s.set id new).stored child + old.children.count child =
      s.stored child + ((new.map Object.children).getD []).count child := by
  have step := total_set (fun object => object.children.count child)
    (getElem?_of_get? present) new
  cases new with
  | none => simpa [stored, set, total] using step
  | some object => simpa [stored, set, total] using step

theorem le_stored {s : Objects π} {owner : ObjectId} {object : Object π}
    (present : s.get? owner = some object) (child : ObjectId) :
    object.children.count child ≤ s.stored child :=
  le_total (fun object => object.children.count child) (getElem?_of_get? present)

theorem exists_keeps_of_stored_pos {s : Objects π} {child : ObjectId}
    (positive : 0 < s.stored child) : ∃ owner, s.Keeps owner child := by
  obtain ⟨owner, object, present, share⟩ := exists_of_total_pos positive
  refine ⟨owner, object, ?_, List.count_pos_iff.mp share⟩
  simp [get?, present]

section Counts

variable {s : Objects π} {holders others : List ObjectId} {id : ObjectId} {object : Object π}

namespace Counted

theorem empty : Counted ({} : Objects π) [] := by
  refine ⟨?_, ?_⟩
  · intro id
    simp [count, get?, stored, total]
  · intro id object present
    simp [get?] at present

theorem of_perm (counted : Counted s holders) (same : holders.Perm others) : Counted s others := by
  refine ⟨?_, counted.positive⟩
  intro id
  rw [counted.counted, same.count_eq]

theorem live_of_mem (counted : Counted s holders) (held : id ∈ holders) :
    ∃ object, s.get? id = some object := by
  apply get?_of_count_pos
  have holder := List.count_pos_iff.mpr held
  have counts := counted.counted id
  omega

theorem live_of_keeps (counted : Counted s holders) {owner : ObjectId}
    (kept : s.Keeps owner id) : ∃ object, s.get? id = some object := by
  obtain ⟨object, present, child⟩ := kept
  apply get?_of_count_pos
  have share := List.count_pos_iff.mpr child
  have bound := le_stored present id
  have counts := counted.counted id
  omega

theorem recount (counted : Counted s holders) (present : s.get? id = some object) {n : Nat}
    (positive : 0 < n) (here : others.count id + object.count = holders.count id + n)
    (elsewhere : ∀ other ≠ id, others.count other = holders.count other) :
    Counted (s.set id (some { object with count := n })) others := by
  have kept (child : ObjectId) :
      (s.set id (some { object with count := n })).stored child = s.stored child := by
    have step := stored_set present (some { object with count := n }) child
    simp only [Option.map_some, Option.getD_some] at step
    omega
  refine ⟨?_, forall_get?_set counted.positive present ?_⟩
  · intro other
    rw [kept]
    have counts := counted.counted other
    by_cases same : other = id
    · subst same
      rw [count_of_get? present] at counts
      rw [count_of_get? (get?_set_self present _)]
      simp only
      omega
    · rw [count, get?_set_of_ne s same, elsewhere other same]
      exact counts
  · rintro recounted ⟨⟩
    exact positive

/-- Handles may move between a payload and the outside. -/
theorem refill (counted : Counted s holders) (present : s.get? id = some object)
    {children : List ObjectId}
    (moved : (object.children ++ holders).Perm (children ++ others)) :
    Counted (s.set id (some { object with children })) others := by
  have counts_set (other : ObjectId) :
      (s.set id (some { object with children })).count other = s.count other := by
    by_cases same : other = id
    · subst same
      rw [count_of_get? (get?_set_self present _), count_of_get? present]
    · rw [count, get?_set_of_ne s same, count]
  refine ⟨fun other => ?_, forall_get?_set counted.positive present ?_⟩
  · have step := stored_set present (some { object with children }) other
    have counts := counted.counted other
    have around := moved.count_eq other
    rw [List.count_append, List.count_append] at around
    simp only [Option.map_some, Option.getD_some] at step
    rw [counts_set]
    omega
  · rintro refilled ⟨⟩
    exact counted.positive id object present

/-- When the last holder of an object goes, its children lose the reference that it kept, and the
reference has to be given up in its place. An object that keeps itself has another holder. -/
theorem destroy (counted : Counted s (id :: holders)) (present : s.get? id = some object)
    (last : object.count = 1) : Counted (s.set id none) (object.children ++ holders) := by
  have alone := counted.counted id
  rw [count_of_get? present, last, List.count_cons_self] at alone
  have unkept := le_stored present id
  refine ⟨?_, forall_get?_set counted.positive present ?_⟩
  · intro other
    have step := stored_set present none other
    simp only [Option.map_none, Option.getD_none, List.count_nil] at step
    rw [List.count_append]
    by_cases same : other = id
    · subst same
      have gone : (s.set other none).count other = 0 := by
        simp [count, get?_set_self present]
      omega
    · have counts := counted.counted other
      rw [List.count_cons_of_ne (Ne.symm same)] at counts
      rw [count, get?_set_of_ne s same]
      change s.count other = _
      omega
  · rintro object ⟨⟩

theorem create {children : List ObjectId} (counted : Counted s (children ++ holders))
    (payload : π) (destructor : Option (Destructor π)) (o : Observer) :
    Counted (s.create payload destructor children o).2.1 (s.slots.length :: holders) := by
  have fresh : s.count s.slots.length = 0 := by
    simp [count, get?]
  have unheard := counted.counted s.slots.length
  rw [fresh, List.count_append] at unheard
  have kept (child : ObjectId) : (s.create payload destructor children o).2.1.stored child =
      s.stored child + children.count child := by
    simp [stored, Objects.create, total_append, total]
  refine ⟨?_, ?_⟩
  · intro id
    rw [kept, count, get?_create]
    by_cases new : id = s.slots.length
    · subst new
      simp only [if_true, Option.map_some, Option.getD_some, List.count_cons_self]
      omega
    · have counts := counted.counted id
      rw [List.count_append] at counts
      rw [if_neg new, List.count_cons_of_ne (Ne.symm new)]
      change s.count id = _
      omega
  · intro id object found
    rw [get?_create] at found
    split at found
    · obtain rfl := Option.some.inj found
      exact Nat.one_pos
    · exact counted.positive id object found

end Counted

namespace Balanced

theorem empty : Balanced ({} : Objects π) [] := by
  refine ⟨Counted.empty, ?_⟩
  intro id object present
  simp [get?] at present

theorem of_perm (balanced : Balanced s holders) (same : holders.Perm others) :
    Balanced s others :=
  ⟨balanced.toCounted.of_perm same, balanced.older⟩

theorem recount (balanced : Balanced s holders) (present : s.get? id = some object) {n : Nat}
    (positive : 0 < n) (here : others.count id + object.count = holders.count id + n)
    (elsewhere : ∀ other ≠ id, others.count other = holders.count other) :
    Balanced (s.set id (some { object with count := n })) others := by
  refine ⟨balanced.toCounted.recount present positive here elsewhere,
    forall_get?_set balanced.older present ?_⟩
  rintro recounted ⟨⟩
  exact balanced.older id object present

theorem destroy (balanced : Balanced s (id :: holders)) (present : s.get? id = some object)
    (last : object.count = 1) : Balanced (s.set id none) (object.children ++ holders) := by
  refine ⟨balanced.toCounted.destroy present last, forall_get?_set balanced.older present ?_⟩
  rintro object ⟨⟩

theorem create {children : List ObjectId} (balanced : Balanced s (children ++ holders))
    (payload : π) (destructor : Option (Destructor π)) (o : Observer) :
    Balanced (s.create payload destructor children o).2.1 (s.slots.length :: holders) := by
  refine ⟨balanced.toCounted.create payload destructor o, ?_⟩
  intro id object found child inside
  rw [get?_create] at found
  split at found
  · rename_i new
    subst new
    obtain rfl := Option.some.inj found
    obtain ⟨old, present⟩ := balanced.live_of_mem (List.mem_append_left holders inside)
    exact lt_length_of_get? present
  · exact balanced.older id object found child inside

theorem live_of_reachable (balanced : Balanced s holders) {holder : ObjectId}
    (held : holder ∈ holders) (path : Relation.ReflTransGen s.Keeps holder id) : s.Live id := by
  rw [live_iff]
  cases path with
  | refl => exact balanced.live_of_mem held
  | tail _ last => exact balanced.live_of_keeps last

/-- Following references back leads to newer and newer objects, and so to a holder. -/
theorem reachable_of_live (balanced : Balanced s holders) {id : ObjectId} (live : s.Live id) :
    ∃ holder ∈ holders, Relation.ReflTransGen s.Keeps holder id := by
  obtain ⟨object, present⟩ := live_iff.mp live
  by_cases held : id ∈ holders
  · exact ⟨id, held, .refl⟩
  · have counted := balanced.counted id
    have positive := balanced.positive id object present
    rw [count_of_get? present, List.count_eq_zero.mpr held] at counted
    have kept : 0 < s.stored id := by omega
    obtain ⟨owner, parent, found, child⟩ := exists_keeps_of_stored_pos kept
    have newer : id < owner := balanced.older owner parent found id child
    have bounded := lt_length_of_get? found
    obtain ⟨holder, there, path⟩ :=
      balanced.reachable_of_live (live_iff.mpr ⟨parent, found⟩)
    exact ⟨holder, there, path.tail ⟨parent, found, child⟩⟩
termination_by s.slots.length - id
decreasing_by exact Nat.sub_lt_sub_left (Nat.lt_trans newer bounded) newer

theorem live_iff_reachable (balanced : Balanced s holders) (id : ObjectId) :
    s.Live id ↔ ∃ holder ∈ holders, Relation.ReflTransGen s.Keeps holder id := by
  constructor
  · exact balanced.reachable_of_live
  · rintro ⟨holder, held, path⟩
    exact balanced.live_of_reachable held path

end Balanced

end Counts

end Underlay.Objects
