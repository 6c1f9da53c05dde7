import Mathlib.Data.List.Nodup
import Mathlib.Data.List.Perm.Subperm
import Underlay.Boundary.Containers

/-!
# When the comparison of maps is symmetric

Two maps behind one table are compared from one side: their sizes must agree, and iterating over
the one, every value must be equal to the one found in the other. A key that is reported with a
null pointer for its value counts towards the size, but iteration passes it over and nothing is
found under it. So the comparison goes both ways when both maps have the same keys of that kind,
and otherwise it may hold in one direction only, or for maps with different keys.
-/

namespace Underlay.Boundary

section Reports

variable {κ υ ι : Type} (name : κ → ι)

/-- The keys of entries, by what they point to. -/
def keys (entries : List (κ × Option υ)) : List ι :=
  entries.map fun entry => name entry.1

def valuedKeys (entries : List (κ × Option υ)) : List ι :=
  keys name (entries.filter fun entry => entry.2.isSome)

/-- The keys whose value is a null pointer. -/
def nullKeys (entries : List (κ × Option υ)) : List ι :=
  keys name (entries.filter fun entry => !entry.2.isSome)

/-- Every value of `left` is equal to one of `right` under the same key. -/
def Covers (alike : υ → υ → Int) (left right : List (κ × Option υ)) : Prop :=
  ∀ key value, (key, some value) ∈ left →
    ∃ key' value', name key' = name key ∧ (key', some value') ∈ right ∧ alike value value' ≠ 0

/-- A complete table reports the entries of a container: their number, each of them once, and under
each key its value. Pointers to the same key may differ. -/
structure MapTable.Lists {γ : Type} (table : MapTable γ κ υ) (container : γ)
    (entries : List (κ × Option υ)) : Prop where
  size : ∃ size, table.size = some size ∧ size container = entries.length
  contains : table.contains.isSome
  get : ∃ get, table.get = some get ∧ ∀ key value, get container key = some value ↔
    ∃ key', name key' = name key ∧ (key', some value) ∈ entries
  iterate : ∃ iterate, table.iterate = some iterate ∧
    iterate container = entries.map fun entry => (some entry.1, entry.2)
  once : (keys name entries).Nodup

end Reports

section Keys

variable {κ υ ι : Type} {name : κ → ι} {left right entries : List (κ × Option υ)}

theorem mem_valuedKeys {key : ι} :
    key ∈ valuedKeys name entries ↔ ∃ k value, name k = key ∧ (k, some value) ∈ entries := by
  simp only [valuedKeys, keys, List.mem_map, List.mem_filter, Option.isSome_iff_exists]
  constructor
  · rintro ⟨⟨k, _⟩, ⟨present, value, rfl⟩, rfl⟩
    exact ⟨k, value, rfl, present⟩
  · rintro ⟨k, value, rfl, present⟩
    exact ⟨(k, some value), ⟨present, value, rfl⟩, rfl⟩

theorem valuedKeys_append_nullKeys_perm (name : κ → ι) (entries : List (κ × Option υ)) :
    (valuedKeys name entries ++ nullKeys name entries).Perm (keys name entries) := by
  unfold valuedKeys nullKeys keys
  rw [← List.map_append]
  exact (List.filter_append_perm _ entries).map _

theorem length_valuedKeys_add_length_nullKeys (name : κ → ι) (entries : List (κ × Option υ)) :
    (valuedKeys name entries).length + (nullKeys name entries).length = entries.length := by
  rw [← List.length_append, (valuedKeys_append_nullKeys_perm name entries).length_eq, keys,
    List.length_map]

theorem nodup_valuedKeys (once : (keys name entries).Nodup) : (valuedKeys name entries).Nodup :=
  List.Nodup.of_append_left ((valuedKeys_append_nullKeys_perm name entries).nodup_iff.mpr once)

/-- Under a key that is reported once there is one value. -/
theorem value_unique (once : (keys name entries).Nodup) {k k' : κ} {value value' : Option υ}
    (present : (k, value) ∈ entries) (present' : (k', value') ∈ entries) (same : name k = name k') :
    value = value' := by
  have equal := List.inj_on_of_nodup_map once present present' same
  exact (Prod.mk.inj equal).2

variable {alike : υ → υ → Int}

theorem Covers.valuedKeys_subset (covers : Covers name alike left right) :
    valuedKeys name left ⊆ valuedKeys name right := by
  intro key valued
  obtain ⟨k, value, rfl, present⟩ := mem_valuedKeys.mp valued
  obtain ⟨k', value', same, found, -⟩ := covers k value present
  exact mem_valuedKeys.mpr ⟨k', value', same, found⟩

/-- Of as many entries with the same keys for null, as many have values. -/
theorem Covers.valuedKeys_perm (covers : Covers name alike left right)
    (once : (keys name left).Nodup) (length : left.length = right.length)
    (nulls : (nullKeys name left).Perm (nullKeys name right)) :
    (valuedKeys name left).Perm (valuedKeys name right) := by
  have counted := length_valuedKeys_add_length_nullKeys name left
  have counted' := length_valuedKeys_add_length_nullKeys name right
  have many := nulls.length_eq
  apply (List.subperm_of_subset (nodup_valuedKeys once) covers.valuedKeys_subset).perm_of_length_le
  omega

theorem Covers.symm (covers : Covers name alike left right)
    (symmetric : ∀ value other, alike value other ≠ 0 → alike other value ≠ 0)
    (once : (keys name left).Nodup) (once' : (keys name right).Nodup)
    (length : left.length = right.length)
    (nulls : (nullKeys name left).Perm (nullKeys name right)) : Covers name alike right left := by
  intro key value present
  have valued : name key ∈ valuedKeys name left :=
    (covers.valuedKeys_perm once length nulls).mem_iff.mpr
      (mem_valuedKeys.mpr ⟨key, value, rfl, present⟩)
  obtain ⟨key', value', same, present'⟩ := mem_valuedKeys.mp valued
  obtain ⟨key'', value'', same', found, like⟩ := covers key' value' present'
  have equal : some value'' = some value := value_unique once' found present (same'.trans same)
  rw [Option.some.inj equal] at like
  exact ⟨key', value', same, present', symmetric _ _ like⟩

theorem Covers.keys_subset (covers : Covers name alike left right)
    (once : (keys name left).Nodup) (length : left.length = right.length)
    (nulls : (nullKeys name left).Perm (nullKeys name right)) :
    keys name left ⊆ keys name right := by
  have all : (keys name left).Perm (keys name right) :=
    (valuedKeys_append_nullKeys_perm name left).symm.trans <|
      ((covers.valuedKeys_perm once length nulls).append nulls).trans <|
        valuedKeys_append_nullKeys_perm name right
  exact all.subset

/-- Maps that cover each other share their keys for null, unless they have other keys. -/
theorem Covers.nullKeys_perm (covers : Covers name alike left right)
    (covers' : Covers name alike right left) (once : (keys name left).Nodup)
    (once' : (keys name right).Nodup) (length : left.length = right.length)
    (included : keys name left ⊆ keys name right) :
    (nullKeys name left).Perm (nullKeys name right) := by
  have all : (keys name left).Perm (keys name right) := by
    apply (List.subperm_of_subset once included).perm_of_length_le
    simp only [keys, List.length_map, length, Nat.le_refl]
  have valued : (valuedKeys name left).Perm (valuedKeys name right) := by
    apply (List.perm_ext_iff_of_nodup (nodup_valuedKeys once) (nodup_valuedKeys once')).mpr
    intro key
    exact ⟨fun present => covers.valuedKeys_subset present,
      fun present => covers'.valuedKeys_subset present⟩
  have parts : (valuedKeys name right ++ nullKeys name left).Perm
      (valuedKeys name right ++ nullKeys name right) :=
    (valued.symm.append_right _).trans <|
      (valuedKeys_append_nullKeys_perm name left).trans <|
        all.trans (valuedKeys_append_nullKeys_perm name right).symm
  exact (List.perm_append_left_iff _).mp parts

end Keys

section Comparing

variable {γ κ υ ι : Type} {table : MapTable γ κ υ} {name : κ → ι} {a b : γ}
  {left right : List (κ × Option υ)} {alike : υ → υ → Int}

theorem MapTable.Lists.mem_entries (lists : table.Lists name a left) (size : γ → Nat)
    (contains : γ → κ → Int) (key : κ) (value : υ) :
    (key, value) ∈ (table.mapping size contains a).entries ↔ (key, some value) ∈ left := by
  obtain ⟨iterate, iterates, reported⟩ := lists.iterate
  simp only [mapping, iterates, reported, List.filterMap_map, List.mem_filterMap]
  constructor
  · rintro ⟨⟨key', _ | value'⟩, present, shown⟩
    · cases shown
    · cases shown
      exact present
  · intro present
    exact ⟨(key, some value), present, rfl⟩

theorem MapTable.Lists.get?_eq_some (lists : table.Lists name a left) (size : γ → Nat)
    (contains : γ → κ → Int) (key : κ) (value : υ) :
    (table.mapping size contains a).get? key = some value ↔
      ∃ key', name key' = name key ∧ (key', some value) ∈ left := by
  obtain ⟨get, gets, found⟩ := lists.get
  rw [← found, mapping, gets]
  rfl

/-- What a comparison looks at: the sizes, and the values of the left side. -/
theorem answer_mapEqual (lists : table.Lists name a left) (lists' : table.Lists name b right)
    (alike : υ → υ → Int) (machine : Machine) :
    ∃ same, (answer 0 (mapEqual (some table) (some a) (some b) (some alike)).1 machine).1 =
        flag same ∧
      (same = true ↔ left.length = right.length ∧ Covers name alike left right) := by
  obtain ⟨size, sized, counted⟩ := lists.size
  obtain ⟨_, sized', counted'⟩ := lists'.size
  obtain ⟨contains, asks⟩ := Option.isSome_iff_exists.mp lists.contains
  obtain ⟨get, gets, -⟩ := lists.get
  obtain ⟨iterate, iterates, -⟩ := lists.iterate
  obtain rfl := Option.some.inj (sized.symm.trans sized')
  let m := table.mapping size contains a
  let n := table.mapping size contains b
  refine ⟨(m.equal n fun x y => alike x y != 0).1, ?_, ?_⟩
  · simp only [mapEqual, calling, MapTable.load_of_present sized asks, bind, Except.bind, demand,
      gets, iterates]
    rfl
  · rw [Mapping.equal_eq_true, ← counted, ← counted']
    apply and_congr_right
    intro _
    simp only [m, n, lists.mem_entries, lists'.get?_eq_some, bne_iff_ne]
    constructor
    · intro every key value present
      obtain ⟨value', ⟨key', same, found⟩, like⟩ := every key value present
      exact ⟨key', value', same, found, like⟩
    · intro covers key value present
      obtain ⟨key', value', same, found, like⟩ := covers key value present
      exact ⟨value', ⟨key', same, found⟩, like⟩

/-- For a comparison of values that is symmetric, comparing two maps is symmetric and holds only of
maps where every key of the one is a key of the other, exactly when the comparison fails both ways
or both maps have the same keys for null. -/
theorem mapEqual_symm_iff (lists : table.Lists name a left) (lists' : table.Lists name b right)
    (symmetric : ∀ value other, alike value other ≠ 0 → alike other value ≠ 0)
    (machine : Machine) :
    let compare (x y : γ) : Int :=
      (answer 0 (mapEqual (some table) (some x) (some y) (some alike)).1 machine).1
    (compare a b = compare b a ∧ (compare a b = 1 → keys name left ⊆ keys name right)) ↔
      (compare a b = 0 ∧ compare b a = 0) ∨ (nullKeys name left).Perm (nullKeys name right) := by
  intro compare
  obtain ⟨same, told, same_iff⟩ := answer_mapEqual lists lists' alike machine
  obtain ⟨same', told', same'_iff⟩ := answer_mapEqual lists' lists alike machine
  have told : compare a b = flag same := told
  have told' : compare b a = flag same' := told'
  rw [told, told']
  constructor
  · rintro ⟨both, included⟩
    cases same with
    | false =>
        rw [← both]
        exact .inl ⟨rfl, rfl⟩
    | true =>
        have answered' : same' = true := by
          cases same' with
          | false => cases both
          | true => rfl
        obtain ⟨length, covers⟩ := same_iff.mp rfl
        obtain ⟨-, covers'⟩ := same'_iff.mp answered'
        exact .inr (covers.nullKeys_perm covers' lists.once lists'.once length (included rfl))
  · rintro (⟨fails, fails'⟩ | nulls)
    · rw [fails, fails']
      exact ⟨rfl, fun holds => (nomatch holds)⟩
    · have agree : same = same' := by
        rw [Bool.eq_iff_iff, same_iff, same'_iff]
        constructor
        · rintro ⟨length, covers⟩
          exact ⟨length.symm, covers.symm symmetric lists.once lists'.once length nulls⟩
        · rintro ⟨length, covers⟩
          exact ⟨length.symm, covers.symm symmetric lists'.once lists.once length nulls.symm⟩
      refine ⟨congrArg flag agree, fun holds => ?_⟩
      cases same with
      | false => cases holds
      | true =>
          obtain ⟨length, covers⟩ := same_iff.mp rfl
          exact covers.keys_subset lists.once length nulls

/-- The table of containers that are their own entries, with keys that stand for themselves. -/
def listing (υ : Type) : MapTable (List (Nat × Option υ)) Nat υ where
  typeName := none
  size := some List.length
  contains := some fun entries key => flag (entries.any fun entry => entry.1 == key)
  get := some fun entries key => (entries.find? fun entry => entry.1 == key).bind Prod.snd
  iterate := some fun entries => entries.map fun entry => (some entry.1, entry.2)
  describe := none
  address := id

theorem lists_listing {entries : List (Nat × Option υ)} (once : (keys id entries).Nodup) :
    (listing υ).Lists id entries entries where
  size := ⟨List.length, rfl, rfl⟩
  contains := rfl
  get := by
    refine ⟨_, rfl, fun key value => ?_⟩
    simp only [id_eq, exists_eq_left]
    constructor
    · intro found
      obtain ⟨⟨key', _⟩, first, rfl⟩ := Option.bind_eq_some_iff.mp found
      have same : key' = key := by simpa using List.find?_some first
      exact same ▸ List.mem_of_find?_eq_some first
    · intro present
      cases first : entries.find? fun entry => entry.1 == key with
      | none =>
          have absent := List.find?_eq_none.mp first (key, some value) present
          simp at absent
      | some entry =>
          have same : entry.1 = key := by simpa using List.find?_some first
          exact value_unique once (List.mem_of_find?_eq_some first) present same
  iterate := ⟨_, rfl, rfl⟩
  once := once

end Comparing

/-- Two maps with a key for null in common are equal, in whatever order they are reported. -/
theorem mapEqual_symm_iff_shared_null :
    let a : List (Nat × Option Nat) := [(1, none), (2, some 5), (3, some 6)]
    let b : List (Nat × Option Nat) := [(3, some 6), (1, none), (2, some 5)]
    let alike : Nat → Nat → Int := fun x y => flag (x == y)
    let compare (x y : List (Nat × Option Nat)) : Int :=
      (answer 0 (mapEqual (some (listing Nat)) (some x) (some y) (some alike)).1 {}).1
    (keys id a).Nodup ∧ (keys id b).Nodup ∧ (nullKeys id a).Perm (nullKeys id b) ∧
      compare a b = 1 ∧ compare a b = compare b a ∧ keys id a ⊆ keys id b := by
  intro a b alike compare
  have once : (keys id a).Nodup := by decide
  have once' : (keys id b).Nodup := by decide
  have nulls : (nullKeys id a).Perm (nullKeys id b) := by decide
  have symmetric (value other : Nat) (like : alike value other ≠ 0) : alike other value ≠ 0 := by
    rwa [show alike other value = alike value other from congrArg flag BEq.comm]
  have holds : compare a b = 1 := by decide +kernel
  obtain ⟨agree, included⟩ := (mapEqual_symm_iff (lists_listing once) (lists_listing once')
    symmetric {}).mpr (.inr nulls)
  exact ⟨once, once', nulls, holds, agree, included holds⟩

/-- A map whose only key has a null for its value equals every map of one entry, but not the other
way round. -/
theorem not_mapEqual_symm :
    ¬ ∀ (table : MapTable (List (Nat × Option Nat)) Nat Nat)
        (a b left right : List (Nat × Option Nat)) (alike : Nat → Nat → Int) (machine : Machine),
      table.Lists id a left → table.Lists id b right →
        (∀ value other, alike value other = alike other value) →
        let compare (x y : List (Nat × Option Nat)) : Int :=
          (answer 0 (mapEqual (some table) (some x) (some y) (some alike)).1 machine).1
        compare a b = compare b a ∧ (compare a b = 1 → keys id left ⊆ keys id right) := by
  intro claimed
  have asked := claimed (listing Nat) [(1, none)] [(2, some 5)] _ _
    (fun x y => flag (x == y)) {} (lists_listing (by decide)) (lists_listing (by decide))
    (fun value other => congrArg flag BEq.comm)
  revert asked
  decide +kernel

end Underlay.Boundary
