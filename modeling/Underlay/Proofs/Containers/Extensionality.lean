import Mathlib.Data.List.Nodup
import Mathlib.Data.List.Perm.Subperm
import Underlay.Container.Dict

/-!
# Equality of mappings is extensional

A mapping is faithful if iteration meets every key once, lookup finds what iteration meets, and the
size is the number of entries. Comparing two mappings visits the keys of the one only; that the
other has no further key follows from the sizes, for a list without repetition that lies in another
of the same length is a permutation of it. Keys are told apart by what they stand for, so that two
pointers may be the same key.
-/

namespace Underlay

namespace Mapping

section Reports

variable {κ υ ι : Type}

/-- What the keys stand for that iteration meets, in its order. -/
def keys (m : Mapping κ υ) (name : κ → ι) : List ι :=
  m.entries.map fun entry => name entry.1

/-- Iteration meets every key once, lookup finds what iteration meets, and the size counts it. -/
structure Faithful (m : Mapping κ υ) (name : κ → ι) : Prop where
  once : (m.keys name).Nodup
  lookup : ∀ key value, m.get? key = some value ↔
    ∃ key', name key' = name key ∧ (key', value) ∈ m.entries
  size : m.size = m.entries.length

/-- A comparison of two values under a key. -/
structure Compared (κ υ : Type) where
  key : κ
  left : υ
  right : υ

/-- The values that were compared, in the order of the calls. -/
def comparisons (calls : List (Call κ υ)) : List (υ × υ) :=
  calls.filterMap fun
    | .equal left right => some (left, right)
    | _ => none

/-- The comparisons follow the entries from the front, each with the value that is found under its
key, and none follows one that fails. -/
structure Frugal (n : Mapping κ υ) (alike : υ → υ → Bool) (entries : List (κ × υ))
    (compared : List (Compared κ υ)) : Prop where
  front : (compared.map fun c => (c.key, c.left)) <+: entries
  found : ∀ c ∈ compared, n.get? c.key = some c.right
  stops : compared.Pairwise fun earlier _ => alike earlier.left earlier.right = true

end Reports

section Faithful

variable {κ υ ι : Type} {name : κ → ι} {m n : Mapping κ υ} {alike : υ → υ → Bool}

theorem mem_keys {key : ι} :
    key ∈ m.keys name ↔ ∃ k value, name k = key ∧ (k, value) ∈ m.entries := by
  simp only [keys, List.mem_map, Prod.exists]
  constructor
  · rintro ⟨k, value, present, rfl⟩
    exact ⟨k, value, rfl, present⟩
  · rintro ⟨k, value, rfl, present⟩
    exact ⟨k, value, present, rfl⟩

theorem length_keys (m : Mapping κ υ) (name : κ → ι) : (m.keys name).length = m.entries.length :=
  List.length_map _

namespace Faithful

theorem get?_of_mem (faithful : m.Faithful name) {key : κ} {value : υ}
    (present : (key, value) ∈ m.entries) : m.get? key = some value :=
  (faithful.lookup key value).mpr ⟨key, rfl, present⟩

/-- Keys that stand for the same have the same value. -/
theorem get?_congr (faithful : m.Faithful name) {key key' : κ} (same : name key = name key') :
    m.get? key = m.get? key' := by
  ext value
  rw [faithful.lookup, faithful.lookup, same]

theorem exists_get?_of_mem_keys (faithful : m.Faithful name) {key : κ}
    (present : name key ∈ m.keys name) : ∃ value, m.get? key = some value := by
  obtain ⟨k, value, same, entered⟩ := mem_keys.mp present
  exact ⟨value, (faithful.lookup key value).mpr ⟨k, same, entered⟩⟩

/-- If every key is found in a mapping of the same size, that has no further key. -/
theorem keys_perm (faithful : m.Faithful name) (faithful' : n.Faithful name)
    (sizes : m.entries.length = n.entries.length)
    (every : ∀ key value, (key, value) ∈ m.entries → ∃ other, n.get? key = some other) :
    (m.keys name).Perm (n.keys name) := by
  have included : m.keys name ⊆ n.keys name := by
    intro key present
    obtain ⟨k, value, rfl, entered⟩ := mem_keys.mp present
    obtain ⟨other, found⟩ := every k value entered
    obtain ⟨k', same, entered'⟩ := (faithful'.lookup k other).mp found
    exact mem_keys.mpr ⟨k', other, same, entered'⟩
  apply (List.subperm_of_subset faithful.once included).perm_of_length_le
  rw [length_keys, length_keys]
  exact Nat.le_of_eq sizes.symm

/-- Two mappings are equal if they have the same keys and equal values under them. -/
theorem equal_iff (faithful : m.Faithful name) (faithful' : n.Faithful name) :
    (m.equal n alike).1 = true ↔
      (∀ key, key ∈ m.keys name ↔ key ∈ n.keys name) ∧
        ∀ key x y, m.get? key = some x → n.get? key = some y → alike x y = true := by
  rw [Mapping.equal_eq_true, faithful.size, faithful'.size]
  constructor
  · rintro ⟨sizes, every⟩
    have all := faithful.keys_perm faithful' sizes fun key value entered =>
      (every key value entered).imp fun _ => And.left
    refine ⟨fun key => all.mem_iff, ?_⟩
    intro key x y valued valued'
    obtain ⟨k, same, entered⟩ := (faithful.lookup key x).mp valued
    obtain ⟨other, found, like⟩ := every k x entered
    rw [faithful'.get?_congr same, valued', Option.some.injEq] at found
    rwa [found]
  · rintro ⟨same, agree⟩
    have all : (m.keys name).Perm (n.keys name) :=
      (List.perm_ext_iff_of_nodup faithful.once faithful'.once).mpr same
    refine ⟨?_, ?_⟩
    · rw [← length_keys m name, ← length_keys n name, all.length_eq]
    · intro key value entered
      have present : name key ∈ n.keys name :=
        (same (name key)).mp (mem_keys.mpr ⟨key, value, rfl, entered⟩)
      obtain ⟨other, found⟩ := faithful'.exists_get?_of_mem_keys present
      exact ⟨other, found, agree key value other (faithful.get?_of_mem entered) found⟩

/-- Another order of iteration is as faithful. -/
theorem reordered (faithful : m.Faithful name) {order : List (κ × υ)}
    (permuted : order.Perm m.entries) :
    ({ m with entries := order } : Mapping κ υ).Faithful name where
  once := (permuted.map _).nodup_iff.mpr faithful.once
  lookup key value := by
    simp only [faithful.lookup, permuted.mem_iff]
  size := by
    rw [permuted.length_eq]
    exact faithful.size

theorem equal_reordered (faithful : m.Faithful name) (faithful' : n.Faithful name)
    {order : List (κ × υ)} (permuted : order.Perm m.entries) :
    (({ m with entries := order } : Mapping κ υ).equal n alike).1 = (m.equal n alike).1 := by
  have listed (key : ι) :
      key ∈ ({ m with entries := order } : Mapping κ υ).keys name ↔ key ∈ m.keys name :=
    (permuted.map _).mem_iff
  rw [Bool.eq_iff_iff, (faithful.reordered permuted).equal_iff faithful',
    faithful.equal_iff faithful']
  simp only [listed]

theorem equal_flip (faithful : m.Faithful name) (faithful' : n.Faithful name) :
    (m.equal n alike).1 = (n.equal m fun x y => alike y x).1 := by
  rw [Bool.eq_iff_iff, faithful.equal_iff faithful', faithful'.equal_iff faithful]
  constructor <;> rintro ⟨same, agree⟩ <;>
    exact ⟨fun key => (same key).symm, fun key x y valued valued' => agree key y x valued' valued⟩

end Faithful

theorem frugal_nil (n : Mapping κ υ) (alike : υ → υ → Bool) (entries : List (κ × υ)) :
    n.Frugal alike entries [] :=
  ⟨List.nil_prefix, by simp, .nil⟩

/-- Agreement compares along the entries, up to the first that fails or is not found. -/
theorem frugal_agree (n : Mapping κ υ) (alike : υ → υ → Bool) (entries : List (κ × υ)) :
    ∃ compared, comparisons (n.agree alike entries).2 =
        compared.map (fun c => (c.left, c.right)) ∧ n.Frugal alike entries compared := by
  induction entries with
  | nil => exact ⟨[], rfl, n.frugal_nil alike []⟩
  | cons entry rest inductionHypothesis =>
      obtain ⟨key, left⟩ := entry
      obtain ⟨compared, calls, frugal⟩ := inductionHypothesis
      unfold agree
      cases found : n.get? key with
      | none => exact ⟨[], rfl, n.frugal_nil alike _⟩
      | some right =>
          let first : Compared κ υ := { key, left, right }
          by_cases like : alike left right = true
          · refine ⟨first :: compared, ?_, ?_, ?_, ?_⟩
            · simp only [like, if_true]
              exact congrArg ((left, right) :: ·) calls
            · exact List.cons_prefix_cons.mpr ⟨rfl, frugal.front⟩
            · exact List.forall_mem_cons.mpr ⟨found, frugal.found⟩
            · exact List.pairwise_cons.mpr ⟨fun _ _ => like, frugal.stops⟩
          · refine ⟨[first], ?_, ?_, ?_, List.pairwise_singleton _ _⟩
            · simp only [like, Bool.false_eq_true, if_false]
              rfl
            · exact List.cons_prefix_cons.mpr ⟨rfl, List.nil_prefix⟩
            · exact List.forall_mem_singleton.mpr found

theorem frugal_equal (m n : Mapping κ υ) (alike : υ → υ → Bool) :
    ∃ compared, comparisons (m.equal n alike).2 =
        compared.map (fun c => (c.left, c.right)) ∧ n.Frugal alike m.entries compared := by
  unfold Mapping.equal
  split
  · exact n.frugal_agree alike m.entries
  · exact ⟨[], rfl, n.frugal_nil alike _⟩

/-- No key is compared twice. -/
theorem Frugal.once {compared : List (Compared κ υ)} (frugal : n.Frugal alike m.entries compared)
    (faithful : m.Faithful name) : (compared.map fun c => name c.key).Nodup := by
  have listed : (compared.map fun c => name c.key).Sublist (m.keys name) := by
    have front := (frugal.front.sublist).map fun entry : κ × υ => name entry.1
    rwa [List.map_map] at front
  exact faithful.once.sublist listed

end Faithful

/-! Containers that are faithful. -/

section Containers

variable {κ υ : Type}

/-- Among entries with distinct keys the first that is found is the only one. -/
theorem find?_eq_some_of_once {entries : List (κ × υ)} (once : (entries.map Prod.fst).Nodup)
    {key : κ} {test : κ → Bool} (tests : ∀ other, test other = true ↔ other = key) (value : υ) :
    (entries.find? fun entry => test entry.1).map Prod.snd = some value ↔
      (key, value) ∈ entries := by
  rw [Option.map_eq_some_iff]
  constructor
  · rintro ⟨⟨other, _⟩, first, rfl⟩
    have hit := List.find?_some first
    obtain rfl : other = key := (tests other).mp hit
    exact List.mem_of_find?_eq_some first
  · intro present
    cases first : entries.find? fun entry => test entry.1 with
    | none =>
        have absent := List.find?_eq_none.mp first (key, value) present
        exact absurd ((tests key).mpr rfl) absent
    | some entry =>
        have hit := List.find?_some first
        have same : entry.1 = key := (tests entry.1).mp hit
        have only := List.inj_on_of_nodup_map once (List.mem_of_find?_eq_some first) present same
        exact ⟨entry, rfl, by rw [only]⟩

/-- A table without a repeated key is faithful. -/
theorem faithful_table [BEq κ] [LawfulBEq κ] {entries : List (κ × υ)}
    (once : (entries.map Prod.fst).Nodup) (typeName : String) (phantom : List κ)
    (describe : κ → String) : (table typeName entries phantom describe).Faithful id where
  once := once
  lookup key value := by
    simp only [id_eq, exists_eq_left]
    exact find?_eq_some_of_once once (fun _ => beq_iff_eq) value
  size := rfl

end Containers

end Mapping

namespace Dict

variable {κ υ : Type} [Ord κ]

/-- Every entry has a lesser key than those behind it. -/
def Ordered (entries : List (κ × υ)) : Prop :=
  entries.Pairwise fun earlier later => compare earlier.1 later.1 = .lt

theorem mem_insertInto {key : κ} {value : υ} {entries : List (κ × υ)} {entry : κ × υ}
    (present : entry ∈ insertInto key value entries) :
    entry = (key, value) ∨ entry ∈ entries := by
  fun_induction insertInto key value entries with
  | case1 => exact .inl (List.mem_singleton.mp present)
  | case2 first rest before =>
      rcases List.mem_cons.mp present with new | old
      · exact .inl new
      · exact .inr old
  | case3 first rest same =>
      rcases List.mem_cons.mp present with new | old
      · exact .inl new
      · exact .inr (List.mem_cons_of_mem first old)
  | case4 first rest behind inductionHypothesis =>
      rcases List.mem_cons.mp present with rfl | later
      · exact .inr List.mem_cons_self
      · exact (inductionHypothesis later).imp_right (List.mem_cons_of_mem first)

theorem Ordered.nodup [Std.ReflOrd κ] {entries : List (κ × υ)} (ordered : Ordered entries) :
    (entries.map Prod.fst).Nodup := by
  apply List.pairwise_map.mpr
  apply ordered.imp
  intro earlier later before same
  rw [same, Std.compare_self] at before
  cases before

variable [Std.TransOrd κ] [Std.LawfulEqOrd κ]

theorem ordered_insertInto {entries : List (κ × υ)} (ordered : Ordered entries) (key : κ)
    (value : υ) : Ordered (insertInto key value entries) := by
  fun_induction insertInto key value entries with
  | case1 => exact List.pairwise_singleton _ _
  | case2 first rest before =>
      refine List.pairwise_cons.mpr ⟨?_, ordered⟩
      rintro entry (_ | ⟨_, later⟩)
      · exact before
      · exact Std.TransCmp.lt_trans before (List.rel_of_pairwise_cons ordered later)
  | case3 first rest same =>
      obtain rfl := Std.compare_eq_iff_eq.mp same
      exact List.pairwise_cons.mpr (List.pairwise_cons.mp ordered)
  | case4 first rest behind inductionHypothesis =>
      refine List.pairwise_cons.mpr ⟨?_, inductionHypothesis ordered.of_cons⟩
      intro entry present
      rcases mem_insertInto present with rfl | later
      · exact Std.OrientedCmp.lt_of_gt behind
      · exact List.rel_of_pairwise_cons ordered later

theorem ordered_ofList (entries : List (κ × υ)) : Ordered (ofList entries).entries := by
  unfold ofList
  have start : Ordered ({} : Dict κ υ).entries := .nil
  generalize ({} : Dict κ υ) = d at start
  induction entries generalizing d with
  | nil => exact start
  | cons entry rest inductionHypothesis =>
      exact inductionHypothesis _ (ordered_insertInto start entry.1 entry.2)

/-- A dictionary is faithful, whatever was put into it. -/
theorem faithful_mapping (entries : List (κ × υ)) (describe : κ → String) :
    ((ofList entries).mapping describe).Faithful id := by
  have once := (ordered_ofList entries).nodup
  refine ⟨once, fun key value => ?_, rfl⟩
  have tests (other : κ) : (compare key other == .eq) = true ↔ other = key := by
    rw [beq_iff_eq, Std.compare_eq_iff_eq]
    exact eq_comm
  simp only [id_eq, exists_eq_left]
  exact Mapping.find?_eq_some_of_once once tests value

end Dict

namespace Mapping

/-- Faithful mappings are equal exactly if they have the same keys and equal values under each. The
order of iteration does not matter, nor which mapping is visited if the comparison of values is
turned round. Values are compared at most once for each key and never behind a comparison that
fails or a key that is not found. -/
theorem equal_extensional {κ υ ι : Type} {name : κ → ι} {m n : Mapping κ υ}
    (faithful : m.Faithful name) (faithful' : n.Faithful name) (alike : υ → υ → Bool) :
    ((m.equal n alike).1 = true ↔
      (∀ key, key ∈ m.keys name ↔ key ∈ n.keys name) ∧
        ∀ key x y, m.get? key = some x → n.get? key = some y → alike x y = true) ∧
    (∀ order : List (κ × υ), order.Perm m.entries →
      (({ m with entries := order } : Mapping κ υ).equal n alike).1 = (m.equal n alike).1) ∧
    (m.equal n alike).1 = (n.equal m fun x y => alike y x).1 ∧
    ∃ compared : List (Compared κ υ),
      comparisons (m.equal n alike).2 = compared.map (fun c => (c.left, c.right)) ∧
      (compared.map fun c => name c.key).Nodup ∧
      n.Frugal alike m.entries compared := by
  obtain ⟨compared, calls, frugal⟩ := m.frugal_equal n alike
  exact ⟨faithful.equal_iff faithful',
    fun _ permuted => faithful.equal_reordered faithful' permuted,
    faithful.equal_flip faithful', compared, calls, frugal.once faithful, frugal⟩

/-- A dictionary in which one key was put twice, and a table that lists its keys the other way
round, under a comparison that holds in one direction only. -/
theorem equal_extensional_tenfold :
    let m := (Dict.ofList [(2, 5), (1, 7), (2, 6)]).mapping toString
    let n : Mapping Nat Nat := table "table" [(2, 60), (1, 70)] [3] toString
    let tenfold : Nat → Nat → Bool := fun x y => 10 * x == y
    m.Faithful id ∧ n.Faithful id ∧
      (m.equal n tenfold).1 = true ∧ (n.equal m tenfold).1 = false ∧
      (n.equal m fun x y => tenfold y x).1 = true ∧
      (({ m with entries := m.entries.reverse } : Mapping Nat Nat).equal n tenfold).1 = true ∧
      ∀ key : Nat, key ∈ m.keys id ↔ key ∈ n.keys id := by
  intro m n tenfold
  have faithful : m.Faithful id := Dict.faithful_mapping _ _
  have faithful' : n.Faithful id := faithful_table (by decide) _ _ _
  have holds : (m.equal n tenfold).1 = true := by decide +kernel
  obtain ⟨equal_iff, reordered, flipped, -⟩ := equal_extensional faithful faithful' tenfold
  refine ⟨faithful, faithful', holds, by decide +kernel, ?_, ?_, (equal_iff.mp holds).1⟩
  · rw [← flipped]
    exact holds
  · rw [reordered _ (List.reverse_perm _)]
    exact holds

end Mapping

end Underlay
