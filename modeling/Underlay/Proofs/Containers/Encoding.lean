import Underlay.Container.Mapping
import Underlay.Container.Sequence

/-!
# Operations on containers commute with encodings

A container of encoded elements has an encoded element wherever the container itself has one, and
is empty at the same positions. Every operation then makes the calls of the original operation,
with their arguments encoded, and its result is the encoded result. The loops are followed position
by position; an encoding is only asked about positions of the container.
-/

namespace Underlay

namespace Sequence

variable {α ε : Type}

/-- A call with its elements encoded. -/
def Call.map (encode : α → ε) : Call α → Call ε
  | .size => .size
  | .at index => .at index
  | .equal left right => .equal (encode left) (encode right)
  | .visit index element => .visit index (encode element)

/-- The sequence `t` holds the encoded elements of `s`. -/
structure Encodes (encode : α → ε) (s : Sequence α) (t : Sequence ε) : Prop where
  typeName : t.typeName = s.typeName
  size : t.size = s.size
  at? : ∀ index < s.size, t.at? index = (s.at? index).map encode

namespace Encodes

variable {encode : α → ε} {s s' : Sequence α} {t t' : Sequence ε}

theorem element (encodes : Encodes encode s t) (index : Int) :
    t.element index =
      ((s.element index).1.map encode, (s.element index).2.map (Call.map encode)) := by
  unfold Sequence.element emptyAt
  rw [encodes.size, encodes.typeName]
  cases found : resolveIndex index s.size with
  | error failure => rfl
  | ok position =>
      simp only [encodes.at? position (resolveIndex_lt found)]
      cases s.at? position <;> rfl

section Comparing

variable {same : α → α → Bool} {alike : ε → ε → Bool}
  (compares : ∀ x y, alike (encode x) (encode y) = same x y)

include compares

theorem search (encodes : Encodes encode s t) (target : α) {index count : Nat}
    (inside : index + count ≤ s.size) :
    t.search alike (encode target) index count =
      ((s.search same target index count).1,
        (s.search same target index count).2.map (Call.map encode)) := by
  induction count generalizing index with
  | zero => rfl
  | succ count inductionHypothesis =>
      have later := @inductionHypothesis (index + 1) (by omega)
      simp only [Sequence.search, encodes.at? index (by omega), later]
      cases s.at? index with
      | none => rfl
      | some e =>
          simp only [Option.map_some, compares]
          cases same e target <;> rfl

theorem contains (encodes : Encodes encode s t) (target : α) :
    t.contains alike (encode target) =
      ((s.contains same target).1, (s.contains same target).2.map (Call.map encode)) := by
  unfold Sequence.contains
  rw [encodes.size, encodes.search compares target (Nat.le_of_eq (Nat.zero_add s.size))]
  rfl

theorem agree (encodes : Encodes encode s t) (encodes' : Encodes encode s' t') {index count : Nat}
    (inside : index + count ≤ s.size) (inside' : index + count ≤ s'.size) :
    t.agree t' alike index count =
      ((s.agree s' same index count).1,
        (s.agree s' same index count).2.map (Call.map encode)) := by
  induction count generalizing index with
  | zero => rfl
  | succ count inductionHypothesis =>
      have later := @inductionHypothesis (index + 1) (by omega) (by omega)
      simp only [Sequence.agree, encodes.at? index (by omega), encodes'.at? index (by omega), later]
      cases s.at? index with
      | none => cases s'.at? index <;> rfl
      | some x =>
          cases s'.at? index with
          | none => rfl
          | some y =>
              simp only [Option.map_some, compares]
              cases same x y <;> rfl

theorem equal (encodes : Encodes encode s t) (encodes' : Encodes encode s' t') :
    t.equal t' alike =
      ((s.equal s' same).1, (s.equal s' same).2.map (Call.map encode)) := by
  unfold Sequence.equal
  rw [encodes.size, encodes'.size]
  split
  · rename_i sizes
    rw [encodes.agree compares encodes' (by omega) (by omega)]
    rfl
  · rfl

end Comparing

theorem visitAll (encodes : Encodes encode s t) {index count : Nat}
    (inside : index + count ≤ s.size) :
    t.visitAll index count =
      ((s.visitAll index count).1.map fun entry => (entry.1, encode entry.2),
        (s.visitAll index count).2.map (Call.map encode)) := by
  induction count generalizing index with
  | zero => rfl
  | succ count inductionHypothesis =>
      have later := @inductionHypothesis (index + 1) (by omega)
      simp only [Sequence.visitAll, encodes.at? index (by omega), later]
      cases s.at? index <;> rfl

theorem enumerate (encodes : Encodes encode s t) :
    t.enumerate =
      (s.enumerate.1.map fun entry => (entry.1, encode entry.2),
        s.enumerate.2.map (Call.map encode)) := by
  unfold Sequence.enumerate
  rw [encodes.size, encodes.visitAll (Nat.le_of_eq (Nat.zero_add s.size))]
  rfl

end Encodes

end Sequence

namespace Mapping

variable {κ κ' υ υ' : Type}

/-- A call with its keys and values encoded. -/
def Call.map (key : κ → κ') (value : υ → υ') : Call κ υ → Call κ' υ'
  | .size => .size
  | .contains k => .contains (key k)
  | .get k => .get (key k)
  | .iterate => .iterate
  | .equal left right => .equal (value left) (value right)
  | .visit k v => .visit (key k) (value v)

/-- The mapping `n` contains the encoded keys of `m` and tells of them what `m` does. -/
structure Encodes (key : κ → κ') (m : Mapping κ υ) (n : Mapping κ' υ') : Prop where
  typeName : n.typeName = m.typeName
  contains : ∀ k, n.contains (key k) = m.contains k
  describe : ∀ k, n.describe (key k) = m.describe k

/-- A contained key leads to the encoded value, or in both mappings to none. -/
theorem Encodes.lookup {key : κ → κ'} {m : Mapping κ υ} {n : Mapping κ' υ'}
    (encodes : Encodes key m n) {value : υ → υ'}
    (get? : ∀ k, m.contains k → n.get? (key k) = (m.get? k).map value) (k : κ) :
    n.lookup (key k) = ((m.lookup k).1.map value, (m.lookup k).2.map (Call.map key value)) := by
  unfold Mapping.lookup missing
  rw [encodes.contains, encodes.describe, encodes.typeName]
  split
  · rename_i contained
    rw [get? k contained]
    cases m.get? k <;> rfl
  · rfl

end Mapping

end Underlay
