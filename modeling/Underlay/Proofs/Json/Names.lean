import Underlay.Json.Reader
import Underlay.Proofs.Containers.Extensionality

/-!
# Names of members

Reading puts the members of an object into a dictionary, so no two of them have one name. What is
looked up under a name in such an object is all that there is under it.
-/

namespace Underlay.Json

/-- The value is an object with a member of this name. -/
def Has (json : Json) (name : String) (member : Json) : Prop :=
  ∃ members, json = .object members ∧ (name, member) ∈ members

/-- If the value is an object, no two of its members have one name. -/
def Distinct (json : Json) : Prop :=
  ∀ members, json = .object members → (members.map Prod.fst).Nodup

section Lookup

variable {json : Json} (distinct : json.Distinct)

include distinct

theorem get?_eq_some_iff (name : String) (member : Json) :
    json.get? name = some member ↔ json.Has name member := by
  cases json with
  | object members =>
      have tests (other : String) : (other == name) = true ↔ other = name := beq_iff_eq
      have found := Mapping.find?_eq_some_of_once (distinct members rfl) tests member
      refine found.trans ⟨fun there => ⟨members, rfl, there⟩, ?_⟩
      rintro ⟨_, ⟨⟩, there⟩
      exact there
  | _ => simp [get?, Has]

theorem Distinct.unique {name : String} {member other : Json} (there : json.Has name member)
    (also : json.Has name other) : member = other := by
  have found := (get?_eq_some_iff distinct name member).mpr there
  exact Option.some.inj (found.symm.trans ((get?_eq_some_iff distinct name other).mpr also))

theorem get?_eq_none_iff (name : String) :
    json.get? name = none ↔ ∀ member, ¬ json.Has name member := by
  simp only [Option.eq_none_iff_forall_ne_some, ne_eq, get?_eq_some_iff distinct]

end Lookup

namespace Reader

section Numerals

variable {negative : Bool} {significand : Nat} {power : Int} {text rest : List Char} {json : Json}

theorem isObject_of_scaled (read : scaled negative significand power text = .ok (json, rest)) :
    json.isObject = false := by
  rw [scaled] at read
  split at read <;> cases read
  rfl

theorem isObject_of_exponent (read : exponent negative significand power text = .ok (json, rest)) :
    json.isObject = false := by
  unfold exponent at read
  split at read
  split at read
  · cases read
  · split at read
    · simp only at read
      split at read
      · exact isObject_of_scaled read
      · split at read <;> cases read
        rfl
    · cases read

theorem isObject_of_numeralEnd
    (read : numeralEnd negative significand power text = .ok (json, rest)) :
    json.isObject = false := by
  unfold numeralEnd at read
  split at read
  · exact isObject_of_exponent read
  · exact isObject_of_exponent read
  · exact isObject_of_scaled read

theorem isObject_of_fraction (read : fraction negative significand power text = .ok (json, rest)) :
    json.isObject = false := by
  simp only [fraction] at read
  split at read
  · cases read
  · exact isObject_of_numeralEnd read

theorem isObject_of_numeral (read : numeral negative text = .ok (json, rest)) :
    json.isObject = false := by
  unfold numeral at read
  split at read
  · cases read
  · simp only at read
    split at read
    · cases read
    · split at read
      · exact isObject_of_fraction read
      · exact isObject_of_numeralEnd read
      · exact isObject_of_numeralEnd read
      · split at read
        · exact isObject_of_scaled read
        · split at read
          · cases read
            rfl
          · split at read
            · cases read
              rfl
            · exact isObject_of_scaled read

end Numerals

section Parts

variable {α β : Type}

theorem bind_eq_ok_iff {x : Except Fault α} {f : α → Except Fault β} {b : β} :
    x >>= f = .ok b ↔ ∃ a, x = .ok a ∧ f a = .ok b := by
  cases x <;> simp [bind, Except.bind]

theorem map_eq_ok_iff {x : Except Fault α} {f : α → β} {b : β} :
    x.map f = .ok b ↔ ∃ a, x = .ok a ∧ f a = b := by
  cases x <;> simp [Except.map]

end Parts

/-- Members are put into a dictionary one by one. -/
theorem ordered_members {fuel depth : Nat} {before after : Dict String Json}
    {text rest : List Char} (ordered : Dict.Ordered before.entries)
    (read : members fuel depth before text = .ok (after, rest)) : Dict.Ordered after.entries := by
  induction fuel generalizing before text with
  | zero => cases read
  | succ fuel inductionHypothesis =>
      obtain ⟨⟨name, behind⟩, -, read⟩ := bind_eq_ok_iff.mp read
      obtain ⟨behind, -, read⟩ := bind_eq_ok_iff.mp read
      obtain ⟨⟨member, behind⟩, -, read⟩ := bind_eq_ok_iff.mp read
      obtain ⟨further, -, read⟩ := bind_eq_ok_iff.mp read
      have inserted : Dict.Ordered (before.insert name member).entries :=
        Dict.ordered_insertInto ordered name member
      cases further with
      | none =>
          cases read
          exact inserted
      | some text => exact inductionHypothesis inserted read

theorem distinct_of_isObject {json : Json} (other : json.isObject = false) : json.Distinct := by
  rintro _ rfl
  cases other

theorem distinct_of_value {fuel depth : Nat} {text rest : List Char} {json : Json}
    (read : value fuel depth text = .ok (json, rest)) : json.Distinct := by
  cases fuel with
  | zero => cases read
  | succ fuel =>
      rw [value] at read
      split at read
      case h_1 => cases read
      case h_2 | h_3 | h_4 | h_5 =>
        obtain ⟨_, -, ⟨⟩⟩ := map_eq_ok_iff.mp read
        exact distinct_of_isObject rfl
      case h_6 => exact distinct_of_isObject (isObject_of_numeral read)
      case h_7 =>
        split at read
        · cases read
        · obtain ⟨_ | text, -, read⟩ := bind_eq_ok_iff.mp read
          · cases read
            exact distinct_of_isObject rfl
          · obtain ⟨_, -, ⟨⟩⟩ := bind_eq_ok_iff.mp read
            exact distinct_of_isObject rfl
      case h_8 =>
        split at read
        · cases read
        · obtain ⟨_ | text, -, read⟩ := bind_eq_ok_iff.mp read
          · cases read
            rintro _ ⟨⟩
            exact List.nodup_nil
          · obtain ⟨⟨listed, _⟩, found, ⟨⟩⟩ := bind_eq_ok_iff.mp read
            rintro _ ⟨⟩
            exact (ordered_members .nil found).nodup
      case h_9 =>
        split at read
        · exact distinct_of_isObject (isObject_of_numeral read)
        · cases read

end Reader

/-- No two members of an object that was read have one name. -/
theorem distinct_of_parse {text : String} {json : Json} (read : parse .any text = .ok json) :
    json.Distinct := by
  obtain ⟨⟨found, rest⟩, whole, read⟩ := Reader.bind_eq_ok_iff.mp read
  rw [Reader.shaped] at whole
  dsimp only at read
  split at read <;> cases read
  exact Reader.distinct_of_value whole

end Underlay.Json
