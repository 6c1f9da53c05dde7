/-!
Things by their names. A name that is given again means the newer thing.
-/

namespace Underlay

abbrev Names (α : Type) := List (String × α)

namespace Names

variable {α : Type}

def get? (names : Names α) (name : String) : Option α :=
  (List.find? (fun entry => entry.1 == name) names).map Prod.snd

def erase (names : Names α) (name : String) : Names α :=
  List.filter (fun entry => entry.1 != name) names

def set (names : Names α) (name : String) (a : α) : Names α :=
  (name, a) :: names.erase name

@[simp]
theorem get?_set_self (names : Names α) (name : String) (a : α) :
    (names.set name a).get? name = some a := by
  simp [get?, set]

theorem get?_set_of_ne (names : Names α) {name other : String} (a : α) (distinct : other ≠ name) :
    (names.set name a).get? other = names.get? other := by
  simp only [get?, set, erase]
  congr 1
  rw [List.find?_cons_of_neg (by simpa using Ne.symm distinct), List.find?_filter]
  congr 1
  funext entry
  by_cases same : entry.1 = other
  · simp [same, distinct]
  · simp [same]

end Names

end Underlay
