import Underlay.Container.Sequence

/-!
# What the calls of an operation tell

An operation that stops early goes along a list through the first member that makes it stop, and
no further. Which positions it looked up, what it compared and what it visited are read off its
calls, in their order.
-/

namespace Underlay

/-- A list through its first member that passes the test; all of the list if none does. -/
def throughFirst {α : Type} (test : α → Bool) (list : List α) : List α :=
  list.take (list.findIdx test + 1)

section Front

variable {α : Type} (test : α → Bool)

@[simp]
theorem throughFirst_nil : throughFirst test [] = [] := rfl

theorem throughFirst_cons_of_pos {a : α} (passes : test a = true) (rest : List α) :
    throughFirst test (a :: rest) = [a] := by
  simp [throughFirst, List.findIdx_cons, passes]

theorem throughFirst_cons_of_neg {a : α} (fails : test a = false) (rest : List α) :
    throughFirst test (a :: rest) = a :: throughFirst test rest := by
  simp [throughFirst, List.findIdx_cons, fails]

end Front

namespace Sequence

variable {ε : Type}

/-- What was compared. -/
def comparisons (calls : List (Call ε)) : List (ε × ε) :=
  calls.filterMap fun
    | .equal left right => some (left, right)
    | _ => none

/-- What was visited, with its position. -/
def visits (calls : List (Call ε)) : List (Nat × ε) :=
  calls.filterMap fun
    | .visit index element => some (index, element)
    | _ => none

section Reading

variable (calls : List (Call ε)) (index : Nat) (left right element : ε)

@[simp]
theorem comparisons_nil : comparisons ([] : List (Call ε)) = [] := rfl

@[simp]
theorem comparisons_size : comparisons (.size :: calls) = comparisons calls := rfl

@[simp]
theorem comparisons_at : comparisons (.at index :: calls) = comparisons calls := rfl

@[simp]
theorem comparisons_equal :
    comparisons (.equal left right :: calls) = (left, right) :: comparisons calls := rfl

@[simp]
theorem visits_nil : visits ([] : List (Call ε)) = [] := rfl

@[simp]
theorem visits_size : visits (.size :: calls) = visits calls := rfl

@[simp]
theorem visits_at : visits (.at index :: calls) = visits calls := rfl

@[simp]
theorem visits_visit :
    visits (.visit index element :: calls) = (index, element) :: visits calls := rfl

end Reading

end Sequence

end Underlay
