import Underlay.Memory.Bytes
import Underlay.Word

/-!
Memory that a program reserves for itself. There is no room for a vector of more bytes than a
pointer can span, nor for one that the system refuses. Most parts do not ask first, and then a
vector without room ends the program where it stands.
-/

namespace Underlay

/-- How far a program comes. -/
inductive Course (α : Type) where
  | reached (a : α)
  /-- There was no room for what it had to reserve. -/
  | aborted
deriving DecidableEq, Repr, Inhabited

namespace System

/-- Whether a vector of so many bytes can be reserved. An empty one needs no room. -/
def reserves (system : System) (bytes : Nat) : Bool :=
  bytes == 0 || (decide ((bytes : Int) ≤ Word.greatest) && system.grants bytes)

/-- What is reached once a vector of so many bytes is reserved. -/
def reserving {α : Type} (system : System) (bytes : Nat) (a : α) : Course α :=
  if system.reserves bytes then .reached a else .aborted

/-- The sizes of a vector that grows one by one to `count` elements of `unit` bytes: it begins with
room for four and doubles whenever there is none left. -/
def growing (unit count : Nat) : List Nat :=
  ((List.range 64).filter fun turn => 0 < count ∧ (turn = 0 ∨ 2 <<< turn < count)).map
    fun turn => unit * (4 <<< turn)

variable {α : Type} {system : System} {bytes : Nat} {a : α}

theorem reserving_of_reserves (reserved : system.reserves bytes = true) :
    system.reserving bytes a = .reached a :=
  if_pos reserved

theorem reserving_of_not_reserves (refused : system.reserves bytes = false) :
    system.reserving bytes a = .aborted :=
  if_neg (Bool.not_eq_true _ ▸ refused)

theorem reserves_zero (system : System) : system.reserves 0 = true := rfl

theorem not_reserves_of_greatest_lt (beyond : Word.greatest < bytes) :
    system.reserves bytes = false := by
  have positive : bytes ≠ 0 := by
    rintro rfl
    exact absurd beyond (by decide)
  simp [reserves, positive, Int.not_le.mpr beyond]

end System

example : System.growing 8 5 = [32, 64] := by decide

end Underlay
