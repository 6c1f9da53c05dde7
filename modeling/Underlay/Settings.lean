import Underlay.Observer
import Underlay.Text.Blank

/-!
Settings: the tracking level and the capacity of pools that are opened without one. Each may come
from a text of the environment. Texts that say nothing known mean the default.
-/

namespace Underlay

/-- The level that a text asks for; case and white space around it do not matter. -/
def Tracking.ofText (text : String) : Tracking :=
  match String.ofList ((Text.trim text.toList).map Text.lower) with
  | "stats" | "count" | "counters" | "1" | "on" => .stats
  | "trace" | "log" | "full" | "2" => .trace
  | _ => .off

namespace PoolCapacity

/-- The capacity of a pool when nothing else is said. -/
def default : Nat := 4096

/-- Zero and the greatest size are not capacities that can be set: they stand for the default. -/
def accept (capacity : Nat) : Nat :=
  if capacity = 0 ∨ capacity = Word.limit - 1 then default else capacity

/-- The capacity that a text asks for. -/
def ofText (text : String) : Nat :=
  match (Text.numeral? (Text.trim text.toList)).bind Word.fit? with
  | some capacity => accept capacity
  | none => default

theorem default_ne : default ≠ 0 ∧ default ≠ Word.limit - 1 := by
  decide

theorem accept_ne (capacity : Nat) : accept capacity ≠ 0 ∧ accept capacity ≠ Word.limit - 1 := by
  unfold accept
  split
  · exact default_ne
  · rename_i other
    exact not_or.mp other

theorem ofText_ne (text : String) : ofText text ≠ 0 ∧ ofText text ≠ Word.limit - 1 := by
  unfold ofText
  split
  · exact accept_ne _
  · exact default_ne

end PoolCapacity

structure Settings where
  tracking : Tracking := .off
  poolCapacity : Nat := PoolCapacity.default
deriving DecidableEq, Repr, Inhabited

end Underlay
