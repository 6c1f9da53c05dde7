/-!
Sets of numbers given by ascending bounds: alternately the first number inside and the first number
outside. A number is inside exactly if an odd number of bounds are not past it.
-/

namespace Underlay.Text

/-- How many bounds are not past `n`, among those from `low` to `high`, found by halving. -/
def boundsUpTo (bounds : Array Nat) (n : Nat) : Nat → Nat → Nat → Nat
  | 0, low, _ => low
  | fuel + 1, low, high =>
      if low < high then
        let middle := (low + high) / 2
        if bounds.getD middle 0 ≤ n then
          boundsUpTo bounds n fuel (middle + 1) high
        else
          boundsUpTo bounds n fuel low middle
      else
        low

def within (bounds : Array Nat) (n : Nat) : Bool :=
  boundsUpTo bounds n bounds.size 0 bounds.size % 2 == 1

end Underlay.Text
