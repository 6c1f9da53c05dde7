/-!
White space, small letters and numerals as settings are read. White space is that of Unicode;
only the letters `A` to `Z` have a small form here, and only `0` to `9` are digits.
-/

namespace Underlay.Text

def isBlank (c : Char) : Bool :=
  let n := c.toNat
  (9 ≤ n && n ≤ 13) || n == 0x20 || n == 0x85 || n == 0xA0 || n == 0x1680 ||
    (0x2000 ≤ n && n ≤ 0x200A) || n == 0x2028 || n == 0x2029 || n == 0x202F || n == 0x205F ||
    n == 0x3000

/-- The text without white space at either end. -/
def trim (text : List Char) : List Char :=
  ((text.dropWhile isBlank).reverse.dropWhile isBlank).reverse

/-- The small form of a letter from `A` to `Z`; any other character is its own. -/
def lower (c : Char) : Char :=
  if 'A' ≤ c ∧ c ≤ 'Z' then Char.ofNat (c.toNat + 32) else c

def isDigit (c : Char) : Bool :=
  decide ('0' ≤ c ∧ c ≤ '9')

def digitValue (c : Char) : Nat :=
  c.toNat - '0'.toNat

/-- The number that digits denote, read behind `acc`. -/
def number (acc : Nat) (digits : List Char) : Nat :=
  digits.foldl (fun n c => 10 * n + digitValue c) acc

/-- A numeral: at least one digit, behind an optional plus sign. -/
def numeral? (text : List Char) : Option Nat :=
  let digits := match text with
    | '+' :: rest => rest
    | _ => text
  if digits.isEmpty || !digits.all isDigit then none else some (number 0 digits)

end Underlay.Text
