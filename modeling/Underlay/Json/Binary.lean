/-!
Binary floating-point numbers of double precision: a sign and `mantissa * 2 ^ exponent`. A number
is normal when its mantissa has 53 bits, and otherwise has the least exponent. Rounding goes to
the nearest number, a tie to the even mantissa. The text of a number has the fewest digits that
read back as the number, and of these the nearest to it, a tie going to the even digit.
-/

namespace Underlay

structure Binary where
  negative : Bool := false
  mantissa : Nat
  exponent : Int
deriving DecidableEq, Repr, Inhabited

namespace Binary

/-- The least normal mantissa, `2 ^ 52`. -/
def leastNormal : Nat := 0x10000000000000

def leastExponent : Int := -1074

/-- Numbers from this exponent on are out of range. -/
def exponentLimit : Int := 972

def zero : Binary := { mantissa := 0, exponent := leastExponent }

def isZero (x : Binary) : Bool :=
  x.mantissa == 0

/-- A quotient divided by a power of `base`, as a numerator and a denominator. -/
def scale (base num den : Nat) (power : Int) : Nat × Nat :=
  if 0 ≤ power then (num, den * Nat.pow base power.toNat)
  else (num * Nat.pow base (-power).toNat, den)

/-- The value without its sign, as a numerator and a denominator. -/
def ratio (x : Binary) : Nat × Nat :=
  scale 2 x.mantissa 1 (-x.exponent)

/-- A quotient rounded to the nearest natural number, a tie to the even one. -/
def roundDiv (num den : Nat) : Nat :=
  let quotient := num / den
  let twice := 2 * (num % den)
  if den < twice ∨ (twice = den ∧ quotient % 2 = 1) then quotient + 1 else quotient

/-- The number nearest to a quotient, if it is in range. -/
def ofRatio? (num den : Nat) : Option Binary :=
  if num = 0 then
    some zero
  else
    let guess : Int := (Nat.log2 num : Int) - (Nat.log2 den : Int) - 52
    let (n, d) := scale 2 num den guess
    let exponent := max leastExponent (if n / d < leastNormal then guess - 1 else guess)
    let (n, d) := scale 2 num den exponent
    let mantissa := roundDiv n d
    let (mantissa, exponent) :=
      if mantissa = 2 * leastNormal then (leastNormal, exponent + 1) else (mantissa, exponent)
    if exponent < exponentLimit then some { mantissa, exponent } else none

/-- The number nearest to a natural number, if it is in range. -/
def ofNat? (n : Nat) : Option Binary :=
  ofRatio? n 1

/-- The rounded product with a power of ten, which is itself rounded first. -/
def timesPower? (x : Binary) (power : Nat) : Option Binary := do
  let factor ← ofNat? (Nat.pow 10 power)
  let (n, d) := x.ratio
  let (m, e) := factor.ratio
  ofRatio? (n * m) (d * e)

/-- The rounded quotient by a power of ten, which is itself rounded first. -/
def overPower? (x : Binary) (power : Nat) : Option Binary := do
  let divisor ← ofNat? (Nat.pow 10 power)
  let (n, d) := x.ratio
  let (m, e) := divisor.ratio
  ofRatio? (n * e) (d * m)

/-- The greatest power of ten that is in range. -/
def powerLimit : Nat := 308

/-- A number divided by a power of ten in steps of at most `powerLimit`. -/
def overPowers? (x : Binary) (power : Nat) : Option Binary :=
  if x.isZero then
    some x
  else if power ≤ powerLimit then
    x.overPower? power
  else
    (x.overPower? powerLimit).bind fun y => y.overPowers? (power - powerLimit)
termination_by power
decreasing_by
  simp only [powerLimit] at *
  omega

/-- The number that `significand * 10 ^ power` is read as, if it is in range. -/
def ofDecimal? (significand : Nat) (power : Int) : Option Binary := do
  let x ← ofNat? significand
  if power < 0 then
    x.overPowers? (-power).toNat
  else if power.toNat ≤ powerLimit then
    x.timesPower? power.toNat
  else if x.isZero then
    some x
  else
    none

/-- The numbers between which every value rounds to `x`, over one denominator; the ends count if
the mantissa is even. -/
def interval (x : Binary) : Nat × Nat × Nat :=
  let (n, d) := ({ x with mantissa := 1 } : Binary).ratio
  let below := if x.mantissa = leastNormal ∧ leastExponent < x.exponent then 1 else 2
  ((4 * x.mantissa - below) * n, (4 * x.mantissa + 2) * n, 4 * d)

/-- Whether `digits * 10 ^ power` rounds to `x`. -/
def admits (x : Binary) (digits : Nat) (power : Int) : Bool :=
  let (low, high, den) := x.interval
  let (n, d) := scale 10 digits 1 (-power)
  if x.mantissa % 2 = 0 then
    decide (low * d ≤ n * den ∧ n * den ≤ high * d)
  else
    decide (low * d < n * den ∧ n * den < high * d)

/-- The greatest power of ten that is not above the quotient of two positive numbers. -/
def magnitude (num den : Nat) : Int :=
  let guess : Int := (((Nat.log2 num : Int) - (Nat.log2 den : Int)) * 30103).fdiv 100000
  let reached (power : Int) : Bool :=
    let (n, d) := scale 10 num den power
    decide (d ≤ n)
  if reached (guess + 1) then guess + 1 else if reached guess then guess else guess - 1

/-- The nearest of the two neighbours of `x` with `count` digits, if either rounds to `x`; of two
that are as near the even one. -/
def nearestOf? (x : Binary) (count : Nat) : Option (Nat × Int) :=
  let (num, den) := x.ratio
  let power := magnitude num den - ((count : Int) - 1)
  let (n, d) := scale 10 num den power
  let below := n / d
  let twice := 2 * (n % d)
  let belowFirst := decide (twice < d ∨ (twice = d ∧ below % 2 = 0))
  let near := if belowFirst then [below, below + 1] else [below + 1, below]
  (near.find? fun digits => x.admits digits power).map fun digits => (digits, power)

/-- The fewest digits that read back as `x`, and the power of ten of the last one. -/
def shortest (x : Binary) : Nat × Int :=
  if x.isZero then
    (0, 0)
  else
    ((List.range 17).findSome? fun count => x.nearestOf? (count + 1)).getD (0, 0)

/-- Which numbers are written without an exponent: those from `10 ^ least` up to `10 ^ limit`. -/
structure PlainRange where
  least : Int
  limit : Int

/-- Numbers from `10 ^ (-5)` up to `10 ^ 16` are written without an exponent. -/
def plain : PlainRange := { least := -5, limit := 16 }

def dropZeros (digits : List Char) : List Char :=
  (digits.reverse.dropWhile (· == '0')).reverse

/-- The digits with a point behind the first `whole`, and at least one digit on either side. -/
def point (digits : List Char) (whole : Nat) : List Char :=
  let front := digits.take whole ++ List.replicate (whole - digits.length) '0'
  let back := digits.drop whole
  front ++ '.' :: (if back.isEmpty then ['0'] else back)

def renderMagnitude (x : Binary) : List Char :=
  if x.isZero then
    ['0', '.', '0']
  else
    let (digits, power) := x.shortest
    let all := Nat.toDigits 10 digits
    let order := power + all.length - 1
    let digits := dropZeros all
    if order < plain.least ∨ plain.limit ≤ order then
      let sign := if order < 0 then '-' else '+'
      let tail := match digits.drop 1 with
        | [] => []
        | more => '.' :: more
      digits.take 1 ++ tail ++ 'e' :: sign :: Nat.toDigits 10 order.natAbs
    else if 0 ≤ order then
      point digits (order.toNat + 1)
    else
      ['0', '.'] ++ List.replicate (-order - 1).toNat '0' ++ digits

def render (x : Binary) : String :=
  String.ofList ((if x.negative then ['-'] else []) ++ x.renderMagnitude)

end Binary

end Underlay
