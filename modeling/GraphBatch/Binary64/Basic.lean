/-!
# Binary64 numbers

Finite 64-bit floating point numbers as a sign, a whole significand and a power
of two, with rounding of exact quotients to the nearest number, halves to the
even neighbour. All arithmetic is on natural numbers.
-/

namespace GraphBatch

/-- The number `± significand * 2 ^ exponent`.

Numbers made by `Binary64.nearest?` are in lowest form: the significand is below
`2 ^ 53`, the exponent is at least `-1074`, and a smaller significand than
`2 ^ 52` occurs only with the exponent `-1074`. -/
structure Binary64 where
  negative : Bool
  significand : Nat
  exponent : Int
deriving DecidableEq, Repr, Inhabited

namespace Binary64

def leastExponent : Int := -1074

def greatestExponent : Int := 971

/-- The least significand of 53 bits. -/
def leastNormal : Nat := 4503599627370496

/-- The quotient rounded to the nearest whole number, a half to the even one. -/
def roundedQuotient (numerator denominator : Nat) : Nat :=
  let quotient := numerator / denominator
  let twice := 2 * (numerator % denominator)
  if twice < denominator then quotient
  else if denominator < twice then quotient + 1
  else quotient + quotient % 2

/-- The numerator and denominator of `numerator / denominator * 2 ^ (-exponent)`. -/
def scaledBy (numerator denominator : Nat) (exponent : Int) : Nat × Nat :=
  (numerator * Nat.pow 2 (-exponent).toNat, denominator * Nat.pow 2 exponent.toNat)

/-- The exponent at which a positive quotient has a 53-bit significand, or the
least exponent if that is greater. -/
def exponentOf (numerator denominator : Nat) : Int :=
  let low : Int := (Nat.log2 numerator : Int) - Nat.log2 denominator - 53
  let (scaled, unit) := scaledBy numerator denominator low
  let exact := if scaled / unit < 2 * leastNormal then low else low + 1
  max exact leastExponent

/-- The non-negative number nearest to a quotient, a half going to the even
significand; `none` beyond the greatest number. -/
def nearest? (numerator denominator : Nat) : Option Binary64 :=
  if numerator = 0 then some ⟨false, 0, leastExponent⟩
  else
    let exponent := exponentOf numerator denominator
    let (scaled, unit) := scaledBy numerator denominator exponent
    let significand := roundedQuotient scaled unit
    let (significand, exponent) :=
      if significand = 2 * leastNormal then (leastNormal, exponent + 1) else (significand, exponent)
    if exponent ≤ greatestExponent then some ⟨false, significand, exponent⟩ else none

def negated (number : Binary64) : Binary64 :=
  { number with negative := !number.negative }

/-- Whether the number is a zero of either sign. -/
def isZero (number : Binary64) : Bool :=
  number.significand == 0

/-- The magnitude as a numerator and a denominator. -/
def magnitude (number : Binary64) : Nat × Nat :=
  (number.significand * Nat.pow 2 number.exponent.toNat, Nat.pow 2 (-number.exponent).toNat)

/-- The nearest number to a product of magnitudes. -/
def times? (left right : Binary64) : Option Binary64 :=
  let (leftTop, leftUnit) := left.magnitude
  let (rightTop, rightUnit) := right.magnitude
  nearest? (leftTop * rightTop) (leftUnit * rightUnit)

/-- The nearest number to a quotient of magnitudes, the divisor not being zero. -/
def over? (left right : Binary64) : Option Binary64 :=
  let (leftTop, leftUnit) := left.magnitude
  let (rightTop, rightUnit) := right.magnitude
  nearest? (leftTop * rightUnit) (leftUnit * rightTop)

def powerOfTen? (exponent : Nat) : Option Binary64 :=
  nearest? (Nat.pow 10 exponent) 1

/-- Divides by ten to the power 308 until the remaining exponent is within a
table of 309 powers of ten, then divides by that power. The steps bound the
number of divisions; a number that is still too far down after them is zero. -/
def dividedByPower? : Nat → Binary64 → Nat → Option Binary64
  | 0, _, _ => some ⟨false, 0, leastExponent⟩
  | steps + 1, number, exponent =>
      if exponent ≤ 308 then do number.over? (← powerOfTen? exponent)
      else if number.isZero then some number
      else do
        let smaller ← number.over? (← powerOfTen? 308)
        dividedByPower? steps smaller (exponent - 308)

/-- The number written `significand * 10 ^ exponent`: the significand is rounded
first, then scaled by the rounded power of ten and rounded again. `none` beyond
the greatest number. -/
def ofDecimal? (significand : Nat) (exponent : Int) : Option Binary64 := do
  let number ← nearest? significand 1
  if exponent < 0 then dividedByPower? 4 number exponent.natAbs
  else if exponent ≤ 308 then number.times? (← powerOfTen? exponent.toNat)
  else if number.isZero then some number
  else none

end Binary64

end GraphBatch
