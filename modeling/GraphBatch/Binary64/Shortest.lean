import GraphBatch.Binary64.Basic

/-!
# Shortest decimal text

The decimal text of a number has the fewest digits that read back as the same
number, and among those the digits nearest to its value. The candidates on a
decimal grid are the two neighbours of the value, tested against the interval
of reals that round to the number, in exact arithmetic.
-/

namespace GraphBatch.Binary64

/-- Decimal digits and the power of ten of the last one: `digits * 10 ^ power`. -/
structure Decimal where
  digits : Nat
  power : Int
deriving DecidableEq, Repr

/-- The two sides of a comparison of `left * 10 ^ power` with `right * 2 ^ exponent`,
as factors of `left` and of `right`. -/
def comparisonFactors (power exponent : Int) : Nat × Nat :=
  (Nat.pow 10 power.toNat * Nat.pow 2 (-exponent).toNat,
    Nat.pow 2 exponent.toNat * Nat.pow 10 (-power).toNat)

/-- The reals that round to a number, in quarters of the last place: lower end,
value, upper end, and whether the ends belong to it. -/
def interval (number : Binary64) : Nat × Nat × Nat × Bool :=
  let value := 4 * number.significand
  let below :=
    if number.significand = leastNormal ∧ leastExponent < number.exponent then 1 else 2
  (value - below, value, value + 2, number.significand % 2 = 0)

/-- Raises an exponent while the next power of ten is at most the value. -/
def raisedExponent : Nat → Nat → Int → Int → Int
  | 0, _, _, guess => guess
  | steps + 1, value, exponent, guess =>
      let (left, right) := comparisonFactors (guess + 1) exponent
      if left ≤ value * right then raisedExponent steps value exponent (guess + 1) else guess

/-- The exponent of the greatest power of ten that is at most a positive number. -/
def decimalExponent (number : Binary64) : Int :=
  let binary := (Nat.log2 number.significand : Int) + number.exponent
  raisedExponent 4 (4 * number.significand) (number.exponent - 2) (binary * 30103 / 100000 - 2)

/-- The nearest candidate with a given place value that reads back as the number. -/
def candidate? (number : Binary64) (power : Int) : Option Decimal :=
  let (lower, value, upper, closed) := number.interval
  let (left, right) := comparisonFactors power (number.exponent - 2)
  let inside (digits : Nat) : Bool :=
    let point := digits * left
    if closed then lower * right ≤ point && point ≤ upper * right
    else lower * right < point && point < upper * right
  let low := value * right / left
  let distance := value * right - low * left
  let high := low + 1
  match inside low, inside high with
  | true, true =>
      if 2 * distance < left then some ⟨low, power⟩
      else if left < 2 * distance then some ⟨high, power⟩
      else some ⟨if low % 2 = 0 then low else high, power⟩
  | true, false => some ⟨low, power⟩
  | false, true => some ⟨high, power⟩
  | false, false => none

/-- Tries ever finer places. -/
def searchPlaces (number : Binary64) : Nat → Int → Decimal
  | 0, power => (number.candidate? power).getD ⟨0, power⟩
  | steps + 1, power =>
      match number.candidate? power with
      | some found => found
      | none => searchPlaces number steps (power - 1)

/-- Drops trailing zeros. -/
def Decimal.trimmed : Nat → Decimal → Decimal
  | 0, decimal => decimal
  | steps + 1, decimal =>
      if decimal.digits ≠ 0 ∧ decimal.digits % 10 = 0 then
        Decimal.trimmed steps ⟨decimal.digits / 10, decimal.power + 1⟩
      else decimal

/-- The shortest decimal that reads back as a positive number. -/
def shortest (number : Binary64) : Decimal :=
  (searchPlaces number 16 number.decimalExponent).trimmed 18

/-- Where positional notation ends and how an exponent is written. -/
structure DecimalStyle where
  /-- The least exponent of the first digit that is written positionally. -/
  leastPositional : Int
  /-- The greatest exponent of the first digit that is written positionally. -/
  greatestPositional : Int

/-- Numbers from `0.00001` up to below `10 ^ 16` are positional; an exponent has
a sign and no leading zeros. -/
def standard : DecimalStyle := ⟨-5, 15⟩

/-- The text of a decimal in a notation; a whole number ends in `.0`. -/
def Decimal.text (style : DecimalStyle) (decimal : Decimal) : String :=
  let digits := (toString decimal.digits).toList
  let count : Int := digits.length
  let first := decimal.power + count - 1
  let zeros (n : Int) := List.replicate n.toNat '0'
  if first < style.leastPositional ∨ style.greatestPositional < first then
    let sign := if first < 0 then "-" else "+"
    let fraction := if digits.length ≤ 1 then [] else '.' :: digits.drop 1
    String.ofList (digits.take 1 ++ fraction) ++ "e" ++ sign ++ toString first.natAbs
  else if first < 0 then
    String.ofList ('0' :: '.' :: zeros (-first - 1) ++ digits)
  else if 0 ≤ decimal.power then
    String.ofList (digits ++ zeros decimal.power ++ ['.', '0'])
  else
    let whole := (first + 1).toNat
    String.ofList (digits.take whole ++ '.' :: digits.drop whole)

def text (number : Binary64) : String :=
  let sign := if number.negative then "-" else ""
  if number.isZero then sign ++ "0.0" else sign ++ number.shortest.text standard

end GraphBatch.Binary64
