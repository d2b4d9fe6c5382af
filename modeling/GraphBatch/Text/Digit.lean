/-!
# Digits

Characters as digits of a number. Letters count as digits above nine, in either
case; numbers are written with the lower one.
-/

namespace GraphBatch.Text

/-- The value of a hexadecimal digit of either case. -/
def hexValue? (char : Char) : Option Nat :=
  if '0' ≤ char ∧ char ≤ '9' then some (char.toNat - '0'.toNat)
  else if 'a' ≤ char ∧ char ≤ 'f' then some (char.toNat - 'a'.toNat + 10)
  else if 'A' ≤ char ∧ char ≤ 'F' then some (char.toNat - 'A'.toNat + 10)
  else none

def digitIn? (base : Nat) (char : Char) : Option Nat :=
  (hexValue? char).filter (· < base)

/-- The hexadecimal digits of a number, without leading zeros. -/
def hexDigits (number : Nat) : String :=
  String.ofList (Nat.toDigits 16 number)

end GraphBatch.Text
