import GraphBatch.Json.Source
import GraphBatch.Text.Digit

/-!
# JSON literals

Numbers and strings as they stand in text. A number's digits are gathered into a
64-bit significand: digits that no longer fit count as a power of ten before the
point and are dropped after it. Each reader returns what follows the literal.
-/

namespace GraphBatch.Json

/-- The parts of a number: sign, digits before the point, digits after it if
there is a point, and the exponent if there is one. -/
structure Numeral where
  negative : Bool
  whole : List Nat
  fraction : Option (List Nat)
  exponent : Option Int
deriving DecidableEq, Repr

def spanDigits : List Char → List Nat × List Char
  | [] => ([], [])
  | char :: rest =>
      match Text.digitIn? 10 char with
      | some value =>
          let (digits, after) := spanDigits rest
          (value :: digits, after)
      | none => ([], char :: rest)

def ofDigits (digits : List Nat) : Nat :=
  digits.foldl (fun number digit => number * 10 + digit) 0

/-- The digits before the point: a zero alone, or digits that start with another
one. -/
def wholeDigits? (chars : List Char) : Option (List Nat × List Char) :=
  match spanDigits chars with
  | ([], _) => none
  | (0 :: _ :: _, _) => none
  | found => some found

/-- The part after the point, if there is a point; at least one digit. -/
def fractionDigits? : List Char → Option (Option (List Nat) × List Char)
  | '.' :: rest =>
      match spanDigits rest with
      | ([], _) => none
      | (digits, after) => some (some digits, after)
  | chars => some (none, chars)

/-- The digits of an exponent after its sign; at least one. -/
def exponentDigits? (negative : Bool) (chars : List Char) : Option (Option Int × List Char) :=
  match spanDigits chars with
  | ([], _) => none
  | (digits, after) =>
      let size : Int := ofDigits digits
      some (some (if negative then -size else size), after)

def exponent? : List Char → Option (Option Int × List Char)
  | char :: rest =>
      if char = 'e' ∨ char = 'E' then
        match rest with
        | '+' :: digits => exponentDigits? false digits
        | '-' :: digits => exponentDigits? true digits
        | digits => exponentDigits? false digits
      else some (none, char :: rest)
  | [] => some (none, [])

/-- The number at the front of a text, and the rest. -/
def numeral? (chars : List Char) : Option (Numeral × List Char) := do
  let (negative, chars) :=
    match chars with
    | '-' :: rest => (true, rest)
    | chars => (false, chars)
  let (whole, chars) ← wholeDigits? chars
  let (fraction, chars) ← fractionDigits? chars
  let (exponent, chars) ← exponent? chars
  some (⟨negative, whole, fraction, exponent⟩, chars)

def greatestSignificand : Nat := 18446744073709551615

/-- Appends digits to a significand while it fits; the digits left over. -/
def gather : Nat → List Nat → Nat × List Nat
  | significand, [] => (significand, [])
  | significand, digit :: rest =>
      let longer := significand * 10 + digit
      if longer ≤ greatestSignificand then gather longer rest
      else (significand, digit :: rest)

/-- The number with a significand and a power of ten, or malformed beyond the
greatest number. -/
def floatSource (negative : Bool) (significand : Nat) (exponent : Int) : Source :=
  match Binary64.ofDecimal? significand exponent with
  | some number => .float (if negative then number.negated else number)
  | none => .malformed

/-- The value of a number: exact for a whole number within bounds, otherwise a
floating point number. -/
def Numeral.source (numeral : Numeral) : Source :=
  let (significand, dropped) := gather 0 numeral.whole
  let before : Int := dropped.length
  match numeral.fraction, numeral.exponent, dropped with
  | none, none, [] =>
      if ¬ numeral.negative then .int significand
      else if significand = 0 ∨ greatestInt / 2 + 1 < significand then
        floatSource true significand 0
      else .int (-significand)
  | fraction, exponent, _ =>
      let digits := fraction.getD []
      let (significand, unused) := gather significand digits
      let after : Int := digits.length - unused.length
      floatSource numeral.negative significand (before - after + exponent.getD 0)

/-- The code unit that four hexadecimal digits name, and the rest. -/
def codeUnit? : List Char → Option (Nat × List Char)
  | a :: b :: c :: d :: rest => do
      let a ← Text.hexValue? a
      let b ← Text.hexValue? b
      let c ← Text.hexValue? c
      let d ← Text.hexValue? d
      some (((a * 16 + b) * 16 + c) * 16 + d, rest)
  | _ => none

def simpleEscape? (char : Char) : Option Char :=
  if char = '\x22' then some '\x22'
  else if char = '\\' then some '\\'
  else if char = '/' then some '/'
  else if char = 'b' then some '\x08'
  else if char = 'f' then some '\x0c'
  else if char = 'n' then some '\n'
  else if char = 'r' then some '\r'
  else if char = 't' then some '\t'
  else none

/-- A piece of a string: a character, or a code unit by number. -/
inductive Piece where
  | char (char : Char)
  | unit (code : Nat)
deriving DecidableEq, Repr

/-- The pieces of a string up to its closing quote, and what follows it. The
step count bounds the reading and is at least the length of the text. -/
def pieces? : Nat → List Char → Option (List Piece × List Char)
  | 0, _ => none
  | _, [] => none
  | steps + 1, char :: rest =>
      if char = '\x22' then some ([], rest)
      else if char = '\\' then
        match rest with
        | [] => none
        | letter :: rest =>
            if letter = 'u' then do
              let (code, rest) ← codeUnit? rest
              let (pieces, after) ← pieces? steps rest
              some (.unit code :: pieces, after)
            else do
              let char ← simpleEscape? letter
              let (pieces, after) ← pieces? steps rest
              some (.char char :: pieces, after)
      else if char.toNat < 0x20 then none
      else do
        let (pieces, after) ← pieces? steps rest
        some (.char char :: pieces, after)

/-- The characters that pieces stand for: a leading surrogate needs a trailing
one after it, and no trailing surrogate stands alone. -/
def joinPieces? : List Piece → Option (List Char)
  | [] => some []
  | .char char :: rest => do some (char :: (← joinPieces? rest))
  | .unit high :: .unit low :: rest =>
      if 0xD800 ≤ high ∧ high < 0xDC00 then
        if 0xDC00 ≤ low ∧ low < 0xE000 then do
          let code := 0x10000 + (high - 0xD800) * 0x400 + (low - 0xDC00)
          some (Char.ofNat code :: (← joinPieces? rest))
        else none
      else if 0xDC00 ≤ high ∧ high < 0xE000 then none
      else do some (Char.ofNat high :: (← joinPieces? (.unit low :: rest)))
  | .unit code :: rest =>
      if 0xD800 ≤ code ∧ code < 0xE000 then none
      else do some (Char.ofNat code :: (← joinPieces? rest))

end GraphBatch.Json
