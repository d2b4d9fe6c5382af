/-!
# Punycode

A label beyond ASCII is written in ASCII: its ASCII characters first, then the
places of the others as differences, in ascending order of character. A
difference is a number of variable length in base 36, whose digits end at
thresholds that adapt to the differences before.
-/

namespace GraphBatch.Url.Punycode

def digitChar (digit : Nat) : Char :=
  if digit < 26 then Char.ofNat ('a'.toNat + digit) else Char.ofNat ('0'.toNat + (digit - 26))

/-- The threshold of the digit at a place. -/
def threshold (place bias : Nat) : Nat :=
  if place ≤ bias then 1 else if bias + 26 ≤ place then 26 else place - bias

/-- Scales a difference down; the number of steps in places. -/
def scaleDown (delta place : Nat) : Nat × Nat :=
  if 455 < delta then scaleDown (delta / 35) (place + 36) else (delta, place)
termination_by delta
decreasing_by exact Nat.div_lt_self (by omega) (by omega)

/-- The bias after a difference. -/
def adapt (delta count : Nat) (first : Bool) : Nat :=
  let damped := if first then delta / 700 else delta / 2
  let (scaled, place) := scaleDown (damped + damped / count) 0
  place + 36 * scaled / (scaled + 38)

/-- The digits of a difference; the step count bounds their number. -/
def digits : Nat → Nat → Nat → Nat → List Char
  | 0, _, _, _ => []
  | steps + 1, bias, place, number =>
      let limit := threshold place bias
      if number < limit then [digitChar number]
      else
        let excess := number - limit
        digitChar (limit + excess % (36 - limit))
          :: digits steps bias (place + 36) (excess / (36 - limit))

/-- What is carried along a label: the difference, the bias, the number of
characters written, and what was written. -/
structure State where
  delta : Nat
  bias : Nat
  count : Nat
  first : Bool
  written : List Char

/-- Writes the places of one character. -/
def writePlaces (code : Nat) : List Nat → State → State
  | [], state => { state with delta := state.delta + 1 }
  | other :: rest, state =>
      if other < code then writePlaces code rest { state with delta := state.delta + 1 }
      else if other = code then
        let added := digits (state.delta + 1) state.bias 36 state.delta
        writePlaces code rest {
          delta := 0
          bias := adapt state.delta (state.count + 1) state.first
          count := state.count + 1
          first := false
          written := state.written ++ added }
      else writePlaces code rest state

/-- The least code point of a label that is at least a bound. -/
def leastFrom (bound : Nat) (label : List Nat) : Option Nat :=
  (label.filter (bound ≤ ·)).min?

/-- Writes every character beyond ASCII, in ascending order. -/
def writeAll : Nat → Nat → List Nat → State → State
  | 0, _, _, state => state
  | steps + 1, bound, label, state =>
      match leastFrom bound label with
      | none => state
      | some code =>
          let delta := state.delta + (code - bound) * (state.count + 1)
          writeAll steps (code + 1) label (writePlaces code label { state with delta := delta })

def encode (label : List Char) : List Char :=
  let basic := label.filter (·.toNat < 0x80)
  let start : State := ⟨0, 72, basic.length, true, []⟩
  let state := writeAll label.length 0x80 (label.map Char.toNat) start
  basic ++ (if basic.isEmpty then [] else ['-']) ++ state.written

/-- The value of a digit of base 36, of either case. -/
def digitValue? (char : Char) : Option Nat :=
  if 'a' ≤ char ∧ char ≤ 'z' then some (char.toNat - 'a'.toNat)
  else if 'A' ≤ char ∧ char ≤ 'Z' then some (char.toNat - 'A'.toNat)
  else if '0' ≤ char ∧ char ≤ '9' then some (char.toNat - '0'.toNat + 26)
  else none

/-- What is carried along the digits of a label: the characters so far, the code point
and the place of the last one, the bias, and the difference that is being read, with
the place and the weight of its next digit. -/
structure Reading where
  label : List Char
  code : Nat
  place : Nat
  bias : Nat
  delta : Nat
  digitPlace : Nat
  weight : Nat

/-- The bound of numbers in a label. -/
def numberBound : Nat := 4294967296

/-- Puts the character that a difference leads to into the label. -/
def Reading.insert? (reading : Reading) : Option Reading :=
  let count := reading.label.length + 1
  let target := reading.place + reading.delta
  let code := reading.code + target / count
  let place := target % count
  if code.isValidChar then
    some {
      label := reading.label.insertIdx place (Char.ofNat code)
      code := code
      place := place + 1
      bias := adapt reading.delta count (reading.place = 0)
      delta := 0
      digitPlace := 36
      weight := 1 }
  else none

def Reading.digit? (reading : Reading) (char : Char) : Option Reading := do
  let digit ← digitValue? char
  let limit := threshold reading.digitPlace reading.bias
  let longer := { reading with delta := reading.delta + digit * reading.weight }
  if numberBound ≤ longer.place + longer.delta then none
  else if digit < limit then longer.insert?
  else if numberBound ≤ reading.weight * (36 - limit) then none
  else
    some { longer with
      digitPlace := reading.digitPlace + 36
      weight := reading.weight * (36 - limit) }

/-- The ASCII characters of a label in ASCII, and the digits after them. -/
def splitDigits (label : List Char) : List Char × List Char :=
  match label.reverse.span (· ≠ '-') with
  | (_, []) => ([], label)
  | (_, [_]) => ([], label)
  | (digits, _ :: basic) => (basic.reverse, digits.reverse)

/-- The label that stands in ASCII, without its mark. Capital letters are read as
small ones, and the last difference has to be complete. -/
def decode? (label : List Char) : Option (List Char) := do
  let (basic, digits) := splitDigits label
  if basic.any (0x80 ≤ ·.toNat) then none
  else
    let start : Reading := ⟨basic.map Char.toLower, 0x80, 0, 72, 0, 36, 1⟩
    let reading ← digits.foldlM Reading.digit? start
    if reading.digitPlace = 36 then some reading.label else none

end GraphBatch.Url.Punycode
