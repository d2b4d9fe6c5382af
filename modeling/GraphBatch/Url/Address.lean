import GraphBatch.Text.Digit

/-!
# Addresses

Numeric hosts: four-byte addresses, whose parts may be decimal, octal or
hexadecimal and may stand for several bytes, and sixteen-byte addresses in
groups of hexadecimal digits, of which one run of zeros may be left out.
-/

namespace GraphBatch.Url

def numberIn? (base : Nat) (chars : List Char) : Option Nat :=
  chars.foldl (fun number? char => do
    let number ← number?
    let digit ← Text.digitIn? base char
    some (number * base + digit)) (some 0)

/-- A part of a four-byte address: hexadecimal after `0x`, octal after `0`. -/
def addressPart? : List Char → Option Nat
  | [] => none
  | '0' :: 'x' :: digits => numberIn? 16 digits
  | '0' :: 'X' :: digits => numberIn? 16 digits
  | ['0'] => some 0
  | '0' :: digits => numberIn? 8 digits
  | digits => numberIn? 10 digits

/-- The parts of a host between dots, without an empty last part. -/
def hostParts (host : List Char) : List (List Char) :=
  let parts := host.splitOn '.'
  match parts.reverse with
  | [] :: rest => if rest.isEmpty then parts else rest.reverse
  | _ => parts

/-- Whether the last part of a host is a number, so that the host has to be a
four-byte address. -/
def endsInNumber (host : List Char) : Bool :=
  match (hostParts host).getLast? with
  | none => false
  | some [] => false
  | some last =>
      last.all Char.isDigit
        || match last with
          | '0' :: 'x' :: digits => (numberIn? 16 digits).isSome
          | '0' :: 'X' :: digits => (numberIn? 16 digits).isSome
          | _ => false

/-- The value of address parts: each but the last is one byte, the last fills
the bytes that are left. -/
def joinAddress? : Nat → List Nat → Option Nat
  | _, [] => none
  | bytes, [last] => if last < Nat.pow 256 bytes then some last else none
  | bytes, part :: rest => do
      let tail ← joinAddress? (bytes - 1) rest
      if part < 256 then some (part * Nat.pow 256 (bytes - 1) + tail) else none

def fourByteAddress? (host : List Char) : Option Nat := do
  let parts := hostParts host
  if 4 < parts.length then none
  else
    let values ← parts.mapM addressPart?
    joinAddress? 4 values

def fourByteText (address : Nat) : String :=
  String.intercalate "."
    ([address / 16777216, address / 65536 % 256, address / 256 % 256, address % 256].map toString)

/-- A byte in decimal without leading zeros. -/
def plainByte? (digits : List Char) : Option Nat :=
  match digits with
  | [] => none
  | '0' :: _ :: _ => none
  | _ => (numberIn? 10 digits).filter (· < 256)

/-- Four bytes between dots as two groups. -/
def trailingBytes? (chars : List Char) : Option (List Nat) :=
  match (chars.splitOn '.').mapM plainByte? with
  | some [a, b, c, d] => some [a * 256 + b, c * 256 + d]
  | _ => none

/-- Groups between colons; the last one may be four bytes between dots. -/
def groups? : List (List Char) → Option (List Nat)
  | [] => some []
  | [last] =>
      if last.contains '.' then trailingBytes? last
      else if last.isEmpty ∨ 4 < last.length then none
      else (numberIn? 16 last).map fun group => [group]
  | part :: rest => do
      if part.isEmpty ∨ 4 < part.length then none
      else
        let group ← numberIn? 16 part
        let groups ← groups? rest
        some (group :: groups)

/-- Groups that may be none at all. -/
def groupsOf? (chars : List Char) : Option (List Nat) :=
  if chars.isEmpty then some [] else groups? (chars.splitOn ':')

/-- The parts before and after the first double colon. -/
def splitDoubleColon : List Char → Option (List Char × List Char)
  | ':' :: ':' :: rest => some ([], rest)
  | char :: rest => do
      let (before, after) ← splitDoubleColon rest
      some (char :: before, after)
  | [] => none

def sixteenByteAddress? (chars : List Char) : Option (List Nat) :=
  match splitDoubleColon chars with
  | none => (groupsOf? chars).filter (·.length = 8)
  | some (before, after) => do
      let first ← if before.contains '.' then none else groupsOf? before
      let last ← groupsOf? after
      let zeros := 8 - (first.length + last.length)
      if zeros = 0 then none else some (first ++ List.replicate zeros 0 ++ last)

/-- The length of the run of zeros at the front of groups. -/
def zerosAtFront : List Nat → Nat
  | 0 :: rest => zerosAtFront rest + 1
  | _ => 0

/-- The start and the length of the first longest run of at least two zeros. -/
def longestZeros : Nat → List Nat → Option (Nat × Nat)
  | _, [] => none
  | start, group :: rest =>
      let length := zerosAtFront (group :: rest)
      match longestZeros (start + 1) rest with
      | some (later, other) => if length < other then some (later, other) else some (start, length)
      | none => if 2 ≤ length then some (start, length) else none

def sixteenByteText (groups : List Nat) : String :=
  let texts (groups : List Nat) :=
    String.intercalate ":" (groups.map Text.hexDigits)
  match longestZeros 0 groups with
  | none => texts groups
  | some (start, length) =>
      texts (groups.take start) ++ "::" ++ texts (groups.drop (start + length))

end GraphBatch.Url
