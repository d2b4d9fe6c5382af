/-!
# UTF-8

Characters as one to four bytes, and bytes read back as characters. Reading
accepts only the shortest form of a character, and no surrogates.
-/

namespace GraphBatch.Text

def utf8Bytes (char : Char) : List Nat :=
  let code := char.toNat
  if code < 0x80 then [code]
  else if code < 0x800 then [0xC0 + code / 0x40, 0x80 + code % 0x40]
  else if code < 0x10000 then
    [0xE0 + code / 0x1000, 0x80 + code / 0x40 % 0x40, 0x80 + code % 0x40]
  else
    [0xF0 + code / 0x40000, 0x80 + code / 0x1000 % 0x40, 0x80 + code / 0x40 % 0x40,
      0x80 + code % 0x40]

def toUtf8 (chars : List Char) : List Nat :=
  chars.flatMap utf8Bytes

/-- The low six bits of a byte that continues a character. -/
def continuation? (byte : Nat) : Option Nat :=
  if 0x80 ≤ byte ∧ byte < 0xC0 then some (byte - 0x80) else none

/-- The character at the front of bytes, and the rest. -/
def firstChar? : List Nat → Option (Char × List Nat)
  | [] => none
  | lead :: rest =>
      if lead < 0x80 then some (Char.ofNat lead, rest)
      else if 0xC2 ≤ lead ∧ lead < 0xE0 then
        match rest with
        | a :: rest => do
            let a ← continuation? a
            some (Char.ofNat ((lead - 0xC0) * 0x40 + a), rest)
        | _ => none
      else if 0xE0 ≤ lead ∧ lead < 0xF0 then
        match rest with
        | a :: b :: rest => do
            let a ← continuation? a
            let b ← continuation? b
            let code := ((lead - 0xE0) * 0x40 + a) * 0x40 + b
            if code < 0x800 ∨ (0xD800 ≤ code ∧ code < 0xE000) then none
            else some (Char.ofNat code, rest)
        | _ => none
      else if 0xF0 ≤ lead ∧ lead < 0xF5 then
        match rest with
        | a :: b :: c :: rest => do
            let a ← continuation? a
            let b ← continuation? b
            let c ← continuation? c
            let code := (((lead - 0xF0) * 0x40 + a) * 0x40 + b) * 0x40 + c
            if code < 0x10000 ∨ 0x110000 ≤ code then none
            else some (Char.ofNat code, rest)
        | _ => none
      else none

/-- The characters of bytes, at most as many as the step count. -/
def charsOf? : Nat → List Nat → Option (List Char)
  | _, [] => some []
  | 0, _ => none
  | steps + 1, bytes => do
      let (char, rest) ← firstChar? bytes
      let chars ← charsOf? steps rest
      some (char :: chars)

def ofUtf8? (bytes : List Nat) : Option String :=
  (charsOf? bytes.length bytes).map String.ofList

end GraphBatch.Text
