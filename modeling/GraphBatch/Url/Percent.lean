import GraphBatch.Text.Digit
import GraphBatch.Text.Utf8

/-!
# Percent encoding

Characters that may not stand in a part of a URL are written as their bytes,
each a percent sign and two hexadecimal digits. Which ASCII characters these are
depends on the part; characters beyond ASCII are always encoded.
-/

namespace GraphBatch.Url

def isControl (char : Char) : Bool :=
  char.toNat < 0x20 || 0x7E < char.toNat

def encodedInFragment (char : Char) : Bool :=
  isControl char || [' ', '\x22', '<', '>', '\x60'].contains char

def encodedInPath (char : Char) : Bool :=
  encodedInFragment char || ['#', '?', '\x7b', '\x7d'].contains char

def encodedInUser (char : Char) : Bool :=
  encodedInPath char || ['/', ':', ';', '=', '@', '[', '\\', ']', '^', '|'].contains char

/-- What is encoded in a query; a special URL's query encodes the apostrophe too. -/
def encodedInQuery (special : Bool) (char : Char) : Bool :=
  isControl char || [' ', '\x22', '#', '<', '>'].contains char || (special && char = '\x27')

def upperHex (digit : Nat) : Char :=
  if digit < 10 then Char.ofNat ('0'.toNat + digit) else Char.ofNat ('A'.toNat + (digit - 10))

/-- A byte as a percent sign and two digits. -/
def encodedByte (byte : Nat) : List Char :=
  ['%', upperHex (byte / 16), upperHex (byte % 16)]

def percentEncode (isEncoded : Char → Bool) (chars : List Char) : List Char :=
  chars.flatMap fun char =>
    if isEncoded char then (Text.utf8Bytes char).flatMap encodedByte else [char]

/-- The bytes of a text in which a percent sign with two digits stands for a
byte; any other percent sign stands for itself. -/
def percentDecode : List Char → List Nat
  | '%' :: high :: low :: rest =>
      match Text.hexValue? high, Text.hexValue? low with
      | some high, some low => (high * 16 + low) :: percentDecode rest
      | _, _ => '%'.toNat :: percentDecode (high :: low :: rest)
  | char :: rest => Text.utf8Bytes char ++ percentDecode rest
  | [] => []

end GraphBatch.Url
