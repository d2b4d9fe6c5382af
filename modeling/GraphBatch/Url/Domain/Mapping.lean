import GraphBatch.Text.Unassigned
import GraphBatch.Url.Domain.Expansion
import GraphBatch.Url.Domain.SingleForm

/-!
# Characters of domain names

How a domain name reads a character: as itself, as others, as nothing, or not at
all. Capital letters are read as small ones.
-/

namespace GraphBatch.Url.Domain

/-- Ranges of characters that no domain name may hold. -/
def refusedRanges : List Text.CodeRange := [
  (0x80, 0x9f), (0x600, 0x605), (0x61c, 0x61c), (0x6dd, 0x6dd), (0x70f, 0x70f), (0x890, 0x891),
  (0x8e2, 0x8e2), (0x1680, 0x1680), (0x200e, 0x200f), (0x2024, 0x2026), (0x2028, 0x202e),
  (0x2066, 0x2069), (0x2488, 0x249b), (0x2ff0, 0x2fff), (0x31ef, 0x31ef), (0x33c2, 0x33c2),
  (0x33c7, 0x33c7), (0x33d8, 0x33d8), (0xfe12, 0xfe12), (0xfe19, 0xfe19), (0xfe30, 0xfe30),
  (0xfe52, 0xfe52), (0xfff9, 0xfffd), (0x110bd, 0x110bd), (0x110cd, 0x110cd), (0x13430, 0x1343f),
  (0x1f100, 0x1f100), (0xe0001, 0xe0001), (0xe0020, 0xe007f)]

/-- Ranges of characters that are read as nothing. -/
def ignoredRanges : List Text.CodeRange := [
  (0xad, 0xad), (0x34f, 0x34f), (0x115f, 0x1160), (0x17b4, 0x17b5), (0x180b, 0x180f),
  (0x200b, 0x200b), (0x2060, 0x2064), (0x206a, 0x206f), (0x3164, 0x3164), (0xfe00, 0xfe0f),
  (0xfeff, 0xfeff), (0xffa0, 0xffa0), (0x1bca0, 0x1bca3), (0x1d173, 0x1d17a), (0xe0100, 0xe01ef)]

/-- The code points that a code point beyond ASCII is read as, unless no domain name
may hold it. -/
def mapped? (code : Nat) : Option (List Nat) :=
  if Text.inRanges code refusedRanges || Text.isUnassigned code then none
  else if Text.inRanges code ignoredRanges then some []
  else
    match expansion? code with
    | some codes => some codes
    | none => some [(singleForm? code).getD code]

/-- The characters that a character is read as, unless no domain name may hold it. -/
def mappedChar? (char : Char) : Option (List Char) :=
  if char.toNat < 0x80 then some [char.toLower]
  else (mapped? char.toNat).map fun codes => codes.map Char.ofNat

/-- Whether a code point beyond ASCII is read as itself. -/
def isKept (code : Nat) : Bool := mapped? code = some [code]

end GraphBatch.Url.Domain
