import GraphBatch.Text.Composed
import GraphBatch.Text.Direction
import GraphBatch.Text.Joining
import GraphBatch.Url.Domain.Mapping
import GraphBatch.Url.Punycode

/-!
# Labels

A label is what stands between two dots of a domain name. It may be given as it is
or encoded behind a mark, and a label beyond ASCII is always written encoded. Not
every label is well formed, and in a name with letters that run from right to left,
each label has to run one way.
-/

namespace GraphBatch.Url.Domain

/-- A label: its characters, and how they are written in ASCII. -/
structure Label where
  chars : List Char
  ascii : List Char
deriving DecidableEq, Repr

namespace Label

/-- What stands before an encoded label. -/
def mark : List Char := ['x', 'n', '-', '-']

def isAscii (chars : List Char) : Bool := chars.all (·.toNat < 0x80)

/-- The length up to which labels are decoded. -/
def decodedLimit : Nat := 2000

/-- The length up to which labels are encoded. -/
def encodedLimit : Nat := 1000

/-- The label that stands encoded behind a mark. Its characters have to be composed,
and such that a domain name reads them as they are. -/
def ofEncoded? (encoded : List Char) : Option Label := do
  if encoded.isEmpty ∨ encoded.getLast? = some '-' ∨ decodedLimit < encoded.length then none
  else
    let chars ← Punycode.decode? encoded
    if chars.all (fun char => char.toNat < 0x80 || isKept char.toNat)
        ∧ Text.composed chars = chars then
      some ⟨chars, mark ++ encoded⟩
    else none

def ofChars? (chars : List Char) : Option Label :=
  if mark.isPrefixOf chars then ofEncoded? (chars.drop mark.length)
  else if isAscii chars then some ⟨chars, chars⟩
  else if encodedLimit < chars.length then none
  else some ⟨chars, mark ++ Punycode.encode chars⟩

/-- Whether a code point joins letters or keeps them apart. -/
def isJoiner (code : Nat) : Bool := code = 0x200C || code = 0x200D

/-- The code point that keeps letters apart. -/
def nonJoiner : Nat := 0x200C

/-- Whether a joiner may stand after some code points, nearest first, and before
others: after a sign that takes a vowel away, or, if it keeps letters apart, between
letters that would join. -/
def allowsJoiner (joiner : Nat) (before after : List Nat) : Bool :=
  match before with
  | [] => false
  | previous :: _ =>
      Text.combiningClass previous = Text.viramaClass
        || (joiner = nonJoiner
          && (before.dropWhile Text.isTransparent).head?.any Text.joinsForward
          && (after.dropWhile Text.isTransparent).head?.any Text.joinsBackward)

/-- Whether each joiner may stand where it does, after the given code points. -/
def joinersFit (before : List Nat) : List Nat → Bool
  | [] => true
  | code :: rest =>
      (!isJoiner code || allowsJoiner code before rest) && joinersFit (code :: before) rest

def codes (label : Label) : List Nat := label.chars.map Char.toNat

/-- Whether a label is well formed: it does not start with a mark, and its joiners may
stand where they do. A label that was decoded is bounded in length too. -/
def isWellFormed (label : Label) : Bool :=
  !label.codes.head?.any Text.isMark && joinersFit [] label.codes
    && (isAscii label.chars || label.chars.length ≤ encodedLimit)

def directions (label : Label) : List Text.Direction := label.codes.map Text.direction

/-- Whether a label holds a character that is only used from right to left. -/
def runsLeftward (label : Label) : Bool :=
  label.directions.any fun direction => direction = .right || direction = .arabicNumber

/-- Whether a label runs one way: from its first letter to its last letter or digit,
marks apart. A label that runs from right to left has digits of one kind only. -/
def runsOneWay (label : Label) : Bool :=
  match label.directions with
  | [] => true
  | first :: rest =>
      let body := (rest.reverse.dropWhile (· = .nonspacing)).reverse
      let endsIn (directions : List Text.Direction) := body.getLast?.all directions.contains
      match first with
      | .left =>
          endsIn [.left, .europeanNumber] && !body.contains .right && !body.contains .arabicNumber
      | .right =>
          endsIn [.right, .europeanNumber, .arabicNumber] && !body.contains .left
            && !(body.contains .europeanNumber && body.contains .arabicNumber)
      | _ => false

end Label

end GraphBatch.Url.Domain
