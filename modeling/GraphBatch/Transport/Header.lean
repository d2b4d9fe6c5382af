import GraphBatch.Entries
import GraphBatch.Error.Basic

/-!
# Headers

A header map holds values by name. Names are tokens and are told apart without
regard to case, so they are held in lower case; a value that is written again
replaces the value before it.
-/

namespace GraphBatch

/-- Header values by lower-case name. -/
abbrev HeaderMap := Entries String

namespace Header

def isNameChar (char : Char) : Bool :=
  char.isAlphanum || "!#$%&'*+-.^_\x60|~".toList.contains char

/-- The greatest length of a header name, in bytes. -/
def nameLimit : Nat := 65535

def isName (text : String) : Bool :=
  !text.isEmpty && text.toList.all isNameChar && decide (text.utf8ByteSize ≤ nameLimit)

/-- Whether a character may stand in a header value: controls may not, but a tab may. -/
def isValueChar (char : Char) : Bool :=
  char = '\t' || (0x20 ≤ char.toNat && char.toNat ≠ 0x7F)

def isValue (text : String) : Bool :=
  text.toList.all isValueChar

/-- Whether a value can be written into an upgrade request, which is ASCII text. -/
def isPlainValue (text : String) : Bool :=
  text.toList.all (·.toNat < 0x7F)

def invalidName (name : String) : Error :=
  .configuration ("invalid header name `" ++ name ++ "`")

def invalidValue (name : String) : Error :=
  .configuration ("invalid value for header `" ++ name ++ "`")

end Header

namespace HeaderMap

def put (headers : HeaderMap) (name value : String) : HeaderMap :=
  Entries.put headers name.toLower value

/-- Writes headers one after the other, each after a check. Errors name a header
as `shown` gives it. -/
def putAll (shown : String → String) :
    HeaderMap → List (String × String) → Outcome HeaderMap
  | headers, [] => .ok headers
  | headers, (name, value) :: rest =>
      if ¬ Header.isName name then .error (Header.invalidName name)
      else if ¬ Header.isValue value then .error (Header.invalidValue (shown name))
      else putAll shown (headers.put name value) rest

/-- The map of headers; errors about values name headers in lower case. -/
def ofPairs (headers : List (String × String)) : Outcome HeaderMap :=
  putAll String.toLower [] headers

def sorted (headers : HeaderMap) : List (String × String) :=
  headers.mergeSort fun left right => left.1 ≤ right.1

/-- The header of a name together with the custom headers, which start with `x-`. -/
def custom (headers : HeaderMap) (name : String) : HeaderMap :=
  headers.filter fun header => header.1 = name || header.1.startsWith "x-"

def lines (headers : HeaderMap) : List String :=
  (headers.map fun header => header.1 ++ ": " ++ header.2).mergeSort fun left right => left ≤ right

/-- The value of a header, whatever the case of its name. -/
def find? (headers : HeaderMap) (name : String) : Option String :=
  Entries.find? headers name.toLower

end HeaderMap

end GraphBatch
