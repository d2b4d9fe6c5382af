import GraphBatch.Url.Domain.Name
import GraphBatch.Url.Percent

/-!
# Hosts

The host of a special URL is a domain name or an address; a name is decoded and
written in ASCII. The host of any other URL is kept as it is.
-/

namespace GraphBatch.Url

/-- Why a text is not a URL. -/
inductive Fault where
  | noBase
  | emptyHost
  | invalidDomain
  | invalidPort
  | invalidFourByteAddress
  | invalidSixteenByteAddress
  | invalidHostCharacter
deriving DecidableEq, Repr

def Fault.message : Fault → String
  | .noBase => "relative URL without a base"
  | .emptyHost => "empty host"
  | .invalidDomain => "invalid international domain name"
  | .invalidPort => "invalid port number"
  | .invalidFourByteAddress => "invalid IPv4 address"
  | .invalidSixteenByteAddress => "invalid IPv6 address"
  | .invalidHostCharacter => "invalid domain character"

inductive Host where
  | name (text : String)
  | fourByte (address : Nat)
  | sixteenByte (groups : List Nat)
deriving DecidableEq, Repr

def Host.text : Host → String
  | .name text => text
  | .fourByte address => fourByteText address
  | .sixteenByte groups => "[" ++ sixteenByteText groups ++ "]"

namespace Host

def ofBracketed (text : List Char) : Except Fault Host :=
  match text.getLast?, sixteenByteAddress? ((text.drop 1).dropLast) with
  | some ']', some groups => .ok (.sixteenByte groups)
  | _, _ => .error .invalidSixteenByteAddress

def ofSpecial (text : List Char) : Except Fault Host :=
  if text.head? = some '[' then ofBracketed text
  else
    match Domain.name? text with
    | none => .error .invalidDomain
    | some [] => .error .emptyHost
    | some domain =>
        if endsInNumber domain then
          match fourByteAddress? domain with
          | some address => .ok (.fourByte address)
          | none => .error .invalidFourByteAddress
        else .ok (.name (String.ofList domain))

/-- Whether a character may not stand in the host of a URL that is not special. -/
def isForbiddenPlain (char : Char) : Bool :=
  ['\x00', '\t', '\n', '\r', ' ', '#', '/', ':', '<', '>', '?', '@', '[', '\\', ']', '^',
    '|'].contains char

def ofPlain (text : List Char) : Except Fault Host :=
  if text.head? = some '[' then ofBracketed text
  else if text.any isForbiddenPlain then .error .invalidHostCharacter
  else .ok (.name (String.ofList (percentEncode isControl text)))

end Host

end GraphBatch.Url
