import GraphBatch.Json.Basic
import GraphBatch.Binary64.Shortest
import GraphBatch.Text.Quoted

/-!
# Compact JSON text

The text of a value has no blanks. Strings escape the quote, the backslash and
the characters below the space; everything else stands for itself.
-/

namespace GraphBatch.Json

/-- How a character is written inside a JSON string. -/
def escapedChar (char : Char) : String :=
  if char = '\x22' then "\\\""
  else if char = '\\' then "\\\\"
  else if char = '\n' then "\\n"
  else if char = '\r' then "\\r"
  else if char = '\t' then "\\t"
  else if char = '\x08' then "\\b"
  else if char = '\x0c' then "\\f"
  else if char.toNat < 0x20 then
    "\\u00" ++ (if char.toNat < 0x10 then "0" else "") ++ Text.hexDigits char.toNat
  else char.toString

def quotedString (text : String) : String :=
  "\"" ++ String.join (text.toList.map escapedChar) ++ "\""

mutual

def compact : Json → String
  | .null => "null"
  | .bool true => "true"
  | .bool false => "false"
  | .int value => toString value
  | .float value => value.text
  | .str value => quotedString value
  | .arr items => "[" ++ compactItems items ++ "]"
  | .obj members => "\x7b" ++ compactMembers members ++ "\x7d"

def compactItems : List Json → String
  | [] => ""
  | [item] => compact item
  | item :: rest => compact item ++ "," ++ compactItems rest

def compactMembers : List (String × Json) → String
  | [] => ""
  | [(name, value)] => quotedString name ++ ":" ++ compact value
  | (name, value) :: rest =>
      quotedString name ++ ":" ++ compact value ++ "," ++ compactMembers rest

end

end GraphBatch.Json
