import GraphBatch.Text.Digit
import GraphBatch.Text.Hidden

/-!
# Quoted text

Text between double quotes as messages show it: a backslash escapes the quote,
the backslash, the tab, the line feed, the carriage return and the null
character; other characters that would not show are written by number.
-/

namespace GraphBatch.Text

def shownChar (char : Char) : String :=
  if char = '\x22' then "\\\""
  else if char = '\\' then "\\\\"
  else if char = '\t' then "\\t"
  else if char = '\n' then "\\n"
  else if char = '\r' then "\\r"
  else if char = '\x00' then "\\0"
  else if isHidden char then "\\u\x7b" ++ hexDigits char.toNat ++ "\x7d"
  else char.toString

def quoted (text : String) : String :=
  "\"" ++ String.join (text.toList.map shownChar) ++ "\""

end GraphBatch.Text
