import GraphBatch.Json.Reader
import GraphBatch.Json.Decode

/-!
# Decoding text

A text is decoded while it is read: a value of the wrong kind is reported before
text that is malformed further on. Anything but blanks after the value is
malformed too.
-/

namespace GraphBatch.Json

def TextSource.decode {α : Type} (text : TextSource) (decode : Source → Decoded α) :
    Decoded α := do
  let value ← decode text.source
  if text.ended then .ok value else .error .malformedText

def decodeText {α : Type} (decode : Source → Decoded α) (text : String) : Decoded α :=
  (readText text).decode decode

end GraphBatch.Json
