import GraphBatch.Url.Address
import GraphBatch.Url.Domain.Label
import GraphBatch.Url.Percent

/-!
# Domain names

A domain name is read through its percent encoding, character by character, and
composed; what stands between its dots are labels. The name is written in ASCII.
-/

namespace GraphBatch.Url.Domain

/-- Whether a character may not stand in a domain name. -/
def isForbidden (char : Char) : Bool :=
  char.toNat ≤ 0x20 || char.toNat = 0x7F
    || ['%', '#', '/', ':', '<', '>', '?', '@', '[', '\\', ']', '^', '|'].contains char

/-- The labels of a text, unless a domain name may not hold one of its characters. -/
def labels? (text : List Char) : Option (List Label) := do
  let mapped ← text.mapM mappedChar?
  ((Text.composed mapped.flatten).splitOn '.').mapM Label.ofChars?

/-- Whether labels make a name together: if one of them has letters that run from
right to left, each has to run one way. -/
def fit (labels : List Label) : Bool :=
  labels.all Label.isWellFormed
    && (!labels.any Label.runsLeftward || labels.all Label.runsOneWay)

/-- The domain name that a text spells, in ASCII. -/
def name? (text : List Char) : Option (List Char) := do
  let decoded ← Text.ofUtf8? (percentDecode text)
  let labels ← labels? decoded.toList
  let name := ['.'].intercalate (labels.map Label.ascii)
  if fit labels ∧ ¬ name.any isForbidden then some name else none

end GraphBatch.Url.Domain
