/-!
# Ranges of code points

A class of characters is given by the inclusive ranges of its code points, in
ascending order. A long list of ranges is held in parts.
-/

namespace GraphBatch.Text

/-- An inclusive range of code points. -/
abbrev CodeRange := Nat × Nat

/-- Whether ranges in ascending order hold a code point. -/
def inRanges (code : Nat) : List CodeRange → Bool
  | [] => false
  | (first, last) :: rest => first ≤ code && (code ≤ last || inRanges code rest)

/-- Whether one of several lists of ranges holds a code point. -/
def inTables (code : Nat) (tables : List (List CodeRange)) : Bool :=
  tables.any (inRanges code)

end GraphBatch.Text
