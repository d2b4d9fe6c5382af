import GraphBatch.Json.Basic

/-!
# Decoding sources

What a decoder reads: a value held in memory, or text that may break off. Text
is decoded while it is read, so a value of the wrong kind is reported before
malformed text that comes after it. A source therefore marks the places where
text is malformed, keeps repeated member names, and knows how its lists and
objects ended.
-/

namespace GraphBatch.Json

/-- Where a list or an object comes from, and whether it was closed. -/
inductive Ending where
  /-- A part of a value held in memory. -/
  | held
  /-- A part of a value that was set aside whole before it is decoded. -/
  | buffered
  /-- Text up to the closing bracket. -/
  | closed
  /-- Text that is malformed before the closing bracket. -/
  | cut
deriving DecidableEq, Repr

/-- A value as a decoder meets it. -/
inductive Source where
  | null
  | bool (value : Bool)
  | int (value : Int)
  | float (value : Binary64)
  | str (value : String)
  | list (items : List Source) (ending : Ending)
  | object (members : List (String × Source)) (ending : Ending)
  /-- Malformed text. -/
  | malformed
deriving Repr, Inhabited

mutual

def toSource : Json → Source
  | .null => .null
  | .bool value => .bool value
  | .int value => .int value
  | .float value => .float value
  | .str value => .str value
  | .arr items => .list (sourceItems items) .held
  | .obj members => .object (sourceMembers members) .held

def sourceItems : List Json → List Source
  | [] => []
  | item :: rest => toSource item :: sourceItems rest

def sourceMembers : List (String × Json) → List (String × Source)
  | [] => []
  | (name, value) :: rest => (name, toSource value) :: sourceMembers rest

end

namespace Source

mutual

/-- The value of a source without malformed text; of a repeated member name the
first place and the last value count. -/
def toJson? : Source → Option Json
  | .null => some .null
  | .bool value => some (.bool value)
  | .int value => some (.int value)
  | .float value => some (.float value)
  | .str value => some (.str value)
  | .list items ending => do
      let values ← jsonItems? items
      if ending = .cut then none else some (.arr values)
  | .object members ending => do
      let values ← jsonMembers? members
      if ending = .cut then none else some (.obj (Entries.ofPairs values))
  | .malformed => none

def jsonItems? : List Source → Option (List Json)
  | [] => some []
  | item :: rest => do
      let value ← toJson? item
      let values ← jsonItems? rest
      some (value :: values)

/-- The values of object members, repeated names included. -/
def jsonMembers? : List (String × Source) → Option (List (String × Json))
  | [] => some []
  | (name, item) :: rest => do
      let value ← toJson? item
      let values ← jsonMembers? rest
      some ((name, value) :: values)

end

mutual

/-- The source set aside whole, if it holds no malformed text. -/
def buffered? : Source → Option Source
  | .list items ending => do
      let items ← bufferedItems? items
      if ending = .cut then none else some (.list items .buffered)
  | .object members ending => do
      let members ← bufferedMembers? members
      if ending = .cut then none else some (.object members .buffered)
  | .malformed => none
  | .null => some .null
  | .bool value => some (.bool value)
  | .int value => some (.int value)
  | .float value => some (.float value)
  | .str value => some (.str value)

def bufferedItems? : List Source → Option (List Source)
  | [] => some []
  | item :: rest => do
      let item ← buffered? item
      let rest ← bufferedItems? rest
      some (item :: rest)

def bufferedMembers? : List (String × Source) → Option (List (String × Source))
  | [] => some []
  | (name, item) :: rest => do
      let item ← buffered? item
      let rest ← bufferedMembers? rest
      some ((name, item) :: rest)

end

end Source

end GraphBatch.Json
