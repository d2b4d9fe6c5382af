import GraphBatch.Json.Decode

/-!
# Selections

The shape requested of a table: columns and relations, each relation with a
selection of its own. In JSON a selection is a list in which a string is a
column and an object gives one relation per member.
-/

namespace GraphBatch

/-- A requested field: a column, or a relation with the fields requested of it. -/
inductive Field where
  | column (name : String)
  | relation (name : String) (fields : List Field)
deriving Repr, Inhabited, BEq

abbrev Selection := List Field

namespace Selection

def ofColumns (names : List String) : Selection := names.map .column

def withColumn (selection : Selection) (name : String) : Selection :=
  selection ++ [.column name]

def withRelation (selection : Selection) (name : String) (fields : Selection) : Selection :=
  selection ++ [.relation name fields]

mutual

def renderField : Field → String
  | .column name => name
  | .relation name fields => name ++ " \x7b " ++ renderFields fields ++ " \x7d"

def renderFields : List Field → String
  | [] => ""
  | [field] => renderField field
  | field :: rest => renderField field ++ " " ++ renderFields rest

end

def render (selection : Selection) : String :=
  "\x7b " ++ renderFields selection ++ " \x7d"

mutual

/-- The fields of a source set aside whole; `none` if it is not a list of
columns and relations. -/
def ofBuffered? : Json.Source → Option Selection
  | .list items _ => ofBufferedItems? items
  | _ => none

def ofBufferedItems? : List Json.Source → Option Selection
  | [] => some []
  | .str name :: rest => do
      let fields ← ofBufferedItems? rest
      some (.column name :: fields)
  | .object members _ :: rest => do
      let relations ← ofBufferedMembers? members
      let fields ← ofBufferedItems? rest
      some ((Entries.ofPairs relations).map (fun pair => .relation pair.1 pair.2) ++ fields)
  | _ :: _ => none

/-- The relations of object members set aside whole, repeated names included. -/
def ofBufferedMembers? : List (String × Json.Source) → Option (List (String × Selection))
  | [] => some []
  | (name, source) :: rest => do
      let fields ← ofBuffered? source
      let relations ← ofBufferedMembers? rest
      some ((name, fields) :: relations)

end

/-- The fields of one entry of a selection list, which is set aside whole before
it is looked at. -/
def decodeEntry (source : Json.Source) : Json.Decoded Selection :=
  match source.buffered? with
  | none => .error .malformedText
  | some buffered =>
      match ofBufferedItems? [buffered] with
      | some fields => .ok fields
      | none => .error .noSelectionEntry

def decode (source : Json.Source) : Json.Decoded Selection :=
  (source.decodeList decodeEntry).map List.flatten

end Selection

end GraphBatch
