import GraphBatch.Selection

/-!
# Request params

What a caller asks for: reads of tables (`Query`) and writes to tables
(`Mutation`), one entry per table in the caller's order. An optional param that
is absent is left out of the document altogether.
-/

namespace GraphBatch

/-- A read of one table. Without a table of its own the key names the table;
otherwise the key is an alias. An empty selection asks for every known column. -/
structure Select where
  table : Option String
  filter : Option Json
  order : Option Json
  limit : Option Nat
  offset : Option Nat
  distinctOn : Option (List String)
  fields : Selection
  fragment : Option String
deriving Repr, Inhabited, BEq

structure Insert where
  objects : Json
  onConflict : Option Json
  returning : Selection
deriving Repr, Inhabited, BEq

structure Update where
  filter : Json
  set : Option Json
  increment : Option Json
  returning : Selection
deriving Repr, Inhabited, BEq

structure Delete where
  filter : Json
  returning : Selection
deriving Repr, Inhabited, BEq

structure Write where
  insert : Option Insert
  update : Option Update
  delete : Option Delete
deriving Repr, Inhabited, BEq

/-- The three writes, in the order in which they are emitted. -/
inductive Action where
  | insert
  | update
  | delete
deriving DecidableEq, Repr

def Action.text : Action → String
  | .insert => "insert"
  | .update => "update"
  | .delete => "delete"

def Action.all : List Action := [.insert, .update, .delete]

/-- Reads by key; a batch of one read may be flattened to its value. -/
structure Query where
  tables : Entries Select
  flattenSingle : Bool
  /-- No key occurs twice. -/
  distinct : tables.Distinct
deriving Repr

/-- Writes by table. -/
structure Mutation where
  tables : Entries Write
  /-- No key occurs twice. -/
  distinct : tables.Distinct
deriving Repr

namespace Select

/-- The read of every known column of the table that the key names. -/
def empty : Select := ⟨none, none, none, none, none, none, [], none⟩

def tableName (select : Select) (key : String) : String :=
  select.table.getD key

variable (select : Select)

def withTable (table : String) : Select := { select with table := some table }

def withFilter (filter : Json) : Select := { select with filter := some filter }

def withOrder (order : Json) : Select := { select with order := some order }

def withLimit (limit : Nat) : Select := { select with limit := some limit }

def withOffset (offset : Nat) : Select := { select with offset := some offset }

def withDistinctOn (columns : List String) : Select := { select with distinctOn := some columns }

def withFields (fields : Selection) : Select := { select with fields := fields }

/-- The read with its fields in a fragment that is named after the table and a word. -/
def withFragment (discriminator : String) : Select :=
  { select with fragment := some discriminator }

end Select

namespace Insert

/-- An insert without conflict rule that returns the default columns. -/
def ofObjects (objects : Json) : Insert := ⟨objects, none, []⟩

variable (insert : Insert)

def withConflictRule (rule : Json) : Insert := { insert with onConflict := some rule }

def withReturning (returning : Selection) : Insert := { insert with returning := returning }

end Insert

namespace Update

/-- An update that sets nothing yet and returns the default columns. -/
def ofFilter (filter : Json) : Update := ⟨filter, none, none, []⟩

variable (update : Update)

def withSet (set : Json) : Update := { update with set := some set }

def withIncrement (increment : Json) : Update := { update with increment := some increment }

def withReturning (returning : Selection) : Update := { update with returning := returning }

end Update

namespace Delete

/-- A deletion that returns the default columns. -/
def ofFilter (filter : Json) : Delete := ⟨filter, []⟩

def withReturning (delete : Delete) (returning : Selection) : Delete :=
  { delete with returning := returning }

end Delete

namespace Write

def empty : Write := ⟨none, none, none⟩

def isEmpty (write : Write) : Bool :=
  write.insert.isNone && write.update.isNone && write.delete.isNone

variable (write : Write)

def withInsert (insert : Insert) : Write := { write with insert := some insert }

def withUpdate (update : Update) : Write := { write with update := some update }

def withDelete (delete : Delete) : Write := { write with delete := some delete }

end Write

namespace Query

/-- Reads that are flattened if there is only one. -/
def ofTables (tables : List (String × Select)) : Query :=
  ⟨.ofPairs tables, true, Entries.distinct_ofPairs tables⟩

def empty : Query := ofTables []

/-- Adds a read or replaces the one under its key. -/
def put (query : Query) (key : String) (select : Select) : Query :=
  ⟨query.tables.put key select, query.flattenSingle, query.distinct.put key select⟩

def withFlattenSingle (query : Query) (flattenSingle : Bool) : Query :=
  { query with flattenSingle := flattenSingle }

/-- The key whose value the caller receives instead of the whole response. -/
def flattenKey? (query : Query) : Option String :=
  match query.flattenSingle, query.tables with
  | true, [(key, _)] => some key
  | _, _ => none

end Query

namespace Mutation

def ofTables (tables : List (String × Write)) : Mutation :=
  ⟨.ofPairs tables, Entries.distinct_ofPairs tables⟩

def empty : Mutation := ofTables []

def put (mutation : Mutation) (key : String) (write : Write) : Mutation :=
  ⟨mutation.tables.put key write, mutation.distinct.put key write⟩

end Mutation

end GraphBatch
