import GraphBatch.Entries
import GraphBatch.Error.Basic

/-!
# Catalogs

A catalog holds the tables of a database by name, in the order in which they
were registered. Every table knows its columns, its primary key, and the names
that the endpoint derives from its own name.
-/

namespace GraphBatch

structure Column where
  name : String
  type : String
  storageType : String
deriving DecidableEq, Repr

inductive TableKind where
  | baseTable
  | view
  | other (text : String)
deriving DecidableEq, Repr

namespace TableKind

/-- The kind that the database's own word names. -/
def ofText (text : String) : TableKind :=
  if text = "BASE TABLE" then .baseTable
  else if text = "VIEW" then .view
  else .other text

def isView (kind : TableKind) : Bool := kind = .view

end TableKind

structure Table where
  name : String
  kind : TableKind
  columns : Entries Column
  primaryKey : List String
deriving DecidableEq, Repr

namespace Table

def selectRoot (table : Table) : String := table.name

def insertRoot (table : Table) : String := "insert_" ++ table.name

def updateRoot (table : Table) : String := "update_" ++ table.name

def deleteRoot (table : Table) : String := "delete_" ++ table.name

def filterType (table : Table) : String := table.name ++ "_bool_exp"

def orderType (table : Table) : String := table.name ++ "_order_by"

def columnType (table : Table) : String := table.name ++ "_select_column"

def insertType (table : Table) : String := table.name ++ "_insert_input"

def conflictType (table : Table) : String := table.name ++ "_on_conflict"

/-- The type of new column values. -/
def setType (table : Table) : String := table.name ++ "_set_input"

def incrementType (table : Table) : String := table.name ++ "_inc_input"

def column? (table : Table) (name : String) : Option Column :=
  table.columns.find? name

end Table

/-- Tables by name, in the order in which they were registered. -/
structure Catalog where
  tables : Entries Table
  /-- No table is registered twice. -/
  distinct : tables.Distinct
  /-- Every table is held under its own name. -/
  named : ∀ entry ∈ tables, entry.2.name = entry.1
deriving DecidableEq, Repr

namespace Catalog

def empty : Catalog := ⟨[], List.nodup_nil, by simp⟩

def get? (catalog : Catalog) (name : String) : Option Table :=
  catalog.tables.find? name

def lookup (catalog : Catalog) (name : String) : Outcome Table :=
  match catalog.get? name with
  | some table => .ok table
  | none => .error (.unknownTable name)

def toList (catalog : Catalog) : List Table :=
  catalog.tables.values

def size (catalog : Catalog) : Nat :=
  catalog.tables.length

end Catalog

end GraphBatch
