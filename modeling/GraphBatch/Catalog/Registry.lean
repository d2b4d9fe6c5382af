import GraphBatch.Catalog.Basic
import GraphBatch.Json.Decode

/-!
# Registries

A registry gathers tables, columns and key columns in any order of arrival and
can be turned into a catalog at any time. A table's first kind counts, a
column's last types, and a key column's last position. Key columns are kept
beside the tables, which get theirs when a catalog is made. Rows are taken one
by one: a row that fails leaves the rows before it in effect and nothing else.
-/

namespace GraphBatch.Catalog

structure KeyColumn where
  position : Nat
  name : String
deriving DecidableEq, Repr

/-- What is known of a table so far, its key apart. -/
structure Registration where
  kind : TableKind
  columns : Entries Column
deriving DecidableEq, Repr

/-- Registered tables in order of registration, and beside them the key columns that were
recorded. The two are joined when a catalog is made. -/
structure Registry where
  tables : Entries Registration
  keyColumns : Entries (List KeyColumn)
  /-- No table is registered twice. -/
  distinct : tables.Distinct
  apart : keyColumns.Distinct
  /-- Key columns are recorded for registered tables only. -/
  owned : ∀ name ∈ keyColumns.keys, name ∈ tables.keys
deriving DecidableEq, Repr

/-- Records the position of a key column: in place if the column is known. -/
def KeyColumn.record (position : Nat) (name : String) : List KeyColumn → List KeyColumn
  | [] => [⟨position, name⟩]
  | held :: rest =>
      if held.name = name then ⟨position, name⟩ :: rest
      else held :: KeyColumn.record position name rest

/-- Puts a key column behind all that do not come after it. -/
def KeyColumn.place (column : KeyColumn) : List KeyColumn → List KeyColumn
  | [] => [column]
  | held :: rest =>
      if held.position ≤ column.position then held :: KeyColumn.place column rest
      else column :: held :: rest

/-- Key columns by position, equal positions in order of first record. -/
def KeyColumn.sorted (columns : List KeyColumn) : List KeyColumn :=
  columns.foldl (fun placed column => KeyColumn.place column placed) []

namespace Registry

def empty : Registry where
  tables := []
  keyColumns := []
  distinct := List.nodup_nil
  apart := List.nodup_nil
  owned := List.forall_mem_nil _

variable (registry : Registry) {table : String}

def keyColumnsOf (table : String) : List KeyColumn :=
  (registry.keyColumns.find? table).getD []

theorem distinct_put (name : String) (known : Registration) :
    (registry.tables.put name known).Distinct :=
  registry.distinct.put name known

theorem owned_put (name : String) (known : Registration) :
    ∀ owner ∈ registry.keyColumns.keys, owner ∈ (registry.tables.put name known).keys :=
  fun owner inside => (Entries.mem_keys_put _ _ _).mpr (Or.inl (registry.owned owner inside))

/-- Registers a table, unless it is registered already. -/
def registerTable (name : String) (kind : TableKind) : Registry :=
  if name ∈ registry.tables.keys then registry
  else {
    tables := registry.tables.put name ⟨kind, []⟩
    keyColumns := registry.keyColumns
    distinct := registry.distinct_put name ⟨kind, []⟩
    apart := registry.apart
    owned := registry.owned_put name ⟨kind, []⟩ }

theorem distinct_adjust (name : String) (change : Registration → Registration) :
    (registry.tables.adjust name change).Distinct :=
  registry.distinct.adjust name change

theorem owned_adjust (name : String) (change : Registration → Registration) :
    ∀ owner ∈ registry.keyColumns.keys, owner ∈ (registry.tables.adjust name change).keys := by
  rw [Entries.keys_adjust]
  exact registry.owned

def withColumn (table : String) (column : Column) : Registry where
  tables := registry.tables.adjust table fun known =>
    { known with columns := known.columns.put column.name column }
  keyColumns := registry.keyColumns
  distinct := registry.distinct_adjust table _
  apart := registry.apart
  owned := registry.owned_adjust table _

def setColumn (table : String) (column : Column) : Outcome Registry :=
  if table ∈ registry.tables.keys then .ok (registry.withColumn table column)
  else .error (.unknownTable table)

theorem apart_put (table : String) (columns : List KeyColumn) :
    (registry.keyColumns.put table columns).Distinct :=
  registry.apart.put table columns

theorem owned_put_key (known : table ∈ registry.tables.keys) (columns : List KeyColumn) :
    ∀ owner ∈ (registry.keyColumns.put table columns).keys, owner ∈ registry.tables.keys := by
  intro owner inside
  rcases (Entries.mem_keys_put _ _ _).mp inside with before | here
  · exact registry.owned owner before
  · exact here ▸ known

/-- Records the position of a key column of a table, if the table is registered. -/
def withKeyColumn (table name : String) (position : Nat) : Registry :=
  if known : table ∈ registry.tables.keys then {
    tables := registry.tables
    keyColumns := registry.keyColumns.put table
      (KeyColumn.record position name (registry.keyColumnsOf table))
    distinct := registry.distinct
    apart := registry.apart_put table _
    owned := registry.owned_put_key known _ }
  else registry

def setKeyColumn (table name : String) (position : Nat) : Outcome Registry :=
  if table ∈ registry.tables.keys then .ok (registry.withKeyColumn table name position)
  else .error (.unknownTable table)

def tableOf (name : String) (known : Registration) (keyColumns : List KeyColumn) : Table where
  name := name
  kind := known.kind
  columns := known.columns
  primaryKey := (KeyColumn.sorted keyColumns).map KeyColumn.name

/-- Joins tables with their key columns, which are taken out one table after the other. -/
def joined : Entries Registration → Entries (List KeyColumn) → Entries Table
  | [], _ => []
  | (name, known) :: rest, keyColumns =>
      (name, tableOf name known ((keyColumns.find? name).getD [])) ::
        joined rest (keyColumns.without name)

/-- Where no table is registered twice, every table finds the key columns that were recorded
for it. -/
theorem joined_eq_map {tables : Entries Registration} (distinct : tables.Distinct)
    (keyColumns : Entries (List KeyColumn)) :
    joined tables keyColumns = tables.map fun entry =>
      (entry.1, tableOf entry.1 entry.2 ((keyColumns.find? entry.1).getD [])) := by
  induction tables generalizing keyColumns with
  | nil => rfl
  | cons first rest ih =>
      obtain ⟨name, known⟩ := first
      obtain ⟨fresh, distinct⟩ := List.nodup_cons.mp distinct
      rw [joined, ih distinct, List.map_cons]
      congr 1
      refine List.map_congr_left fun entry inside => ?_
      have differ : name ≠ entry.1 := fun same =>
        fresh (List.mem_map.mpr ⟨entry, inside, same.symm⟩)
      rw [Entries.find?_without_ne keyColumns differ]

def toCatalog : Catalog where
  tables := joined registry.tables registry.keyColumns
  distinct := by
    have same : (joined registry.tables registry.keyColumns).keys = registry.tables.keys := by
      rw [joined_eq_map registry.distinct, Entries.keys, List.map_map]
      rfl
    rw [Entries.Distinct, same]
    exact registry.distinct
  named := by
    intro entry inside
    rw [joined_eq_map registry.distinct] at inside
    obtain ⟨held, _, rfl⟩ := List.mem_map.mp inside
    rfl

end Registry

structure TableRow where
  table : String
  kind : String
deriving DecidableEq, Repr

structure ColumnRow where
  table : String
  column : String
  type : String
  storageType : String
deriving DecidableEq, Repr

structure KeyRow where
  table : String
  constraint : String
  position : Nat
  column : String
deriving DecidableEq, Repr

open Json (RecordType RecordField)
open Json.Source (decodeString decodeNat)

def TableRow.record : RecordType TableRow where
  title := "struct TableRow"
  strict := false
  blank := ⟨"", ""⟩
  fields := [
    .given "table_name" decodeString fun text row => { row with table := text },
    .given "table_type" decodeString fun text row => { row with kind := text }]

def ColumnRow.record : RecordType ColumnRow where
  title := "struct ColumnRow"
  strict := false
  blank := ⟨"", "", "", ""⟩
  fields := [
    .given "table_name" decodeString fun text row => { row with table := text },
    .given "column_name" decodeString fun text row => { row with column := text },
    .given "data_type" decodeString fun text row => { row with type := text },
    .given "udt_name" decodeString fun text row => { row with storageType := text }]

def KeyRow.record : RecordType KeyRow where
  title := "struct PrimaryKeyRow"
  strict := false
  blank := ⟨"", "", 0, ""⟩
  fields := [
    .given "table_name" decodeString fun text row => { row with table := text },
    .given "constraint_name" decodeString fun text row => { row with constraint := text },
    .given "position" (decodeNat 32) fun number row => { row with position := number },
    .given "key_column" decodeString fun text row => { row with column := text }]

/-- A row as a database answers it: values by column name. -/
abbrev Row := List (String × Json)

/-- Decodes a row, or reports that introspection answered an invalid one. -/
def Row.decode {α : Type} (type : RecordType α) (row : Row) : Outcome α :=
  match type.decode (Json.obj row).toSource with
  | .ok value => .ok value
  | .error error => .error (.invalidIntrospection error.message)

namespace Registry

def takeTable (registry : Registry) (row : Row) : Outcome Registry := do
  let row ← row.decode TableRow.record
  .ok (registry.registerTable row.table (.ofText row.kind))

def takeColumn (registry : Registry) (row : Row) : Outcome Registry := do
  let row ← row.decode ColumnRow.record
  registry.setColumn row.table ⟨row.column, row.type, row.storageType⟩

def takeKey (registry : Registry) (row : Row) : Outcome Registry := do
  let row ← row.decode KeyRow.record
  registry.setKeyColumn row.table row.column row.position

/-- Takes rows until one fails: the registry as the rows before it left it, and
the error of the failing row. -/
def takeRows (take : Registry → Row → Outcome Registry) :
    Registry → List Row → Registry × Option Error
  | registry, [] => (registry, none)
  | registry, row :: rest =>
      match take registry row with
      | .ok next => takeRows take next rest
      | .error error => (registry, some error)

def takeTables : Registry → List Row → Registry × Option Error := takeRows takeTable

def takeColumns : Registry → List Row → Registry × Option Error := takeRows takeColumn

def takeKeys : Registry → List Row → Registry × Option Error := takeRows takeKey

end Registry

end GraphBatch.Catalog
