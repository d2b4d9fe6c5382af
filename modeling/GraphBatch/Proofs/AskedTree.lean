import GraphBatch.Proofs.Composition
import GraphBatch.Proofs.Syntax.Rendering

/-!
# Trees that batches ask for

The tree that a query or a mutation asks for, stated from its reads or its present
actions, and the conditions under which every name in it is a name: the tables and
columns of the catalog have names, and so have the keys, columns and relations of
the batch.
-/

namespace GraphBatch

open Syntax

/-! ## What is asked -/

/-- The type of the variable for a slot. A filter is required by the actions that
write, and by no read. -/
def Slot.type (table : Table) (writes : Bool) : Slot → TypeReference
  | .filter => .named table.filterType writes
  | .order => .list (.named table.orderType true) false
  | .limit => .named "Int" false
  | .offset => .named "Int" false
  | .distinctOn => .list (.named table.columnType true) false
  | .objects => .list (.named table.insertType true) true
  | .onConflict => .named table.conflictType false
  | .set => .named table.setType false
  | .increment => .named table.incrementType false

def argumentsOf (index : Nat) (table : Table) (slots : List Slot) : List Argument :=
  slots.map fun slot =>
    ⟨slot.argument, GeneratedName.forVariable index table.name slot.text⟩

def declarationsOf (index : Nat) (table : Table) (writes : Bool) (slots : List Slot) :
    List Declaration :=
  slots.map fun slot =>
    ⟨GeneratedName.forVariable index table.name slot.text, slot.type table writes⟩

namespace Reading

def slots (reading : Reading) : List Slot :=
  Slot.all.filter reading.select.takes

/-- The variables of the read under a number. -/
def declarations (reading : Reading) (index : Nat) : List Declaration :=
  declarationsOf index reading.table false reading.slots

/-- The root field that the read asks for under a number. -/
def rootTree (reading : Reading) (index : Nat) : Root where
  alias? := if reading.key = reading.table.name then none else some reading.key
  name := reading.table.name
  arguments := argumentsOf index reading.table reading.slots
  selection :=
    match reading.fragment? with
    | some fragment => .spread fragment.name
    | none => .fields reading.selection

end Reading

namespace Writing

def slots (writing : Writing) : List Slot :=
  Slot.all.filter (writing.write.takes writing.action)

/-- The variables of the action under a number. -/
def declarations (writing : Writing) (index : Nat) : List Declaration :=
  declarationsOf index writing.table true writing.slots

/-- The root field that the action asks for under a number. -/
def rootTree (writing : Writing) (index : Nat) : Root where
  alias? := none
  name := writing.root
  arguments := argumentsOf index writing.table writing.slots
  selection := .fields [.relation "returning" writing.selection]

end Writing

def Query.tree (query : Query) (catalog : Catalog) (kind : OperationKind) : Tree :=
  let reads := readings catalog query.tables
  { fragments := Document.distinctFragments (reads.filterMap Reading.fragment?)
    operation := {
      kind := kind
      name := GeneratedName.forOperation (reads.map Reading.key)
      declared := reads.zipIdx.flatMap fun numbered => numbered.1.declarations numbered.2
      roots := reads.zipIdx.map fun numbered => numbered.1.rootTree numbered.2 } }

def Mutation.tree (mutation : Mutation) (catalog : Catalog) : Tree :=
  let writes := writings catalog mutation.tables
  { fragments := []
    operation := {
      kind := .mutation
      name := GeneratedName.forOperation (writes.map Writing.root)
      declared := writes.zipIdx.flatMap fun numbered => numbered.1.declarations numbered.2
      roots := writes.zipIdx.map fun numbered => numbered.1.rootTree numbered.2 } }

/-! ## What has names -/

/-- Whether a table, its columns and the columns of its primary key have names. -/
def Table.hasNames (table : Table) : Bool :=
  isName table.name && (table.columns.keys ++ table.primaryKey).all isName

/-- Whether all tables and columns have names. -/
def Catalog.hasNames (catalog : Catalog) : Bool :=
  catalog.tables.values.all Table.hasNames

/-- Whether all keys, columns and relations of a query have names. -/
def Query.hasNames (query : Query) : Bool :=
  query.tables.all fun entry => isName entry.1 && namedFields entry.2.fields

/-- Whether all columns and relations that a mutation asks for have names. -/
def Mutation.hasNames (mutation : Mutation) : Bool :=
  mutation.tables.all fun entry =>
    Action.all.all fun action => namedFields (entry.2.returning action)

theorem Slot.isName_argument (slot : Slot) : isName slot.argument = true := by
  cases slot <;> decide

namespace GeneratedName

theorem isName_forVariable (index : Nat) {table : String} (named : isName table = true)
    (slot : Slot) : isName (forVariable index table slot.text) = true := by
  have letter : isName "v" = true := rfl
  have place : continues slot.text = true := by cases slot <;> rfl
  have number := isName_append letter (continues_toString index)
  have separated := isName_append number (show continues "_" = true from rfl)
  have tabled := isName_append separated (continues_of_isName named)
  exact isName_append (isName_append tabled rfl) place

theorem isName_forFragment {table discriminator : String} (named : isName table = true)
    (valid : isDiscriminator discriminator = true) :
    isName (forFragment table discriminator) = true := by
  have letter : isName "f" = true := rfl
  have number := isName_append letter (continues_toString table.utf8ByteSize)
  have separated := isName_append number (show continues "_" = true from rfl)
  have tabled := isName_append separated (continues_of_isName named)
  unfold forFragment
  split
  · exact isName_append tabled rfl
  · have parted := isName_append tabled (show continues "_" = true from rfl)
    have distinguished : continues discriminator = true := valid
    exact isName_append (isName_append parted distinguished) rfl

end GeneratedName

namespace Table

variable {table : Table}

theorem isName_of_hasNames (named : table.hasNames = true) : isName table.name = true :=
  (Bool.and_eq_true_iff.mp named).1

theorem isName_root (named : table.hasNames = true) (action : Action) :
    isName (action.root table) = true := by
  have suffix := continues_of_isName (isName_of_hasNames named)
  cases action with
  | insert => exact isName_append (show isName "insert_" = true from rfl) suffix
  | update => exact isName_append (show isName "update_" = true from rfl) suffix
  | delete => exact isName_append (show isName "delete_" = true from rfl) suffix

theorem isName_type (named : table.hasNames = true) (writes : Bool) (slot : Slot) :
    isName (slot.type table writes).name = true := by
  have name := isName_of_hasNames named
  have number : isName "Int" = true := rfl
  cases slot <;> first | exact isName_append name rfl | exact number

theorem namedFields_columns (named : table.hasNames = true) :
    namedFields (Selection.ofColumns table.columns.keys) = true := by
  have columns := (Bool.and_eq_true_iff.mp named).2
  rw [List.all_append] at columns
  rw [namedFields_ofColumns]
  exact (Bool.and_eq_true_iff.mp columns).1

theorem namedFields_primaryKey (named : table.hasNames = true) :
    namedFields (Selection.ofColumns table.primaryKey) = true := by
  have columns := (Bool.and_eq_true_iff.mp named).2
  rw [List.all_append] at columns
  rw [namedFields_ofColumns]
  exact (Bool.and_eq_true_iff.mp columns).2

theorem namedFields_readSelection (named : table.hasNames = true) {requested : Selection}
    (given : namedFields requested = true) :
    namedFields (table.readSelection requested) = true := by
  unfold readSelection
  split
  · exact namedFields_columns named
  · exact given

theorem namedFields_returnedSelection (named : table.hasNames = true) {requested : Selection}
    (given : namedFields requested = true) :
    namedFields (table.returnedSelection requested) = true := by
  unfold returnedSelection
  split
  · exact given
  · split
    · exact namedFields_columns named
    · exact namedFields_primaryKey named

end Table

theorem Catalog.hasNames_of_get? {catalog : Catalog} {name : String} {table : Table}
    (named : catalog.hasNames = true) (found : catalog.get? name = some table) :
    table.hasNames = true := by
  refine List.all_eq_true.mp named table ?_
  exact List.mem_map_of_mem (Entries.mem_of_find? found)

end GraphBatch
