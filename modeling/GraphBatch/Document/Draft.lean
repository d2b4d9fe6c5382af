import GraphBatch.Document.Build
import GraphBatch.Catalog.Basic
import GraphBatch.Params.Basic
import GraphBatch.GeneratedName

/-!
# Drafts

A draft is what one read or one write asks for, before it is rendered: the table
it resolves to, the values it passes and the fields it requests. Drafts are
numbered, and the number of a draft enters the names of its variables; a number
that was taken stays taken when the draft fails afterwards.
-/

namespace GraphBatch

/-- The params that are passed as variables. -/
inductive Slot where
  | filter
  | order
  | limit
  | offset
  | distinctOn
  | objects
  | onConflict
  | set
  | increment
deriving DecidableEq, Repr

namespace Slot

/-- The last part of the name of a slot's variable. -/
def text : Slot → String
  | .filter => "where"
  | .order => "order_by"
  | .limit => "limit"
  | .offset => "offset"
  | .distinctOn => "distinct_on"
  | .objects => "objects"
  | .onConflict => "on_conflict"
  | .set => "set"
  | .increment => "inc"

def argument : Slot → String
  | .set => "_set"
  | .increment => "_inc"
  | slot => slot.text

end Slot

/-- A value that is passed in a slot, with the type its variable is declared of. -/
structure Passed where
  slot : Slot
  type : String
  value : Json
deriving Repr, BEq

/-- What one read or one write asks for. -/
structure Draft where
  /-- The number of the draft. -/
  index : Nat
  key : String
  table : Table
  /-- The part of the operation's name. -/
  operationName : String
  alias? : Option String
  /-- The name of the root field. -/
  root : String
  passed : List Passed
  body : Body
  fragment : Option FragmentDefinition
  flatPath : Option FlatPath
deriving Repr

namespace Draft

def variableName (draft : Draft) (slot : Slot) : String :=
  GeneratedName.forVariable draft.index draft.table.name slot.text

def declared (draft : Draft) : List Variable :=
  draft.passed.map fun passed => ⟨draft.variableName passed.slot, passed.type⟩

def bindings (draft : Draft) : Entries Json :=
  .ofPairs (draft.passed.map fun passed => (draft.variableName passed.slot, passed.value))

def rootField (draft : Draft) : RootField where
  alias? := draft.alias?
  name := draft.root
  arguments := draft.passed.map fun passed =>
    ⟨passed.slot.argument, draft.variableName passed.slot⟩
  body := draft.body

def build (draft : Draft) : Build where
  key := draft.key
  operationName := draft.operationName
  declared := draft.declared
  bindings := draft.bindings
  selection := draft.rootField.render
  fragment := draft.fragment.map fun fragment => ⟨fragment.name, fragment.render⟩
  flatPath := draft.flatPath

end Draft

/-- Every known column of a table, or an error if none is known. -/
def Table.allColumns (table : Table) (key : String) : Outcome Selection :=
  if table.columns.isEmpty then
    .error (.invalidParams ("no fields requested for `" ++ key ++ "` and table `"
      ++ table.name ++ "` has no known columns"))
  else .ok (.ofColumns table.columns.keys)

/-- The requested fields, or else every known column. -/
def Table.readFields (table : Table) (key : String) (requested : Selection) : Outcome Selection :=
  if requested.isEmpty then table.allColumns key else .ok requested

/-- The requested fields, or else the primary key, or else every known column. -/
def Table.returnedFields (table : Table) (key : String) (requested : Selection) :
    Outcome Selection :=
  if ¬ requested.isEmpty then .ok requested
  else if table.primaryKey.isEmpty then table.allColumns key
  else .ok (.ofColumns table.primaryKey)

def required (type : String) : String := type ++ "!"

def listOf (type : String) : String := "[" ++ type ++ "!]"

/-- A value passed in a slot, if it is present. -/
def passIf (slot : Slot) (type : String) (value : Option Json) : List Passed :=
  (value.map fun value => ⟨slot, type, value⟩).toList

def Select.passed (select : Select) (table : Table) : List Passed :=
  passIf .filter table.filterType select.filter
    ++ passIf .order (listOf table.orderType) select.order
    ++ passIf .limit "Int" (select.limit.map .ofNat)
    ++ passIf .offset "Int" (select.offset.map .ofNat)
    ++ passIf .distinctOn (listOf table.columnType) (select.distinctOn.map .ofStrings)

def Insert.objectList (insert : Insert) : Json :=
  match insert.objects with
  | .arr items => .arr items
  | object => .arr [object]

def Insert.passed (insert : Insert) (table : Table) : List Passed :=
  ⟨.objects, required (listOf table.insertType), insert.objectList⟩
    :: passIf .onConflict table.conflictType insert.onConflict

def Update.passed (update : Update) (table : Table) : List Passed :=
  ⟨.filter, required table.filterType, update.filter⟩
    :: passIf .set table.setType update.set
    ++ passIf .increment table.incrementType update.increment

def Delete.passed (delete : Delete) (table : Table) : List Passed :=
  [⟨.filter, required table.filterType, delete.filter⟩]

/-- What a drafting step leaves: the next free number, and the outcome. -/
abbrev Numbered (α : Type) := Nat × Outcome α

def Select.fragment? (select : Select) (key : String) (table : Table) (fields : Selection) :
    Outcome (Option FragmentDefinition) :=
  match select.fragment with
  | none => .ok none
  | some discriminator =>
      if GeneratedName.isDiscriminator discriminator then
        .ok (some ⟨GeneratedName.forFragment table.name discriminator, table.selectRoot, fields⟩)
      else
        .error (.invalidParams ("fragment discriminator `" ++ discriminator ++ "` on `" ++ key
          ++ "` is not a valid name part"))

def Select.draftOn (select : Select) (key : String) (table : Table) (index : Nat) :
    Outcome Draft := do
  let fields ← table.readFields key select.fields
  let fragment ← select.fragment? key table fields
  .ok {
    index := index
    key := key
    table := table
    operationName := key
    alias? := if key = table.name then none else some key
    root := table.selectRoot
    passed := select.passed table
    body :=
      match fragment with
      | some fragment => .spread fragment.name
      | none => .fields fields
    fragment := fragment
    flatPath := none }

def Select.draft (select : Select) (catalog : Catalog) (key : String) (index : Nat) :
    Numbered Draft :=
  match catalog.lookup (select.tableName key) with
  | .error error => (index, .error error)
  | .ok table => (index + 1, select.draftOn key table index)

def Action.root (action : Action) (table : Table) : String :=
  match action with
  | .insert => table.insertRoot
  | .update => table.updateRoot
  | .delete => table.deleteRoot

def Action.draftOn (action : Action) (key : String) (table : Table) (index : Nat)
    (passed : List Passed) (returning : Selection) : Outcome Draft := do
  let fields ← table.returnedFields key returning
  let root := action.root table
  .ok {
    index := index
    key := key
    table := table
    operationName := root
    alias? := none
    root := root
    passed := passed
    body := .returning fields
    fragment := none
    flatPath := some ⟨⟨[key, action.text]⟩, ⟨[root, "returning"]⟩⟩ }

namespace Write

def draftOf (write : Write) (key : String) (table : Table) (index : Nat) :
    Action → Option (Numbered Draft)
  | .insert => write.insert.map fun insert =>
      (index + 1,
        Action.insert.draftOn key table index (insert.passed table) insert.returning)
  | .update => write.update.map fun update =>
      if update.set.isNone ∧ update.increment.isNone then
        (index, .error (.invalidParams ("update on `" ++ key ++ "` sets no columns")))
      else
        (index + 1,
          Action.update.draftOn key table index (update.passed table) update.returning)
  | .delete => write.delete.map fun delete =>
      (index + 1,
        Action.delete.draftOn key table index (delete.passed table) delete.returning)

/-- The drafts of the present writes among some actions, up to the first failure. -/
def draftsOf (write : Write) (key : String) (table : Table) :
    List Action → Nat → Numbered (List Draft)
  | [], index => (index, .ok [])
  | action :: rest, index =>
      match write.draftOf key table index action with
      | none => draftsOf write key table rest index
      | some (next, .error error) => (next, .error error)
      | some (next, .ok draft) =>
          match draftsOf write key table rest next with
          | (last, .error error) => (last, .error error)
          | (last, .ok drafts) => (last, .ok (draft :: drafts))

def drafts (write : Write) (catalog : Catalog) (key : String) (index : Nat) :
    Numbered (List Draft) :=
  match catalog.lookup key with
  | .error error => (index, .error error)
  | .ok table => write.draftsOf key table Action.all index

end Write

end GraphBatch
