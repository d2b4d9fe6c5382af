import Mathlib.Data.List.Basic
import GraphBatch.Proofs.AskedTree
import GraphBatch.Proofs.Composability

/-!
# Texts that say what was asked

If the tables and columns of a catalog and the keys, columns and relations of a
batch have names, then the text of the compiled document is read back as the tree
that the batch asks for: its distinct fragments, its variables with their types,
and one root field for every read or every present action, in order.
-/

namespace GraphBatch

open Syntax

/-! ## Drafts -/

namespace Draft

def declarations (draft : Draft) (writes : Bool) : List Declaration :=
  declarationsOf draft.index draft.table writes (draft.passed.map Passed.slot)

theorem arguments_rootField (draft : Draft) :
    draft.rootField.arguments =
      argumentsOf draft.index draft.table (draft.passed.map Passed.slot) := by
  rw [argumentsOf, List.map_map]
  rfl

/-- A draft in which every name is a name and every variable has the type of its
slot. -/
structure Spelled (writes : Bool) (draft : Draft) : Prop where
  types : ∀ passed ∈ draft.passed, passed.type = (passed.slot.type draft.table writes).text
  table : draft.table.hasNames = true
  operationName : isName draft.operationName = true
  alias? : ∀ other ∈ draft.alias?, isName other = true
  root : isName draft.root = true
  body : namedBody draft.body = true
  fragment : ∀ fragment ∈ draft.fragment, FragmentNamed fragment

namespace Spelled

variable {writes : Bool} {draft : Draft}

theorem declared_eq (spelled : draft.Spelled writes) :
    draft.declared = (draft.declarations writes).map Declaration.variable := by
  unfold declared declarations declarationsOf
  rw [List.map_map, List.map_map]
  refine List.map_congr_left ?_
  intro passed inside
  rw [spelled.types passed inside]
  rfl

theorem declarationNamed (spelled : draft.Spelled writes) :
    ∀ declaration ∈ draft.declarations writes, DeclarationNamed declaration := by
  intro declaration inside
  obtain ⟨slot, _, rfl⟩ := List.mem_map.mp inside
  exact {
    name := GeneratedName.isName_forVariable _ (Table.isName_of_hasNames spelled.table) slot
    type := Table.isName_type spelled.table writes slot }

theorem rootNamed (spelled : draft.Spelled writes) : RootNamed draft.rootField where
  alias? := spelled.alias?
  name := spelled.root
  arguments := by
    intro argument inside
    obtain ⟨passed, _, rfl⟩ := List.mem_map.mp inside
    exact {
      name := passed.slot.isName_argument
      variableName := GeneratedName.isName_forVariable _
        (Table.isName_of_hasNames spelled.table) passed.slot }
  body := spelled.body

end Spelled

end Draft

namespace Document

def treeOf (kind : OperationKind) (writes : Bool) (drafts : List Draft) : Tree where
  fragments := distinctFragments (drafts.filterMap Draft.fragment)
  operation := {
    kind := kind
    name := GeneratedName.forOperation (drafts.map Draft.operationName)
    declared := drafts.flatMap fun draft => draft.declarations writes
    roots := drafts.map fun draft => rootOf draft.rootField }

theorem operationNamed {writes : Bool} {drafts : List Draft}
    (spelled : ∀ draft ∈ drafts, draft.Spelled writes) (filled : drafts ≠ []) :
    OperationNamed (GeneratedName.forOperation (drafts.map Draft.operationName))
      (drafts.flatMap fun draft => draft.declarations writes) (drafts.map Draft.rootField) where
  name := by
    refine isName_intercalate (by simpa using filled) ?_
    intro name inside
    obtain ⟨draft, drafted, rfl⟩ := List.mem_map.mp inside
    exact (spelled draft drafted).operationName
  declared := by
    intro declaration inside
    obtain ⟨draft, drafted, declared⟩ := List.mem_flatMap.mp inside
    exact (spelled draft drafted).declarationNamed declaration declared
  roots := by
    intro root inside
    obtain ⟨draft, drafted, rfl⟩ := List.mem_map.mp inside
    exact (spelled draft drafted).rootNamed

/-- The text of composed drafts is read back as their tree, and every fragment of a
draft is one of the tree's. -/
theorem parse_compose {kind : OperationKind} {writes : Bool} {drafts : List Draft}
    {document : Document} (spelled : ∀ draft ∈ drafts, draft.Spelled writes)
    (composed : compose kind (drafts.map Draft.build) = .ok document) :
    parse document.text = some (treeOf kind writes drafts) ∧
      document.operationName = (treeOf kind writes drafts).operation.name ∧
      ∀ draft ∈ drafts, ∀ fragment ∈ draft.fragment,
        fragment ∈ (treeOf kind writes drafts).fragments := by
  have parts := composedOf composed
  have declared : drafts.flatMap Draft.declared =
      (drafts.flatMap fun draft => draft.declarations writes).map Declaration.variable := by
    rw [List.map_flatMap]
    exact List.flatMap_congr fun draft drafted => (spelled draft drafted).declared_eq
  have defined : ∀ fragment ∈ drafts.filterMap Draft.fragment, FragmentNamed fragment := by
    intro fragment inside
    obtain ⟨draft, drafted, asked⟩ := List.mem_filterMap.mp inside
    exact (spelled draft drafted).fragment fragment asked
  have read := parse_document kind
    (fun fragment inside => defined fragment (mem_of_mem_distinctFragments inside))
    (operationNamed spelled parts.filled) (by simpa using parts.filled)
  refine ⟨?_, parts.operationName, ?_⟩
  · rw [parts.text, parts.operationName, declared, read, List.map_map]
    rfl
  · intro draft drafted fragment asked
    have inside := List.mem_filterMap.mpr ⟨draft, drafted, asked⟩
    obtain ⟨other, kept, same⟩ := List.mem_map.mp (parts.kept fragment inside)
    have equal := render_fragment_inj (defined other (mem_of_mem_distinctFragments kept))
      (defined fragment inside) (Prod.mk.inj same).2
    rw [← equal]
    exact kept

end Document

/-! ## Types -/

theorem text_nullable (name : String) : (TypeReference.named name false).text = name :=
  String.append_empty

theorem text_required (name : String) : (TypeReference.named name true).text = required name :=
  rfl

theorem text_listOf (name : String) :
    (TypeReference.list (.named name true) false).text = listOf name := by
  simp [TypeReference.text, bangText, listOf, String.append_assoc]

theorem text_required_listOf (name : String) :
    (TypeReference.list (.named name true) true).text = required (listOf name) := by
  simp [TypeReference.text, bangText, listOf, required, String.append_assoc]

theorem type_of_passIf {table : Table} {writes : Bool} {slot : Slot} {type : String}
    {value : Option Json} {passed : Passed} (inside : passed ∈ passIf slot type value)
    (same : (slot.type table writes).text = type) :
    passed.type = (passed.slot.type table writes).text := by
  obtain ⟨held, _, rfl⟩ := Option.map_eq_some_iff.mp (Option.mem_toList.mp inside)
  exact same.symm

/-! ## Reads -/

theorem Select.types_passed (select : Select) (table : Table) :
    ∀ passed ∈ select.passed table, passed.type = (passed.slot.type table false).text := by
  intro passed inside
  unfold Select.passed at inside
  simp only [List.mem_append] at inside
  rcases inside with (((filter | order) | limit) | offset) | distinctOn
  · exact type_of_passIf filter (text_nullable _)
  · exact type_of_passIf order (text_listOf _)
  · exact type_of_passIf limit (text_nullable _)
  · exact type_of_passIf offset (text_nullable _)
  · exact type_of_passIf distinctOn (text_listOf _)

namespace Reading

/-- A read of a named table, under a key with a name, of fields with names. -/
structure Spelled (reading : Reading) : Prop where
  key : isName reading.key = true
  table : reading.table.hasNames = true
  fields : namedFields reading.select.fields = true
  discriminator : reading.select.hasDiscriminator = true

theorem Spelled.fragmentNamed {reading : Reading} (spelled : reading.Spelled) :
    ∀ fragment ∈ reading.fragment?, FragmentNamed fragment := by
  intro fragment asked
  obtain ⟨discriminator, given, rfl⟩ := Option.map_eq_some_iff.mp asked
  have name := Table.isName_of_hasNames spelled.table
  have valid := spelled.discriminator
  rw [Select.hasDiscriminator, given] at valid
  exact {
    name := GeneratedName.isName_forFragment name valid
    table := name
    selection := Table.namedFields_readSelection spelled.table spelled.fields }

theorem Spelled.draft {reading : Reading} (spelled : reading.Spelled) (index : Nat) :
    (reading.draft index).Spelled false where
  types := reading.select.types_passed reading.table
  table := spelled.table
  operationName := spelled.key
  alias? := by
    intro other given
    unfold Reading.draft at given
    dsimp only at given
    split at given
    · cases given
    · cases given
      exact spelled.key
  root := Table.isName_of_hasNames spelled.table
  body := by
    unfold Reading.draft
    cases asked : reading.fragment? with
    | none => exact Table.namedFields_readSelection spelled.table spelled.fields
    | some fragment => exact (spelled.fragmentNamed fragment asked).name
  fragment := spelled.fragmentNamed

theorem rootOf_draft (reading : Reading) (index : Nat) :
    rootOf (reading.draft index).rootField = reading.rootTree index := by
  unfold rootOf rootTree
  rw [Draft.arguments_rootField, slots, ← reading.select.slots_passed reading.table]
  unfold Reading.draft Draft.rootField
  cases reading.fragment? with
  | none => rfl
  | some fragment => rfl

theorem declarations_draft (reading : Reading) (index : Nat) :
    (reading.draft index).declarations false = reading.declarations index := by
  rw [declarations, slots, ← reading.select.slots_passed reading.table]
  rfl

end Reading

/-! ## Writes -/

theorem Write.types_passed {write : Write} (table : Table) {action : Action}
    (present : write.has action = true) :
    ∀ passed ∈ write.passed table action,
      passed.type = (passed.slot.type table true).text := by
  obtain ⟨inserted, updated, deleted⟩ := write
  intro passed inside
  cases action with
  | insert =>
      obtain ⟨insert, rfl⟩ := Option.isSome_iff_exists.mp present
      rcases List.mem_cons.mp inside with rfl | onConflict
      · exact (text_required_listOf _).symm
      · exact type_of_passIf onConflict (text_nullable _)
  | update =>
      obtain ⟨update, rfl⟩ := Option.isSome_iff_exists.mp present
      rcases List.mem_append.mp inside with filter_or_set | increment
      · rcases List.mem_cons.mp filter_or_set with rfl | set
        · exact (text_required _).symm
        · exact type_of_passIf set (text_nullable _)
      · exact type_of_passIf increment (text_nullable _)
  | delete =>
      obtain ⟨delete, rfl⟩ := Option.isSome_iff_exists.mp present
      cases List.mem_singleton.mp inside
      exact (text_required _).symm

namespace Writing

/-- A present action on a named table that returns fields with names. -/
structure Spelled (writing : Writing) : Prop where
  present : writing.write.has writing.action = true
  table : writing.table.hasNames = true
  returning : namedFields (writing.write.returning writing.action) = true

theorem Spelled.draft {writing : Writing} (spelled : writing.Spelled) (index : Nat) :
    (writing.draft index).Spelled true where
  types := Write.types_passed writing.table spelled.present
  table := spelled.table
  operationName := Table.isName_root spelled.table writing.action
  alias? := by
    intro other given
    cases given
  root := Table.isName_root spelled.table writing.action
  body := Table.namedFields_returnedSelection spelled.table spelled.returning
  fragment := by
    intro fragment asked
    cases asked

theorem rootOf_draft {writing : Writing} (present : writing.write.has writing.action = true)
    (index : Nat) : rootOf (writing.draft index).rootField = writing.rootTree index := by
  unfold rootOf rootTree
  rw [Draft.arguments_rootField, slots, ← Write.slots_passed writing.table present]
  rfl

theorem Spelled.declarations_draft {writing : Writing} (spelled : writing.Spelled)
    (index : Nat) :
    (writing.draft index).declarations true = writing.declarations index := by
  rw [declarations, slots, ← Write.slots_passed writing.table spelled.present]
  rfl

end Writing

/-! ## Batches -/

theorem Document.treeOf_numbered {α : Type} (kind : OperationKind) (writes : Bool)
    (draft : α → Nat → Draft) (fragment? : α → Option FragmentDefinition) (name : α → String)
    (declarations : α → Nat → List Declaration) (root : α → Nat → Root) {items : List α}
    (fragments : ∀ item index, (draft item index).fragment = fragment? item)
    (names : ∀ item index, (draft item index).operationName = name item)
    (declared : ∀ item ∈ items, ∀ index,
      (draft item index).declarations writes = declarations item index)
    (roots : ∀ item ∈ items, ∀ index, rootOf (draft item index).rootField = root item index) :
    treeOf kind writes (items.zipIdx.map fun numbered => draft numbered.1 numbered.2) = {
      fragments := distinctFragments (items.filterMap fragment?)
      operation := {
        kind := kind
        name := GeneratedName.forOperation (items.map name)
        declared := items.zipIdx.flatMap fun numbered => declarations numbered.1 numbered.2
        roots := items.zipIdx.map fun numbered => root numbered.1 numbered.2 } } := by
  have inside : ∀ numbered ∈ items.zipIdx, numbered.1 ∈ items := by
    intro numbered listed
    exact List.fst_mem_of_mem_zipIdx listed
  have fragments_eq := filterMap_numbered fragments items 0
  have names_eq := map_numbered names items 0
  have declared_eq : (items.zipIdx.map fun numbered => draft numbered.1 numbered.2).flatMap
      (fun draft => draft.declarations writes) =
      items.zipIdx.flatMap fun numbered => declarations numbered.1 numbered.2 := by
    rw [List.flatMap_map]
    exact List.flatMap_congr fun numbered listed => declared _ (inside numbered listed) _
  have roots_eq : (items.zipIdx.map fun numbered => draft numbered.1 numbered.2).map
      (fun draft => rootOf draft.rootField) =
      items.zipIdx.map fun numbered => root numbered.1 numbered.2 := by
    rw [List.map_map]
    exact List.map_congr_left fun numbered listed => roots _ (inside numbered listed) _
  rw [treeOf, fragments_eq, names_eq, declared_eq, roots_eq]

theorem spelled_readings {catalog : Catalog} {query : Query}
    (tables_named : catalog.hasNames = true) (named : query.hasNames = true)
    (valid : ∀ entry ∈ query.tables, entry.2.hasDiscriminator = true) :
    ∀ reading ∈ readings catalog query.tables, reading.Spelled := by
  intro reading inside
  obtain ⟨given, found⟩ := of_mem_readings inside
  obtain ⟨key_named, fields⟩ := Bool.and_eq_true_iff.mp (List.all_eq_true.mp named _ given)
  exact {
    key := key_named
    table := Catalog.hasNames_of_get? tables_named found
    fields := fields
    discriminator := valid _ given }

theorem Query.treeOf_drafts (query : Query) (catalog : Catalog) (kind : OperationKind) :
    Document.treeOf kind false (Reading.drafts (readings catalog query.tables) 0) =
      query.tree catalog kind :=
  Document.treeOf_numbered kind false Reading.draft Reading.fragment? Reading.key
    Reading.declarations Reading.rootTree (fun _ _ => rfl) (fun _ _ => rfl)
    (fun reading _ index => reading.declarations_draft index)
    (fun reading _ index => reading.rootOf_draft index)

theorem spelled_writings {catalog : Catalog} {mutation : Mutation}
    (tables_named : catalog.hasNames = true) (named : mutation.hasNames = true) :
    ∀ writing ∈ writings catalog mutation.tables, writing.Spelled := by
  intro writing inside
  obtain ⟨given, present, found⟩ := of_mem_writings inside
  have listed : writing.action ∈ Action.all := by cases writing.action <;> decide
  have returned := List.all_eq_true.mp (List.all_eq_true.mp named _ given) _ listed
  exact {
    present := present
    table := Catalog.hasNames_of_get? tables_named found
    returning := returned }

/-- The tree of the drafts of a mutation's actions is the tree that the mutation asks
for. -/
theorem Mutation.treeOf_drafts {mutation : Mutation} {catalog : Catalog}
    (spelled : ∀ writing ∈ writings catalog mutation.tables, writing.Spelled) :
    Document.treeOf .mutation true (Writing.drafts (writings catalog mutation.tables) 0) =
      mutation.tree catalog := by
  have numbered := Document.treeOf_numbered .mutation true Writing.draft (fun _ => none)
    Writing.root Writing.declarations Writing.rootTree (fun _ _ => rfl) (fun _ _ => rfl)
    (fun writing inside index => (spelled writing inside).declarations_draft index)
    (fun writing inside index => Writing.rootOf_draft (spelled writing inside).present index)
  rw [List.filterMap_none] at numbered
  exact numbered

/-- A database of posts and authors. -/
def spelledCatalog : Catalog where
  tables := [
    ("post", ⟨"post", .baseTable, [("id", ⟨"id", "integer", "int4"⟩)], ["id"]⟩),
    ("author", ⟨"author", .view, [("name", ⟨"name", "text", "text"⟩)], []⟩)]
  distinct := by decide
  named := by decide

/-- Two reads that use one fragment, and a read of relations. -/
def spelledQuery : Query where
  tables := [
    ("recent", ⟨some "post", none, none, some 3, none, none, [], some "head"⟩),
    ("post", ⟨none, some .null, none, none, none, none, [], some "head"⟩),
    ("author", ⟨none, none, none, none, none, none,
      [.relation "posts" [.relation "tags" [], .column "id"], .column "name"], none⟩)]
  flattenSingle := false
  distinct := by decide

/-- An insert and a deletion. -/
def spelledMutation : Mutation where
  tables := [
    ("post", ⟨some ⟨.obj [], some .null, []⟩, none, none⟩),
    ("author", ⟨none, none, some ⟨.obj [], []⟩⟩)]
  distinct := by decide

end GraphBatch
