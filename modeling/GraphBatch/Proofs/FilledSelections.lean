import GraphBatch.Proofs.Faithfulness
import GraphBatch.Proofs.RefusedReads
import GraphBatch.Proofs.RefusedWrites

/-!
# Selection sets that are filled

The braces of a compiled document hold at least one field wherever the fields are
chosen for a table: no fields at all are replaced by columns that are known. A
relation that is asked for no fields is written as it is. So every selection set
of a document is filled exactly if every relation that was asked for is.
-/

namespace GraphBatch

open Syntax

/-! ## Selections -/

namespace Selection

inductive Asks (field : Field) : Selection → Prop where
  | here {fields : Selection} (inside : field ∈ fields) : Asks field fields
  | deeper {name : String} {inner fields : Selection}
      (inside : .relation name inner ∈ fields) (asked : Asks field inner) : Asks field fields

/-- No relation is asked for without fields. -/
def RelationsFilled (selection : Selection) : Prop :=
  ∀ name, ¬ Asks (.relation name []) selection

mutual

def setsInField : Field → List Selection
  | .column _ => []
  | .relation _ fields => fields :: setsInFields fields

def setsInFields : List Field → List Selection
  | [] => []
  | field :: rest => setsInField field ++ setsInFields rest

end

def sets (selection : Selection) : List Selection :=
  selection :: setsInFields selection

/-- No selection set is empty. -/
def AllFilled (sets : List Selection) : Prop :=
  ∀ set ∈ sets, set ≠ []

theorem allFilled_cons {set : Selection} {others : List Selection} :
    AllFilled (set :: others) ↔ set ≠ [] ∧ AllFilled others :=
  List.forall_mem_cons

theorem allFilled_append {first second : List Selection} :
    AllFilled (first ++ second) ↔ AllFilled first ∧ AllFilled second :=
  List.forall_mem_append

theorem allFilled_flatMap {α : Type} {items : List α} {part : α → List Selection} :
    AllFilled (items.flatMap part) ↔ ∀ item ∈ items, AllFilled (part item) := by
  unfold AllFilled
  rw [List.forall_mem_flatMap]

theorem asks_cons {wanted field : Field} {rest : Selection} :
    Asks wanted (field :: rest) ↔ Asks wanted [field] ∨ Asks wanted rest := by
  constructor
  · rintro (inside | ⟨inside, asked⟩)
    · rcases List.mem_cons.mp inside with rfl | later
      · exact Or.inl (.here List.mem_cons_self)
      · exact Or.inr (.here later)
    · rcases List.mem_cons.mp inside with rfl | later
      · exact Or.inl (.deeper List.mem_cons_self asked)
      · exact Or.inr (.deeper later asked)
  · rintro (first | later)
    · cases first with
      | here inside => exact .here (List.mem_cons.mpr (Or.inl (List.mem_singleton.mp inside)))
      | deeper inside asked =>
          exact .deeper (List.mem_cons.mpr (Or.inl (List.mem_singleton.mp inside))) asked
    · cases later with
      | here inside => exact .here (List.mem_cons_of_mem _ inside)
      | deeper inside asked => exact .deeper (List.mem_cons_of_mem _ inside) asked

theorem relationsFilled_nil : RelationsFilled [] := by
  intro name asked
  cases asked with
  | here inside => cases inside
  | deeper inside _ => cases inside

theorem relationsFilled_cons {field : Field} {rest : Selection} :
    RelationsFilled (field :: rest) ↔ RelationsFilled [field] ∧ RelationsFilled rest := by
  unfold RelationsFilled
  rw [← forall_and]
  refine forall_congr' fun name => ?_
  rw [asks_cons, not_or]

theorem relationsFilled_column (name : String) : RelationsFilled [.column name] := by
  intro other asked
  cases asked with
  | here inside => cases List.mem_singleton.mp inside
  | deeper inside _ => cases List.mem_singleton.mp inside

theorem relationsFilled_relation {name : String} {fields : Selection} :
    RelationsFilled [.relation name fields] ↔ fields ≠ [] ∧ RelationsFilled fields := by
  constructor
  · intro filled
    constructor
    · rintro rfl
      exact filled name (.here List.mem_cons_self)
    · intro other asked
      exact filled other (.deeper List.mem_cons_self asked)
  · rintro ⟨given, filled⟩ other asked
    cases asked with
    | here inside =>
        cases List.mem_singleton.mp inside
        exact given rfl
    | deeper inside asked =>
        cases List.mem_singleton.mp inside
        exact filled other asked

mutual

theorem allFilled_setsInField (field : Field) :
    AllFilled (setsInField field) ↔ RelationsFilled [field] := by
  cases field with
  | column name => exact iff_of_true (List.forall_mem_nil _) (relationsFilled_column name)
  | relation name fields =>
      rw [setsInField, allFilled_cons, relationsFilled_relation, allFilled_setsInFields fields]

theorem allFilled_setsInFields (fields : List Field) :
    AllFilled (setsInFields fields) ↔ RelationsFilled fields := by
  cases fields with
  | nil => exact iff_of_true (List.forall_mem_nil _) relationsFilled_nil
  | cons field rest =>
      rw [setsInFields, allFilled_append, relationsFilled_cons, allFilled_setsInField field,
        allFilled_setsInFields rest]

end

theorem allFilled_sets {selection : Selection} :
    AllFilled selection.sets ↔ selection ≠ [] ∧ selection.RelationsFilled := by
  rw [sets, allFilled_cons, allFilled_setsInFields]

theorem relationsFilled_ofColumns (names : List String) : (ofColumns names).RelationsFilled := by
  induction names with
  | nil => exact relationsFilled_nil
  | cons name names ih => exact relationsFilled_cons.mpr ⟨relationsFilled_column name, ih⟩

theorem allFilled_ofColumns {names : List String} (some_names : names ≠ []) :
    AllFilled (ofColumns names).sets := by
  refine allFilled_sets.mpr ⟨?_, relationsFilled_ofColumns names⟩
  simpa [ofColumns] using some_names

end Selection

open Selection (AllFilled allFilled_sets allFilled_append allFilled_flatMap allFilled_ofColumns
  relationsFilled_nil relationsFilled_relation)

/-! ## Fields that are chosen for a table -/

namespace Table

variable {table : Table} {requested : Selection}

/-- What a read asks for is filled, as far as the read has a say in it. -/
theorem allFilled_readSelection (chosen : requested ≠ [] ∨ table.columns ≠ []) :
    AllFilled (table.readSelection requested).sets ↔ requested.RelationsFilled := by
  unfold readSelection
  by_cases blank : requested = []
  · have known : table.columns.keys ≠ [] := by
      simpa [Entries.keys] using chosen.resolve_left (not_not.mpr blank)
    rw [if_pos (List.isEmpty_iff.mpr blank), blank]
    exact iff_of_true (allFilled_ofColumns known) relationsFilled_nil
  · rw [if_neg (by simpa using blank), allFilled_sets, and_iff_right blank]

/-- What a write returns is filled, as far as the write has a say in it. -/
theorem allFilled_returnedSelection
    (chosen : requested ≠ [] ∨ table.primaryKey ≠ [] ∨ table.columns ≠ []) :
    AllFilled (table.returnedSelection requested).sets ↔ requested.RelationsFilled := by
  unfold returnedSelection
  by_cases blank : requested = []
  · rw [if_neg (by simpa using blank), blank]
    by_cases keyless : table.primaryKey = []
    · have known : table.columns.keys ≠ [] := by
        simpa [Entries.keys, blank, keyless] using chosen
      rw [if_pos (List.isEmpty_iff.mpr keyless)]
      exact iff_of_true (allFilled_ofColumns known) relationsFilled_nil
    · rw [if_neg (by simpa using keyless)]
      exact iff_of_true (allFilled_ofColumns keyless) relationsFilled_nil
  · rw [if_pos (by simpa using blank), allFilled_sets, and_iff_right blank]

end Table

/-! ## Trees -/

namespace Syntax

/-- The selection sets in the braces of a root field. The spread of a fragment leaves
them to the fragment. -/
def SelectionSet.sets : SelectionSet → List Selection
  | .fields selection => selection.sets
  | .spread _ => []

/-- The selection sets of a document, in its fragments and its root fields. -/
def Tree.sets (tree : Tree) : List Selection :=
  tree.fragments.flatMap (fun fragment => fragment.selection.sets) ++
    tree.operation.roots.flatMap fun root => root.selection.sets

theorem Tree.allFilled_sets {tree : Tree} :
    AllFilled tree.sets ↔
      (∀ fragment ∈ tree.fragments, AllFilled fragment.selection.sets) ∧
        ∀ root ∈ tree.operation.roots, AllFilled root.selection.sets := by
  rw [sets, allFilled_append, allFilled_flatMap, allFilled_flatMap]

end Syntax

/-- A document is written from the parts of a tree: from its fragments, and from root
fields of which there is at least one. -/
structure Document.WrittenFrom (document : Document) (tree : Tree) : Prop where
  filled : tree.operation.roots ≠ []
  text : ∃ (declared : List Variable) (roots : List RootField),
    roots.map rootOf = tree.operation.roots ∧
    document.text = String.join (tree.fragments.map fun fragment => fragment.render ++ "\n") ++
      Document.operationText tree.operation.kind document.operationName declared
        (roots.map RootField.render)

theorem Document.writtenFrom_of_compose {kind : OperationKind} {drafts : List Draft}
    {document : Document} {tree : Tree}
    (composed : compose kind (drafts.map Draft.build) = .ok document)
    (same_kind : tree.operation.kind = kind)
    (fragments : tree.fragments = distinctFragments (drafts.filterMap Draft.fragment))
    (roots : tree.operation.roots = drafts.map fun draft => rootOf draft.rootField) :
    document.WrittenFrom tree := by
  have parts := composedOf composed
  constructor
  · rw [roots]
    simpa using parts.filled
  · refine ⟨drafts.flatMap Draft.declared, drafts.map Draft.rootField, ?_, ?_⟩
    · rw [roots, List.map_map]
      rfl
    · rw [fragments, same_kind]
      exact parts.text

/-! ## Reads -/

namespace Reading

def HasFields (reading : Reading) : Prop :=
  reading.select.fields ≠ [] ∨ reading.table.columns ≠ []

theorem allFilled_selection {reading : Reading} (chosen : reading.HasFields) :
    AllFilled reading.selection.sets ↔ reading.select.fields.RelationsFilled :=
  Table.allFilled_readSelection chosen

/-- The root field of a read is filled, or leaves its fields to the fragment of the read. -/
theorem allFilled_rootTree (reading : Reading) (index : Nat) :
    AllFilled (reading.rootTree index).selection.sets ↔
      reading.fragment? = none → AllFilled reading.selection.sets := by
  unfold rootTree
  cases asked : reading.fragment? with
  | none => simp [SelectionSet.sets]
  | some fragment => simp [SelectionSet.sets, AllFilled]

theorem selection_of_fragment? {reading : Reading} {fragment : FragmentDefinition}
    (asked : reading.fragment? = some fragment) : fragment.selection = reading.selection := by
  obtain ⟨discriminator, _, rfl⟩ := Option.map_eq_some_iff.mp asked
  rfl

end Reading

namespace Query

variable {kind : OperationKind} {catalog : Catalog} {query : Query} {document : Document}

theorem writtenFrom (compiled : Document.ofReads kind catalog query = .ok document) :
    document.WrittenFrom (query.tree catalog kind) := by
  obtain ⟨_, _, composed⟩ := Document.ofReads_eq_ok compiled
  refine Document.writtenFrom_of_compose composed rfl ?_ ?_
  · rw [← query.treeOf_drafts catalog kind]
    rfl
  · rw [← query.treeOf_drafts catalog kind]
    rfl

theorem hasFields_of_compiled (compiled : Document.ofReads kind catalog query = .ok document) :
    ∀ reading ∈ readings catalog query.tables, reading.HasFields := by
  intro reading inside
  obtain ⟨given, found⟩ := of_mem_readings inside
  obtain ⟨table, also, chosen, _⟩ := (exists_ofReads_iff.mp ⟨document, compiled⟩).reads _ given
  cases found.symm.trans also
  exact chosen

theorem exists_reading (compiled : Document.ofReads kind catalog query = .ok document)
    {entry : String × Select} (inside : entry ∈ query.tables) :
    ∃ reading ∈ readings catalog query.tables, reading.select = entry.2 := by
  obtain ⟨table, found, _⟩ := (exists_ofReads_iff.mp ⟨document, compiled⟩).reads _ inside
  refine ⟨⟨entry.1, table, entry.2⟩, List.mem_filterMap.mpr ⟨entry, inside, ?_⟩, rfl⟩
  rw [found]
  rfl

theorem allFilled_tree (compiled : Document.ofReads kind catalog query = .ok document)
    (filled : ∀ entry ∈ query.tables, entry.2.fields.RelationsFilled) :
    AllFilled (query.tree catalog kind).sets := by
  have each : ∀ reading ∈ readings catalog query.tables, AllFilled reading.selection.sets := by
    intro reading inside
    rw [Reading.allFilled_selection (hasFields_of_compiled compiled reading inside)]
    exact filled _ (of_mem_readings inside).1
  refine Tree.allFilled_sets.mpr ⟨?_, ?_⟩
  · intro fragment known
    obtain ⟨reading, inside, asked⟩ :=
      List.mem_filterMap.mp (Document.mem_of_mem_distinctFragments known)
    rw [Reading.selection_of_fragment? asked]
    exact each reading inside
  · intro root listed
    obtain ⟨⟨reading, index⟩, numbered, rfl⟩ := List.mem_map.mp listed
    rw [Reading.allFilled_rootTree]
    exact fun _ => each reading (List.fst_mem_of_mem_zipIdx numbered)

/-- Where everything has a name, the text of a query is read back as its tree, in which
no fragment of a read is missing. -/
theorem parse_text (tables_named : catalog.hasNames = true) (named : query.hasNames = true)
    (compiled : Document.ofReads kind catalog query = .ok document) :
    parse document.text = some (query.tree catalog kind) ∧
      ∀ reading ∈ readings catalog query.tables, ∀ fragment ∈ reading.fragment?,
        fragment ∈ (query.tree catalog kind).fragments := by
  obtain ⟨_, valid, composed⟩ := Document.ofReads_eq_ok compiled
  have spelled := spelled_readings tables_named named valid
  have drafted : ∀ draft ∈ Reading.drafts (readings catalog query.tables) 0,
      draft.Spelled false := by
    intro draft inside
    obtain ⟨⟨reading, index⟩, listed, rfl⟩ := List.mem_map.mp inside
    exact (spelled reading (List.fst_mem_of_mem_zipIdx listed)).draft index
  obtain ⟨read, _, fragments⟩ := Document.parse_compose drafted composed
  rw [query.treeOf_drafts catalog kind] at read fragments
  refine ⟨read, ?_⟩
  intro reading inside fragment asked
  obtain ⟨index, listed⟩ := List.mem_iff_getElem?.mp inside
  have numbered : (reading, index) ∈ (readings catalog query.tables).zipIdx :=
    List.mk_mem_zipIdx_iff_getElem?.mpr listed
  exact fragments (reading.draft index) (List.mem_map_of_mem numbered) fragment asked

theorem relationsFilled_of_tree (compiled : Document.ofReads kind catalog query = .ok document)
    (present : ∀ reading ∈ readings catalog query.tables, ∀ fragment ∈ reading.fragment?,
      fragment ∈ (query.tree catalog kind).fragments)
    (filled : AllFilled (query.tree catalog kind).sets) :
    ∀ entry ∈ query.tables, entry.2.fields.RelationsFilled := by
  obtain ⟨fragments, roots⟩ := Tree.allFilled_sets.mp filled
  intro entry inside
  obtain ⟨reading, read, same⟩ := exists_reading compiled inside
  rw [← same, ← Reading.allFilled_selection (hasFields_of_compiled compiled reading read)]
  cases asked : reading.fragment? with
  | none =>
      obtain ⟨index, listed⟩ := List.mem_iff_getElem?.mp read
      have numbered : (reading, index) ∈ (readings catalog query.tables).zipIdx :=
        List.mk_mem_zipIdx_iff_getElem?.mpr listed
      exact (Reading.allFilled_rootTree reading index).mp
        (roots _ (List.mem_map_of_mem numbered)) asked
  | some fragment =>
      rw [← Reading.selection_of_fragment? asked]
      exact fragments fragment (present reading read fragment asked)

end Query

/-! ## Writes -/

namespace Writing

def HasFields (writing : Writing) : Prop :=
  writing.write.returning writing.action ≠ [] ∨ writing.table.primaryKey ≠ [] ∨
    writing.table.columns ≠ []

theorem allFilled_rootTree {writing : Writing} (chosen : writing.HasFields) (index : Nat) :
    AllFilled (writing.rootTree index).selection.sets ↔
      (writing.write.returning writing.action).RelationsFilled := by
  have returned : AllFilled writing.selection.sets ↔
      (writing.write.returning writing.action).RelationsFilled :=
    Table.allFilled_returnedSelection chosen
  rw [← returned, rootTree, SelectionSet.sets, allFilled_sets, relationsFilled_relation,
    ← allFilled_sets]
  exact and_iff_right (List.cons_ne_nil _ _)

end Writing

namespace Mutation

variable {catalog : Catalog} {mutation : Mutation} {document : Document}

theorem writtenFrom (compiled : Document.ofMutation catalog mutation = .ok document) :
    document.WrittenFrom (mutation.tree catalog) := by
  obtain ⟨_, composed⟩ := Document.ofMutation_eq_ok compiled
  refine Document.writtenFrom_of_compose composed rfl ?_ ?_
  · have plain : (Writing.drafts (writings catalog mutation.tables) 0).filterMap
        Draft.fragment = [] :=
      List.filterMap_eq_nil_iff.mpr fun draft => Writing.fragment_of_mem_drafts
    rw [plain]
    rfl
  · rw [Writing.drafts, List.map_map]
    refine List.map_congr_left ?_
    intro numbered listed
    have present := (of_mem_writings (List.fst_mem_of_mem_zipIdx listed)).2.1
    exact (Writing.rootOf_draft present numbered.2).symm

theorem hasFields_of_compiled (compiled : Document.ofMutation catalog mutation = .ok document) :
    ∀ writing ∈ writings catalog mutation.tables, writing.HasFields := by
  intro writing inside
  obtain ⟨given, present, found⟩ := of_mem_writings inside
  obtain ⟨table, also, _, chosen⟩ := (exists_ofMutation_iff.mp ⟨document, compiled⟩).writes _ given
  cases found.symm.trans also
  exact chosen writing.action present

theorem exists_writing (compiled : Document.ofMutation catalog mutation = .ok document)
    {entry : String × Write} (inside : entry ∈ mutation.tables) {action : Action}
    (present : entry.2.has action = true) :
    ∃ writing ∈ writings catalog mutation.tables,
      writing.write = entry.2 ∧ writing.action = action := by
  obtain ⟨table, found, _⟩ :=
    (exists_ofMutation_iff.mp ⟨document, compiled⟩).writes _ inside
  refine ⟨⟨entry.1, table, entry.2, action⟩, List.mem_flatMap.mpr ⟨entry, inside, ?_⟩, rfl, rfl⟩
  have listed : action ∈ Action.all := by cases action <;> decide
  rw [found]
  exact List.mem_map_of_mem (List.mem_filter.mpr ⟨listed, present⟩)

/-- The tree of a compiled mutation is filled exactly if the relations are that its present
actions return. -/
theorem allFilled_tree (compiled : Document.ofMutation catalog mutation = .ok document) :
    AllFilled (mutation.tree catalog).sets ↔
      ∀ entry ∈ mutation.tables, ∀ action, entry.2.has action = true →
        (entry.2.returning action).RelationsFilled := by
  have chosen := hasFields_of_compiled compiled
  rw [Tree.allFilled_sets]
  constructor
  · rintro ⟨_, roots⟩ entry inside action present
    obtain ⟨writing, listed, same_write, same_action⟩ := exists_writing compiled inside present
    rw [← same_write, ← same_action]
    obtain ⟨index, found⟩ := List.mem_iff_getElem?.mp listed
    have numbered : (writing, index) ∈ (writings catalog mutation.tables).zipIdx :=
      List.mk_mem_zipIdx_iff_getElem?.mpr found
    exact (Writing.allFilled_rootTree (chosen writing listed) index).mp
      (roots _ (List.mem_map_of_mem numbered))
  · intro filled
    refine ⟨List.forall_mem_nil _, ?_⟩
    intro root listed
    obtain ⟨⟨writing, index⟩, numbered, rfl⟩ := List.mem_map.mp listed
    have inside := List.fst_mem_of_mem_zipIdx numbered
    obtain ⟨given, present, _⟩ := of_mem_writings inside
    exact (Writing.allFilled_rootTree (chosen writing inside) index).mpr
      (filled _ given _ present)

/-- Where everything has a name, the text of a mutation is read back as its tree. -/
theorem parse_text (tables_named : catalog.hasNames = true) (named : mutation.hasNames = true)
    (compiled : Document.ofMutation catalog mutation = .ok document) :
    parse document.text = some (mutation.tree catalog) := by
  obtain ⟨_, composed⟩ := Document.ofMutation_eq_ok compiled
  have spelled := spelled_writings tables_named named
  have drafted : ∀ draft ∈ Writing.drafts (writings catalog mutation.tables) 0,
      draft.Spelled true := by
    intro draft inside
    obtain ⟨⟨writing, index⟩, listed, rfl⟩ := List.mem_map.mp inside
    exact (spelled writing (List.fst_mem_of_mem_zipIdx listed)).draft index
  obtain ⟨read, _, _⟩ := Document.parse_compose drafted composed
  rw [treeOf_drafts spelled] at read
  exact read

end Mutation

/-- A compiled document is written from a tree. If every relation that is asked for has
fields, then no selection set of the tree is empty, at any depth, in fragments, in root
fields and in returned rows: what is asked for no fields at a table gets columns instead.
If all names are names, the text is read back as the tree, and a relation without fields,
at any depth, is the only way to an empty selection set. -/
theorem filled_of_compiled (catalog : Catalog) :
    (∀ (kind : OperationKind) (query : Query) (document : Document),
      Document.ofReads kind catalog query = .ok document →
      document.WrittenFrom (query.tree catalog kind) ∧
      ((∀ entry ∈ query.tables, entry.2.fields.RelationsFilled) →
        AllFilled (query.tree catalog kind).sets) ∧
      (catalog.hasNames = true → query.hasNames = true →
        ∃ tree, parse document.text = some tree ∧
          (AllFilled tree.sets ↔ ∀ entry ∈ query.tables, entry.2.fields.RelationsFilled))) ∧
    ∀ (mutation : Mutation) (document : Document),
      Document.ofMutation catalog mutation = .ok document →
      document.WrittenFrom (mutation.tree catalog) ∧
      ((∀ entry ∈ mutation.tables, ∀ action, entry.2.has action = true →
          (entry.2.returning action).RelationsFilled) →
        AllFilled (mutation.tree catalog).sets) ∧
      (catalog.hasNames = true → mutation.hasNames = true →
        ∃ tree, parse document.text = some tree ∧
          (AllFilled tree.sets ↔
            ∀ entry ∈ mutation.tables, ∀ action, entry.2.has action = true →
              (entry.2.returning action).RelationsFilled)) := by
  constructor
  · intro kind query document compiled
    refine ⟨Query.writtenFrom compiled, Query.allFilled_tree compiled, ?_⟩
    intro tables_named named
    obtain ⟨read, present⟩ := Query.parse_text tables_named named compiled
    exact ⟨_, read, Query.relationsFilled_of_tree compiled present,
      Query.allFilled_tree compiled⟩
  · intro mutation document compiled
    have filled := Mutation.allFilled_tree compiled
    refine ⟨Mutation.writtenFrom compiled, filled.mpr, ?_⟩
    intro tables_named named
    exact ⟨_, Mutation.parse_text tables_named named compiled, filled⟩

def userCatalog : Catalog where
  tables := [("user", ⟨"user", .baseTable, [("id", ⟨"id", "integer", "int4"⟩)], ["id"]⟩)]
  distinct := by decide
  named := by decide

/-- A read of everything, under a fragment, beside a read of relations in relations. -/
def nestedQuery : Query where
  tables := [
    ("all", { Select.empty with table := some "user", fragment := some "x" }),
    ("user", { Select.empty with fields :=
      [.relation "posts" [.relation "tags" [.column "name"]]] })]
  flattenSingle := true
  distinct := by decide

/-- An insert that asks for nothing back, and a deletion that asks for a relation. -/
def returningMutation : Mutation where
  tables := [("user", ⟨some (.ofObjects .empty), none,
    some ⟨.empty, [.relation "posts" [.column "id"]]⟩⟩)]
  distinct := by decide

/-- A read without fields, and relations in relations, have no empty selection set; nor
has an action that is asked for nothing back. -/
theorem filled_of_compiled_nested :
    (∃ document tree, Document.ofQuery userCatalog nestedQuery = .ok document ∧
      parse document.text = some tree ∧ AllFilled tree.sets) ∧
    ∃ document tree, Document.ofMutation userCatalog returningMutation = .ok document ∧
      parse document.text = some tree ∧ AllFilled tree.sets := by
  have filled := filled_of_compiled userCatalog
  constructor
  · obtain ⟨tree, read, iff⟩ := (filled.1 .query nestedQuery _ rfl).2.2 rfl rfl
    refine ⟨_, tree, rfl, read, iff.mpr ?_⟩
    refine List.forall_mem_cons.mpr ⟨relationsFilled_nil, List.forall_mem_singleton.mpr ?_⟩
    have tags : Selection.RelationsFilled [.relation "tags" [.column "name"]] :=
      relationsFilled_relation.mpr
        ⟨List.cons_ne_nil _ _, Selection.relationsFilled_column "name"⟩
    exact relationsFilled_relation.mpr ⟨List.cons_ne_nil _ _, tags⟩
  · obtain ⟨tree, read, iff⟩ := (filled.2 returningMutation _ rfl).2.2 rfl rfl
    refine ⟨_, tree, rfl, read, iff.mpr (List.forall_mem_singleton.mpr ?_)⟩
    intro action present
    cases action with
    | insert => exact relationsFilled_nil
    | update => cases present
    | delete =>
        exact relationsFilled_relation.mpr
          ⟨List.cons_ne_nil _ _, Selection.relationsFilled_column "id"⟩

/-- A read of a relation that is asked for no fields. -/
def hollowQuery : Query where
  tables := [("user", { Select.empty with fields := [.relation "posts" []] })]
  flattenSingle := true
  distinct := by decide

/-- A relation without fields compiles to an empty selection set. -/
theorem compiled_hollow :
    ∃ document tree, Document.ofQuery userCatalog hollowQuery = .ok document ∧
      document.text = "query user \x7b user \x7b posts \x7b  \x7d \x7d \x7d" ∧
      parse document.text = some tree ∧ [] ∈ tree.sets := by
  have compiled : ∃ document, Document.ofQuery userCatalog hollowQuery = .ok document :=
    ⟨_, rfl⟩
  obtain ⟨document, compiled⟩ := compiled
  have read := (Query.parse_text rfl rfl compiled).1
  refine ⟨document, _, compiled, ?_, read, ?_⟩
  · cases compiled
    rfl
  · exact List.mem_of_getElem? (i := 1) rfl

end GraphBatch
