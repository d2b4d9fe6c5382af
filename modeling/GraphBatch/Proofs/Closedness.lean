import GraphBatch.Proofs.Faithfulness
import GraphBatch.Proofs.FragmentNames
import GraphBatch.Proofs.RefusedReads
import GraphBatch.Proofs.Remapping
import GraphBatch.Proofs.ResponseNames

/-!
# Closed documents

A compiled document declares the variables that its root fields refer to, in the
same order and each once, and binds each of them to what the caller passes. The
fragments that its root fields spread are those that it defines, each once and ahead
of the operation, on the table of the root fields that spread it.
-/

namespace GraphBatch

/-! ## What is passed -/

/-- The items of a list; anything else is the only item. -/
def Json.items : Json → List Json
  | .arr items => items
  | single => [single]

def Select.value? (select : Select) : Slot → Option Json
  | .filter => select.filter
  | .order => select.order
  | .limit => select.limit.map .ofNat
  | .offset => select.offset.map .ofNat
  | .distinctOn => select.distinctOn.map .ofStrings
  | _ => none

/-- The value that an action passes in a slot, if any. Objects are passed as a list. -/
def Write.value? (write : Write) : Action → Slot → Option Json
  | .insert, .objects => write.insert.map fun insert => .arr insert.objects.items
  | .insert, .onConflict => write.insert.bind Insert.onConflict
  | .update, .filter => write.update.map Update.filter
  | .update, .set => write.update.bind Update.set
  | .update, .increment => write.update.bind Update.increment
  | .delete, .filter => write.delete.map Delete.filter
  | _, _ => none

/-- What is asked at one root field: a table, whether it is written to, and the values
that are passed. -/
structure Asked where
  table : Table
  writes : Bool
  value? : Slot → Option Json

namespace Asked

/-- The values with their slots and types, in the order of the slots. -/
def passed (asked : Asked) : List Passed :=
  Slot.all.filterMap fun slot => (asked.value? slot).map fun value =>
    ⟨slot, (slot.type asked.table asked.writes).text, value⟩

def variableName (asked : Asked) (index : Nat) (slot : Slot) : String :=
  GeneratedName.forVariable index asked.table.name slot.text

/-- The variables of the root field with a number. -/
def declared (asked : Asked) (index : Nat) : List Variable :=
  asked.passed.map fun passed => ⟨asked.variableName index passed.slot, passed.type⟩

/-- The arguments of the root field with a number. -/
def arguments (asked : Asked) (index : Nat) : List Argument :=
  asked.passed.map fun passed =>
    ⟨passed.slot.argument, asked.variableName index passed.slot⟩

/-- The values of the variables of the root field with a number. -/
def bindings (asked : Asked) (index : Nat) : Entries Json :=
  asked.passed.map fun passed => (asked.variableName index passed.slot, passed.value)

theorem passed_eq (asked : Asked) :
    asked.passed = Slot.all.flatMap fun slot =>
      passIf slot (slot.type asked.table asked.writes).text (asked.value? slot) :=
  List.filterMap_eq_flatMap_toList _ _

/-- Nothing is passed twice. -/
theorem nodup_slots (asked : Asked) : (asked.passed.map Passed.slot).Nodup := by
  have slots : asked.passed.map Passed.slot =
      Slot.all.filter fun slot => (asked.value? slot).isSome := by
    rw [passed, List.map_filterMap, ← List.filterMap_eq_filter]
    refine List.filterMap_congr ?_
    intro slot _
    cases given : asked.value? slot <;> simp [Option.guard, given]
  rw [slots]
  exact Slot.nodup_all.filter _

end Asked

@[simp] theorem passIf_none (slot : Slot) (type : String) : passIf slot type none = [] := rfl

@[simp] theorem passIf_some (slot : Slot) (type : String) (value : Json) :
    passIf slot type (some value) = [⟨slot, type, value⟩] := rfl

theorem Select.passed_eq (select : Select) (table : Table) :
    select.passed table = Asked.passed ⟨table, false, select.value?⟩ := by
  -- Both sides are joined over the slots; a slot without a value gives nothing.
  rw [Asked.passed_eq]
  simp [Slot.all, Select.passed, Select.value?, Slot.type, text_nullable, text_listOf]

theorem Insert.objectList_eq (insert : Insert) : insert.objectList = .arr insert.objects.items := by
  unfold objectList Json.items
  cases insert.objects <;> rfl

theorem Write.passed_eq (write : Write) (table : Table) (action : Action) :
    write.passed table action = Asked.passed ⟨table, true, write.value? action⟩ := by
  rw [Asked.passed_eq]
  cases action with
  | insert =>
      cases given : write.insert with
      | none => simp [Slot.all, Write.passed, Write.value?, given]
      | some insert =>
          simp [Slot.all, Write.passed, Write.value?, Insert.passed, Insert.objectList_eq,
            Slot.type, text_nullable, text_required_listOf, given]
  | update =>
      cases given : write.update with
      | none => simp [Slot.all, Write.passed, Write.value?, given]
      | some update =>
          simp [Slot.all, Write.passed, Write.value?, Update.passed, Slot.type, text_nullable,
            text_required, given]
  | delete =>
      cases given : write.delete with
      | none => simp [Slot.all, Write.passed, Write.value?, given]
      | some delete =>
          simp [Slot.all, Write.passed, Write.value?, Delete.passed, Slot.type, text_required,
            given]

/-! ## Drafts of what is asked -/

namespace Draft

variable {draft : Draft} {asked : Asked}

/-- A draft of what is asked: of its table, with what it passes. -/
structure Asks (draft : Draft) (asked : Asked) : Prop where
  table : draft.table = asked.table
  passed : draft.passed = asked.passed

theorem Asks.nodup_slots (asks : draft.Asks asked) : (draft.passed.map Passed.slot).Nodup := by
  rw [asks.passed]
  exact asked.nodup_slots

theorem Asks.declared_eq (asks : draft.Asks asked) :
    draft.declared = asked.declared draft.index := by
  simp only [declared, Asked.declared, variableName, Asked.variableName, asks.table, asks.passed]

theorem Asks.arguments_eq (asks : draft.Asks asked) :
    draft.rootField.arguments = asked.arguments draft.index := by
  simp only [rootField, Asked.arguments, variableName, Asked.variableName, asks.table, asks.passed]

theorem Asks.bindings_eq (asks : draft.Asks asked) :
    draft.bindings = asked.bindings draft.index := by
  rw [Draft.bindings_eq asks.nodup_slots]
  simp only [Asked.bindings, variableName, Asked.variableName, asks.table, asks.passed]

end Draft

/-- The variables of root fields that are numbered in order. -/
def variablesOf (asked : List Asked) : List Variable :=
  asked.zipIdx.flatMap fun numbered => numbered.1.declared numbered.2

/-- The values of the variables of root fields that are numbered in order. -/
def bindingsOf (asked : List Asked) : Entries Json :=
  asked.zipIdx.flatMap fun numbered => numbered.1.bindings numbered.2

structure Drafted (asked : List Asked) (drafts : List Draft) : Prop where
  tables : drafts.map Draft.table = asked.map Asked.table
  declared : drafts.flatMap Draft.declared = variablesOf asked
  arguments : (drafts.map Draft.rootField).map RootField.arguments =
    asked.zipIdx.map fun numbered => numbered.1.arguments numbered.2
  bindings : drafts.flatMap Draft.bindings = bindingsOf asked
  distinct : ((variablesOf asked).map Variable.name).Nodup

section Numbered

variable {α β : Type} {draft : α → Nat → Draft} {asked : α → Asked}

theorem map_numbered_asked {part : Draft → β} {own : Asked → Nat → β}
    (same : ∀ item index, part (draft item index) = own (asked item) index) (items : List α) :
    (items.zipIdx.map fun numbered => draft numbered.1 numbered.2).map part =
      (items.map asked).zipIdx.map fun numbered => own numbered.1 numbered.2 := by
  rw [List.map_map, List.zipIdx_map, List.map_map]
  exact List.map_congr_left fun numbered _ => same numbered.1 numbered.2

theorem Drafted.of_numbered (numbered : ∀ item index, (draft item index).index = index)
    (asks : ∀ item index, (draft item index).Asks (asked item)) (items : List α) :
    Drafted (items.map asked) (items.zipIdx.map fun numbered => draft numbered.1 numbered.2) := by
  have declared : ∀ item index, (draft item index).declared = (asked item).declared index := by
    intro item index
    rw [(asks item index).declared_eq, numbered]
  have arguments : ∀ item index,
      (RootField.arguments ∘ Draft.rootField) (draft item index) =
        (asked item).arguments index := by
    intro item index
    rw [Function.comp_apply, (asks item index).arguments_eq, numbered]
  have bindings : ∀ item index, (draft item index).bindings = (asked item).bindings index := by
    intro item index
    rw [(asks item index).bindings_eq, numbered]
  have all_declared : (items.zipIdx.map fun numbered =>
      draft numbered.1 numbered.2).flatMap Draft.declared = variablesOf (items.map asked) := by
    rw [variablesOf, List.flatMap_def, List.flatMap_def, map_numbered_asked declared]
  refine ⟨?_, all_declared, ?_, ?_, ?_⟩
  · rw [map_numbered (fun item index => (asks item index).table), List.map_map]
    rfl
  · rw [List.map_map]
    exact map_numbered_asked arguments items
  · rw [bindingsOf, List.flatMap_def, List.flatMap_def, map_numbered_asked bindings]
  · have ascending := Draft.ascending_numbered numbered
      (fun item index => (asks item index).nodup_slots) items 0
    have names := ascending.nodup_names
    rw [← all_declared, List.map_flatMap]
    simpa only [Draft.names_eq_declared] using names

end Numbered

theorem keys_bindingsOf (asked : List Asked) :
    (bindingsOf asked).keys = (variablesOf asked).map Variable.name := by
  rw [bindingsOf, variablesOf, Entries.keys, List.map_flatMap, List.map_flatMap]
  refine List.flatMap_congr ?_
  intro numbered _
  simp [Asked.bindings, Asked.declared]

/-! ## Fragments -/

namespace Draft

variable {draft : Draft}

/-- A draft spreads the fragment that it has, and no other. The fragment is on its table,
and is named after it. -/
structure SpreadsOwn (draft : Draft) : Prop where
  body : ∀ name, draft.body = .spread name ↔
    ∃ fragment, draft.fragment = some fragment ∧ fragment.name = name
  table : ∀ fragment, draft.fragment = some fragment → fragment.table = draft.table.name
  name : ∀ fragment, draft.fragment = some fragment →
    ∃ discriminator, fragment.name =
      GeneratedName.forFragment draft.table.name discriminator

end Draft

namespace Document

theorem mem_names_distinctFragments {fragments : List FragmentDefinition} {name : String} :
    name ∈ (distinctFragments fragments).map FragmentDefinition.name ↔
      name ∈ fragments.map FragmentDefinition.name := by
  induction fragments with
  | nil => exact Iff.rfl
  | cons fragment rest ih =>
      by_cases same : name = fragment.name
      · simp [distinctFragments, same]
      · have kept : name ∈ ((distinctFragments rest).filter fun other =>
            other.name ≠ fragment.name).map FragmentDefinition.name ↔
              name ∈ (distinctFragments rest).map FragmentDefinition.name := by
          simp only [List.mem_map, List.mem_filter, decide_eq_true_eq]
          constructor
          · rintro ⟨other, ⟨inside, _⟩, named⟩
            exact ⟨other, inside, named⟩
          · rintro ⟨other, inside, named⟩
            refine ⟨other, ⟨inside, ?_⟩, named⟩
            rwa [named]
        rw [distinctFragments, List.map_cons, List.map_cons, List.mem_cons, List.mem_cons, kept, ih]

/-- A document in which everything that is used is declared, and the reverse. -/
structure Closed (document : Document) (kind : OperationKind) (asked : List Asked)
    (roots : List RootField) (fragments : List FragmentDefinition) : Prop where
  /-- The fragments stand ahead of the operation, which declares the variables. -/
  text : document.text =
    String.join (fragments.map fun fragment => fragment.render ++ "\n") ++
      operationText kind document.operationName (variablesOf asked) (roots.map RootField.render)
  /-- Every root field refers to its own variables. -/
  arguments : roots.map RootField.arguments =
    asked.zipIdx.map fun numbered => numbered.1.arguments numbered.2
  /-- From left to right, the root fields refer to all variables. -/
  referenced : (roots.flatMap RootField.arguments).map Argument.variableName =
    (variablesOf asked).map Variable.name
  bound : document.values.keys = (variablesOf asked).map Variable.name
  distinct : ((variablesOf asked).map Variable.name).Nodup
  values : document.values = bindingsOf asked
  /-- The fragments that are spread are those that are defined. -/
  spread : ∀ name, (∃ root ∈ roots, root.body = .spread name) ↔
    name ∈ fragments.map FragmentDefinition.name
  defined : (fragments.map FragmentDefinition.name).Nodup
  /-- A fragment is on the table of every root field that spreads it. -/
  tables : ∀ fragment ∈ fragments, ∀ spreading ∈ (asked.map Asked.table).zip roots,
    spreading.2.body = .spread fragment.name → spreading.1.name = fragment.table

section Compose

variable {kind : OperationKind} {asked : List Asked} {drafts : List Draft} {document : Document}

theorem referenced_of_drafted (drafted : Drafted asked drafts) :
    ((drafts.map Draft.rootField).flatMap RootField.arguments).map Argument.variableName =
      (variablesOf asked).map Variable.name := by
  rw [List.flatMap_def, drafted.arguments, ← List.flatMap_def, variablesOf, List.map_flatMap,
    List.map_flatMap]
  refine List.flatMap_congr ?_
  intro numbered _
  simp [Asked.arguments, Asked.declared]

theorem spread_iff (own : ∀ draft ∈ drafts, draft.SpreadsOwn) (name : String) :
    (∃ root ∈ drafts.map Draft.rootField, root.body = .spread name) ↔
      name ∈ (distinctFragments (drafts.filterMap Draft.fragment)).map FragmentDefinition.name := by
  rw [mem_names_distinctFragments]
  constructor
  · rintro ⟨_, inside, spreads⟩
    obtain ⟨draft, listed, rfl⟩ := List.mem_map.mp inside
    obtain ⟨fragment, given, rfl⟩ := ((own draft listed).body name).mp spreads
    exact List.mem_map_of_mem (List.mem_filterMap.mpr ⟨draft, listed, given⟩)
  · intro inside
    obtain ⟨fragment, known, rfl⟩ := List.mem_map.mp inside
    obtain ⟨draft, listed, given⟩ := List.mem_filterMap.mp known
    exact ⟨draft.rootField, List.mem_map_of_mem listed,
      ((own draft listed).body _).mpr ⟨fragment, given, rfl⟩⟩

/-- The draft that spreads a fragment and the one that gives it are on one table, since
the name of the fragment says on which. -/
theorem table_of_spread (own : ∀ draft ∈ drafts, draft.SpreadsOwn) {fragment : FragmentDefinition}
    (known : fragment ∈ distinctFragments (drafts.filterMap Draft.fragment)) {draft : Draft}
    (listed : draft ∈ drafts) (spreads : draft.body = .spread fragment.name) :
    draft.table.name = fragment.table := by
  obtain ⟨giver, inside, given⟩ := List.mem_filterMap.mp (mem_of_mem_distinctFragments known)
  obtain ⟨discriminator, name⟩ := (own giver inside).name fragment given
  obtain ⟨other, held, same⟩ := ((own draft listed).body _).mp spreads
  obtain ⟨another, named⟩ := (own draft listed).name other held
  rw [(own giver inside).table fragment given]
  exact (GeneratedName.forFragment_inj (named.symm.trans (same.trans name))).1

theorem closed_of_compose (composed : compose kind (drafts.map Draft.build) = .ok document)
    (drafted : Drafted asked drafts) (own : ∀ draft ∈ drafts, draft.SpreadsOwn) :
    document.Closed kind asked (drafts.map Draft.rootField)
      (distinctFragments (drafts.filterMap Draft.fragment)) := by
  have parts := composedOf composed
  have values : document.values = bindingsOf asked := parts.values.trans drafted.bindings
  refine {
    text := ?_
    arguments := drafted.arguments
    referenced := referenced_of_drafted drafted
    bound := ?_
    distinct := drafted.distinct
    values := values
    spread := spread_iff own
    defined := nodup_distinctFragments _
    tables := ?_ }
  · rw [← drafted.declared]
    exact parts.text
  · rw [values, keys_bindingsOf]
  · intro fragment known spreading inside spreads
    rw [← drafted.tables, List.zip_map'] at inside
    obtain ⟨draft, listed, rfl⟩ := List.mem_map.mp inside
    exact table_of_spread own known listed spreads

end Compose

end Document

/-! ## Reads and writes -/

namespace Reading

def asked (reading : Reading) : Asked :=
  ⟨reading.table, false, reading.select.value?⟩

theorem asks (reading : Reading) (index : Nat) : (reading.draft index).Asks reading.asked :=
  ⟨rfl, reading.select.passed_eq reading.table⟩

theorem spreadsOwn (reading : Reading) (index : Nat) : (reading.draft index).SpreadsOwn where
  body := by
    intro name
    unfold draft
    cases asks : reading.fragment? with
    | none => simp
    | some fragment => simp [eq_comm]
  table := by
    intro fragment given
    obtain ⟨discriminator, _, rfl⟩ := Option.map_eq_some_iff.mp given
    rfl
  name := by
    intro fragment given
    obtain ⟨discriminator, _, rfl⟩ := Option.map_eq_some_iff.mp given
    exact ⟨discriminator, rfl⟩

theorem spreadsOwn_drafts (items : List Reading) (index : Nat) :
    ∀ draft ∈ drafts items index, draft.SpreadsOwn := by
  intro draft inside
  obtain ⟨⟨reading, number⟩, _, rfl⟩ := List.mem_map.mp inside
  exact reading.spreadsOwn number

theorem definitions_drafts (items : List Reading) (index : Nat) :
    (drafts items index).filterMap Draft.fragment = items.filterMap fragment? := by
  have own : ∀ (item : Reading) number, (item.draft number).fragment = item.fragment? :=
    fun _ _ => rfl
  exact filterMap_numbered own items index

end Reading

namespace Writing

def asked (writing : Writing) : Asked :=
  ⟨writing.table, true, writing.write.value? writing.action⟩

theorem asks (writing : Writing) (index : Nat) : (writing.draft index).Asks writing.asked :=
  ⟨rfl, writing.write.passed_eq writing.table writing.action⟩

theorem spreadsOwn_drafts (items : List Writing) (index : Nat) :
    ∀ draft ∈ drafts items index, draft.SpreadsOwn := by
  intro draft inside
  obtain ⟨⟨writing, number⟩, _, rfl⟩ := List.mem_map.mp inside
  exact ⟨by simp [Writing.draft], by simp [Writing.draft], by simp [Writing.draft]⟩

end Writing

def Query.fragments (query : Query) (catalog : Catalog) : List FragmentDefinition :=
  Document.distinctFragments ((readings catalog query.tables).filterMap Reading.fragment?)

/-- Every compiled document is closed: over what its reads ask, each of the table that it
resolves to, or over what its present actions ask. -/
theorem closed_of_compiled (catalog : Catalog) :
    (∀ (kind : OperationKind) (query : Query) (document : Document),
      Document.ofReads kind catalog query = .ok document →
      (readings catalog query.tables).map (fun reading => (reading.key, reading.select)) =
        query.tables ∧
      (∀ reading ∈ readings catalog query.tables,
        catalog.get? (reading.select.tableName reading.key) = some reading.table) ∧
      document.Closed kind ((readings catalog query.tables).map Reading.asked)
        (query.rootFields catalog) (query.fragments catalog)) ∧
    ∀ (mutation : Mutation) (document : Document),
      Document.ofMutation catalog mutation = .ok document →
      (writings catalog mutation.tables).map Writing.part = mutation.parts ∧
      (∀ writing ∈ writings catalog mutation.tables,
        (writing.key, writing.write) ∈ mutation.tables ∧
          catalog.get? writing.key = some writing.table) ∧
      document.Closed .mutation ((writings catalog mutation.tables).map Writing.asked)
        (mutation.rootFields catalog) [] := by
  constructor
  · intro kind query document compiled
    obtain ⟨drafts, drafted, composed⟩ := Outcome.bind_eq_ok.mp compiled
    obtain ⟨entries, _, rfl⟩ := draftReads_eq_ok drafted
    refine ⟨entries, fun reading inside => (of_mem_readings inside).2, ?_⟩
    rw [Query.fragments, ← Reading.definitions_drafts _ 0]
    exact Document.closed_of_compose composed
      (Drafted.of_numbered (fun _ _ => rfl) Reading.asks _) (Reading.spreadsOwn_drafts _ 0)
  · intro mutation document compiled
    obtain ⟨known, composed⟩ := Document.ofMutation_eq_ok compiled
    refine ⟨parts_writings known, fun writing inside => ?_, ?_⟩
    · obtain ⟨given, _, found⟩ := of_mem_writings inside
      exact ⟨given, found⟩
    · have plain : (Writing.drafts (writings catalog mutation.tables) 0).filterMap
          Draft.fragment = [] :=
        List.filterMap_eq_nil_iff.mpr fun draft => Writing.fragment_of_mem_drafts
      have closed := Document.closed_of_compose composed
        (Drafted.of_numbered (fun _ _ => rfl) Writing.asks _) (Writing.spreadsOwn_drafts _ 0)
      rw [plain] at closed
      exact closed

def postCatalog : Catalog where
  tables := [("post", ⟨"post", .baseTable, [("title", ⟨"title", "text", "text"⟩)], ["id"]⟩)]
  distinct := by decide
  named := by decide

/-- Two reads of one table, of one fragment, with different values. -/
def sharingQuery : Query where
  tables := [
    ("recent", ⟨some "post", none, none, some 3, none, none, [], some "head"⟩),
    ("post", ⟨none, some .null, none, none, none, some ["title"], [], some "head"⟩)]
  flattenSingle := false
  distinct := by decide

/-- One object, an increment and a deletion. -/
def wrappingMutation : Mutation where
  tables := [("post",
    ⟨some (.ofObjects .empty), some ⟨.empty, none, some .empty, []⟩, some (.ofFilter .null)⟩)]
  distinct := by decide

/-- The fragment of both reads is defined once, and every value has the number of its
root field; a single object is wrapped. -/
theorem closed_of_compiled_sharing :
    (∃ document, Document.ofQuery postCatalog sharingQuery = .ok document ∧
      (sharingQuery.fragments postCatalog).map FragmentDefinition.name =
        ["f4_post_head_fields"] ∧
      document.values = [("v0_post_limit", .int 3), ("v1_post_where", .null),
        ("v1_post_distinct_on", .arr [.str "title"])]) ∧
    ∃ document, Document.ofMutation postCatalog wrappingMutation = .ok document ∧
      document.values = [("v0_post_objects", .arr [.empty]), ("v1_post_where", .empty),
        ("v1_post_inc", .empty), ("v2_post_where", .null)] := by
  obtain ⟨reads, writes⟩ := closed_of_compiled postCatalog
  obtain ⟨_, _, closed_query⟩ := reads .query sharingQuery _ rfl
  obtain ⟨_, _, closed_mutation⟩ := writes wrappingMutation _ rfl
  exact ⟨⟨_, rfl, rfl, closed_query.values⟩, ⟨_, rfl, closed_mutation.values⟩⟩

end GraphBatch
