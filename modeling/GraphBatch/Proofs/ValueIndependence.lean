import GraphBatch.Proofs.MappedEntries
import GraphBatch.Proofs.ResponseNames

/-!
# Values stay out of texts

The shape of a batch is what is left of it without the values that its params give: its
keys, tables, selections and fragments, and which params are present. Batches of one shape
are drafted alike and compose alike. So they are refused for the same reason, or their
documents differ in the values of their variables and in nothing else.
-/

namespace GraphBatch

/-! ## Shapes -/

/-- The read with its values left blank. -/
def Select.shape (select : Select) : Select :=
  { select with
    filter := select.filter.map fun _ => .null
    order := select.order.map fun _ => .null
    limit := select.limit.map fun _ => 0
    offset := select.offset.map fun _ => 0
    distinctOn := select.distinctOn.map fun _ => [] }

/-- The insert with its values left blank. -/
def Insert.shape (insert : Insert) : Insert :=
  { insert with
    objects := .null
    onConflict := insert.onConflict.map fun _ => .null }

/-- The update with its values left blank. -/
def Update.shape (update : Update) : Update :=
  { update with
    filter := .null
    set := update.set.map fun _ => .null
    increment := update.increment.map fun _ => .null }

/-- The deletion with its values left blank. -/
def Delete.shape (delete : Delete) : Delete :=
  { delete with filter := .null }

/-- The writes to a table with their values left blank. -/
def Write.shape (write : Write) : Write where
  insert := write.insert.map Insert.shape
  update := write.update.map Update.shape
  delete := write.delete.map Delete.shape

/-- The batch with its values left blank. -/
def Query.shape (query : Query) : Query where
  tables := query.tables.mapValues Select.shape
  flattenSingle := query.flattenSingle
  distinct := by
    rw [Entries.Distinct, Entries.keys_mapValues]
    exact query.distinct

/-- The batch with its values left blank. -/
def Mutation.shape (mutation : Mutation) : Mutation where
  tables := mutation.tables.mapValues Write.shape
  distinct := by
    rw [Entries.Distinct, Entries.keys_mapValues]
    exact mutation.distinct

/-- The passed value left blank. -/
def Passed.shape (passed : Passed) : Passed :=
  { passed with value := .null }

/-- The draft with its values left blank. -/
def Draft.shape (draft : Draft) : Draft :=
  { draft with passed := draft.passed.map Passed.shape }

/-- The build with its values left blank. -/
def Build.shape (build : Build) : Build :=
  { build with bindings := build.bindings.mapValues fun _ => .null }

/-- The document with its values left blank. -/
def Document.shape (document : Document) : Document :=
  { document with values := document.values.mapValues fun _ => .null }

/-! ## Passed values -/

theorem map_shape_passIf (slot : Slot) (type : String) (value : Option Json) :
    (passIf slot type value).map Passed.shape = passIf slot type (value.map fun _ => .null) := by
  cases value <;> rfl

theorem Select.passed_shape (select : Select) (table : Table) :
    (select.shape.passed table).map Passed.shape = (select.passed table).map Passed.shape := by
  simp only [passed, shape, List.map_append, map_shape_passIf, Option.map_map, Function.comp_def]

theorem Insert.passed_shape (insert : Insert) (table : Table) :
    (insert.shape.passed table).map Passed.shape = (insert.passed table).map Passed.shape := by
  simp only [passed, shape, List.map_cons, map_shape_passIf, Option.map_map, Function.comp_def]
  rfl

theorem Update.passed_shape (update : Update) (table : Table) :
    (update.shape.passed table).map Passed.shape = (update.passed table).map Passed.shape := by
  simp only [passed, shape, List.map_cons, List.map_append, map_shape_passIf, Option.map_map,
    Function.comp_def, List.cons_append]
  rfl

/-! ## Outcomes that agree -/

/-- Two outcomes agree: they fail with one error, or succeed with results that look the
same. -/
inductive Outcome.Agree {α β : Type} (view : α → β) : Outcome α → Outcome α → Prop where
  | failed (error : Error) : Agree view (.error error) (.error error)
  | succeeded {first second : α} (same : view first = view second) :
      Agree view (.ok first) (.ok second)

namespace Outcome.Agree

variable {α β γ δ : Type} {view : α → β} {result : γ → δ} {first second : Outcome α}

theorem of_map (same : first.map view = second.map view) : Agree view first second := by
  cases first with
  | error error =>
      cases second with
      | error other => cases same; exact .failed error
      | ok other => cases same
  | ok one =>
      cases second with
      | error other => cases same
      | ok other => exact .succeeded (Except.ok.inj same)

theorem after_same (outcome : Outcome α) {next other : α → Outcome γ}
    (agree : ∀ one, Agree result (next one) (other one)) :
    Agree result (outcome >>= next) (outcome >>= other) := by
  cases outcome with
  | error error => exact .failed error
  | ok one => exact agree one

theorem bind {next other : α → Outcome γ} (agree : Agree view first second)
    (after : ∀ one another, view one = view another → Agree result (next one) (other another)) :
    Agree result (first >>= next) (second >>= other) := by
  cases agree with
  | failed error => exact .failed error
  | succeeded same => exact after _ _ same

end Outcome.Agree

/-- Two drafting steps agree: they leave one number, and their outcomes agree. -/
inductive Numbered.Agree {α β : Type} (view : α → β) : Numbered α → Numbered α → Prop where
  | leaving (number : Nat) {first second : Outcome α} (agree : Outcome.Agree view first second) :
      Agree view (number, first) (number, second)

/-! ## Drafts -/

theorem Select.draftOn_agree {first second : Select} (same : first.shape = second.shape)
    (key : String) (table : Table) (index : Nat) :
    Outcome.Agree Draft.shape (first.draftOn key table index) (second.draftOn key table index) := by
  have fields : first.fields = second.fields := (congrArg Select.fields same :)
  have fragment : first.fragment = second.fragment := (congrArg Select.fragment same :)
  have passed : (first.passed table).map Passed.shape = (second.passed table).map Passed.shape := by
    rw [← passed_shape, same, passed_shape]
  unfold draftOn fragment?
  rw [fields, fragment]
  refine .after_same _ fun fields => .after_same _ fun fragment => .succeeded ?_
  rw [Draft.shape, passed]
  rfl

theorem Select.draft_agree {first second : Select} (same : first.shape = second.shape)
    (catalog : Catalog) (key : String) (index : Nat) :
    Numbered.Agree Draft.shape (first.draft catalog key index)
      (second.draft catalog key index) := by
  have tables : first.tableName key = second.tableName key :=
    (congrArg (fun select => select.tableName key) same :)
  unfold draft
  rw [tables]
  cases catalog.lookup (second.tableName key) with
  | error error => exact .leaving index (.failed error)
  | ok table => exact .leaving (index + 1) (draftOn_agree same key table index)

theorem draftReads_agree {first second : List (String × Select)}
    (same : Entries.mapValues Select.shape first = Entries.mapValues Select.shape second)
    (catalog : Catalog) (index : Nat) :
    Outcome.Agree (List.map Draft.shape) (draftReads catalog first index)
      (draftReads catalog second index) := by
  replace same := Entries.forall₂_of_mapValues_eq same
  induction same generalizing index with
  | nil => exact .succeeded rfl
  | @cons entry other rest others heads _ ih =>
      obtain ⟨key, select⟩ := entry
      obtain ⟨name, fellow⟩ := other
      obtain ⟨rfl, shapes⟩ := heads
      -- The first entries take the same numbers, so the rest start from the same one.
      have agree := Select.draft_agree shapes catalog key index
      unfold draftReads
      generalize select.draft catalog key index = one at agree ⊢
      generalize fellow.draft catalog key index = another at agree ⊢
      obtain ⟨next, agree⟩ := agree
      cases agree with
      | failed error => exact .failed error
      | succeeded draft =>
          refine (ih next).bind fun drafts fellows later => .succeeded ?_
          rw [List.map_cons, List.map_cons, draft, later]

/-! ## Writes -/

theorem Action.draftOn_agree (action : Action) (key : String) (table : Table) (index : Nat)
    {first second : List Passed} (same : first.map Passed.shape = second.map Passed.shape)
    (returning : Selection) :
    Outcome.Agree Draft.shape (action.draftOn key table index first returning)
      (action.draftOn key table index second returning) := by
  unfold draftOn
  refine .after_same _ fun fields => .succeeded ?_
  rw [Draft.shape, same]
  rfl

/-- Params of one shape are both absent or both present. -/
theorem rel_map_of_map_eq {α β γ : Type} {view : α → β} {make : α → γ} {related : γ → γ → Prop}
    {first second : Option α} (same : first.map view = second.map view)
    (made : ∀ one other, view one = view other → related (make one) (make other)) :
    Option.Rel related (first.map make) (second.map make) := by
  cases first with
  | none =>
      cases second with
      | none => exact .none
      | some other => cases same
  | some one =>
      cases second with
      | none => cases same
      | some other => exact .some (made one other (Option.some.inj same))

theorem Update.idle_iff {one other : Update} (same : one.shape = other.shape) :
    one.set.isNone ∧ one.increment.isNone ↔ other.set.isNone ∧ other.increment.isNone := by
  have sets := congrArg (fun update => update.set.isNone) same
  have increments := congrArg (fun update => update.increment.isNone) same
  simp only [shape, Option.isNone_map] at sets increments
  rw [sets, increments]

namespace Write

variable {first second : Write}

theorem draftOf_agree (same : first.shape = second.shape) (key : String) (table : Table)
    (index : Nat) (action : Action) :
    Option.Rel (Numbered.Agree Draft.shape) (first.draftOf key table index action)
      (second.draftOf key table index action) := by
  cases action with
  | insert =>
      refine rel_map_of_map_eq (congrArg Write.insert same :) fun one other shapes => ?_
      have returning : one.returning = other.returning := (congrArg Insert.returning shapes :)
      rw [returning]
      refine .leaving (index + 1) (Action.draftOn_agree _ key table index ?_ _)
      rw [← Insert.passed_shape, shapes, Insert.passed_shape]
  | update =>
      refine rel_map_of_map_eq (congrArg Write.update same :) fun one other shapes => ?_
      have returning : one.returning = other.returning := (congrArg Update.returning shapes :)
      simp only [returning, Update.idle_iff shapes]
      split
      · exact .leaving index (.failed _)
      · refine .leaving (index + 1) (Action.draftOn_agree _ key table index ?_ _)
        rw [← Update.passed_shape, shapes, Update.passed_shape]
  | delete =>
      refine rel_map_of_map_eq (congrArg Write.delete same :) fun one other shapes => ?_
      have returning : one.returning = other.returning := (congrArg Delete.returning shapes :)
      rw [returning]
      refine .leaving (index + 1) (Action.draftOn_agree _ key table index ?_ _)
      rfl

theorem draftsOf_agree (same : first.shape = second.shape) (key : String) (table : Table)
    (actions : List Action) (index : Nat) :
    Numbered.Agree (List.map Draft.shape) (first.draftsOf key table actions index)
      (second.draftsOf key table actions index) := by
  induction actions generalizing index with
  | nil => exact .leaving index (.succeeded rfl)
  | cons action rest ih =>
      have agree := draftOf_agree same key table index action
      unfold draftsOf
      generalize first.draftOf key table index action = one at agree ⊢
      generalize second.draftOf key table index action = other at agree ⊢
      cases agree with
      | none => exact ih index
      | some agree =>
          obtain ⟨next, agree⟩ := agree
          cases agree with
          | failed error => exact .leaving next (.failed error)
          | succeeded draft =>
              have later := ih next
              dsimp only
              generalize first.draftsOf key table rest next = one at later ⊢
              generalize second.draftsOf key table rest next = other at later ⊢
              obtain ⟨last, later⟩ := later
              cases later with
              | failed error => exact .leaving last (.failed error)
              | succeeded drafts =>
                  refine .leaving last (.succeeded ?_)
                  rw [List.map_cons, List.map_cons, draft, drafts]

theorem drafts_agree (same : first.shape = second.shape) (catalog : Catalog) (key : String)
    (index : Nat) :
    Numbered.Agree (List.map Draft.shape) (first.drafts catalog key index)
      (second.drafts catalog key index) := by
  unfold drafts
  cases catalog.lookup key with
  | error error => exact .leaving index (.failed error)
  | ok table => exact draftsOf_agree same key table Action.all index

end Write

theorem draftWrites_agree {first second : List (String × Write)}
    (same : Entries.mapValues Write.shape first = Entries.mapValues Write.shape second)
    (catalog : Catalog) (index : Nat) :
    Outcome.Agree (List.map Draft.shape) (draftWrites catalog first index)
      (draftWrites catalog second index) := by
  replace same := Entries.forall₂_of_mapValues_eq same
  induction same generalizing index with
  | nil => exact .succeeded rfl
  | @cons entry other rest others heads _ ih =>
      obtain ⟨key, write⟩ := entry
      obtain ⟨name, fellow⟩ := other
      obtain ⟨rfl, shapes⟩ := heads
      have agree := Write.drafts_agree shapes catalog key index
      unfold draftWrites
      generalize write.drafts catalog key index = one at agree ⊢
      generalize fellow.drafts catalog key index = another at agree ⊢
      obtain ⟨next, agree⟩ := agree
      cases agree with
      | failed error => exact .failed error
      | succeeded drafts =>
          refine (ih next).bind fun others fellows later => .succeeded ?_
          rw [List.map_append, List.map_append, drafts, later]

/-! ## Composition -/

theorem Draft.declared_shape (draft : Draft) : draft.shape.declared = draft.declared := by
  simp only [declared, shape, List.map_map]
  rfl

theorem Draft.build_shape (draft : Draft) : draft.shape.build = draft.build.shape := by
  have bindings : draft.shape.bindings = draft.bindings.mapValues fun _ => .null := by
    rw [Draft.bindings, Draft.bindings, Entries.mapValues_ofPairs]
    simp only [Draft.shape, Entries.mapValues, List.map_map]
    rfl
  have roots : draft.shape.rootField = draft.rootField := by
    simp only [Draft.rootField, Draft.shape, List.map_map]
    rfl
  rw [Draft.build, Draft.declared_shape, bindings, roots]
  rfl

namespace Document

theorem addBindings_mapValues (change : Json → Json) (values pairs : Entries Json) :
    addBindings (values.mapValues change) (pairs.mapValues change) =
      (addBindings values pairs).map (Entries.mapValues change) := by
  induction pairs generalizing values with
  | nil => rfl
  | cons pair rest ih =>
      obtain ⟨name, value⟩ := pair
      rw [Entries.mapValues_cons, addBindings, addBindings, Entries.has_mapValues]
      cases values.has name with
      | true => rfl
      | false =>
          simp only [Bool.false_eq_true, if_false]
          rw [← Entries.mapValues_put, ih]

theorem gather_shape (fragments : Entries String) (values : Entries Json) (builds : List Build) :
    gather fragments (values.mapValues fun _ => .null) (builds.map Build.shape) =
      (gather fragments values builds).map
        fun gathered => (gathered.1, gathered.2.mapValues fun _ => .null) := by
  induction builds generalizing fragments values with
  | nil => rfl
  | cons build rest ih =>
      -- Blank bindings meet a name exactly where the bindings themselves do.
      have bound := addBindings_mapValues (fun _ => .null) values build.bindings
      rw [List.map_cons, gather, gather]
      change (addFragment fragments build.fragment >>= fun fragments =>
        addBindings _ (build.bindings.mapValues fun _ => .null) >>= fun values =>
          gather fragments values (rest.map Build.shape)) = _
      rw [bound]
      cases addFragment fragments build.fragment with
      | error error => rfl
      | ok added =>
          cases addBindings values build.bindings with
          | error error => rfl
          | ok joined => exact ih added joined

theorem compose_shape (kind : OperationKind) (builds : List Build) :
    compose kind (builds.map Build.shape) = (compose kind builds).map Document.shape := by
  have gathered := gather_shape [] [] builds
  rw [Entries.mapValues_nil] at gathered
  unfold compose
  rw [List.isEmpty_map, gathered]
  split
  · rfl
  · cases gather [] [] builds with
    | error error => rfl
    | ok gathered =>
        simp only [Except.map, bind, Except.bind, List.map_map, List.flatMap_map,
          List.filterMap_map]
        rfl

theorem compose_agree (kind : OperationKind) {first second : List Draft}
    (same : first.map Draft.shape = second.map Draft.shape) :
    Outcome.Agree Document.shape (compose kind (first.map Draft.build))
      (compose kind (second.map Draft.build)) := by
  have builds : (first.map Draft.build).map Build.shape =
      (second.map Draft.build).map Build.shape := by
    have built := congrArg (List.map Draft.build) same
    simpa only [List.map_map, Function.comp_def, Draft.build_shape] using built
  refine .of_map ?_
  rw [← compose_shape, builds, compose_shape]

end Document

/-! ## Documents -/

def Query.declared (query : Query) (catalog : Catalog) : List Variable :=
  (Reading.drafts (readings catalog query.tables) 0).flatMap Draft.declared

def Mutation.declared (mutation : Mutation) (catalog : Catalog) : List Variable :=
  (Writing.drafts (writings catalog mutation.tables) 0).flatMap Draft.declared

namespace Document

def Declares (document : Document) (declared : List Variable) : Prop :=
  ∃ fragments roots, document.text = fragmentsText fragments ++
    operationText document.kind document.operationName declared roots

theorem declares_of_compose {kind : OperationKind} {drafts : List Draft} {document : Document}
    (composed : compose kind (drafts.map Draft.build) = .ok document) :
    document.Declares (drafts.flatMap Draft.declared) := by
  obtain ⟨_, fragments, values, _, rfl⟩ := compose_eq_ok composed
  refine ⟨fragments, (drafts.map Draft.build).map Build.selection, ?_⟩
  rw [List.flatMap_map]
  rfl

/-- Two documents differ at most in the values of their variables: the variables have the
same names, and are declared in the same order and of the same types. -/
structure Alike (one other : Document) (declared expected : List Variable) : Prop where
  whole : other = { one with values := other.values }
  names : one.values.keys = other.values.keys
  declares : one.Declares declared ∧ other.Declares expected
  same : declared = expected

theorem alike_of_shapes {kind : OperationKind} {drafts fellows : List Draft}
    {one other : Document} (same : drafts.map Draft.shape = fellows.map Draft.shape)
    (first : compose kind (drafts.map Draft.build) = .ok one)
    (second : compose kind (fellows.map Draft.build) = .ok other)
    (shapes : one.shape = other.shape) :
    one.Alike other (drafts.flatMap Draft.declared) (fellows.flatMap Draft.declared) where
  whole := by
    cases one
    cases other
    simp only [shape, Document.mk.injEq] at shapes
    obtain ⟨rfl, rfl, rfl, _, rfl⟩ := shapes
    rfl
  names := by
    have keys := congrArg (fun document => document.values.keys) shapes
    simpa only [shape, Entries.keys_mapValues] using keys
  declares := ⟨declares_of_compose first, declares_of_compose second⟩
  same := by
    have declared := congrArg (List.flatMap Draft.declared) same
    simpa only [List.flatMap_map, Draft.declared_shape] using declared

theorem compile_agree (kind : OperationKind) {first second : Outcome (List Draft)}
    (agree : Outcome.Agree (List.map Draft.shape) first second) :
    (∃ error, (first >>= fun drafts => compose kind (drafts.map Draft.build)) = .error error ∧
      (second >>= fun drafts => compose kind (drafts.map Draft.build)) = .error error) ∨
    ∃ drafts fellows one other, first = .ok drafts ∧ second = .ok fellows ∧
      compose kind (drafts.map Draft.build) = .ok one ∧
      compose kind (fellows.map Draft.build) = .ok other ∧
      one.Alike other (drafts.flatMap Draft.declared) (fellows.flatMap Draft.declared) := by
  cases agree with
  | failed error => exact .inl ⟨error, rfl, rfl⟩
  | @succeeded drafts fellows same =>
      have composed := compose_agree kind same
      generalize one_eq : compose kind (drafts.map Draft.build) = one at composed
      generalize other_eq : compose kind (fellows.map Draft.build) = other at composed
      cases composed with
      | failed error => exact .inl ⟨error, one_eq, other_eq⟩
      | succeeded shapes =>
          exact .inr ⟨drafts, fellows, _, _, rfl, rfl, one_eq, other_eq,
            alike_of_shapes same one_eq other_eq shapes⟩

end Document

/-- Batches of one shape, on one catalog, are refused with one error, or compiled to
documents that differ in the values of their variables only: in kind, operation name, text
and flat paths they are the same, and so are the names of the variables and the declared
types. So nothing that is passed as a value reaches a text, and no value decides whether a
batch is refused. -/
theorem documents_of_shape (catalog : Catalog) :
    (∀ (kind : OperationKind) (first second : Query), first.shape = second.shape →
      (∃ error, Document.ofReads kind catalog first = .error error ∧
        Document.ofReads kind catalog second = .error error) ∨
      ∃ one other, Document.ofReads kind catalog first = .ok one ∧
        Document.ofReads kind catalog second = .ok other ∧
        one.Alike other (first.declared catalog) (second.declared catalog)) ∧
    ∀ first second : Mutation, first.shape = second.shape →
      (∃ error, Document.ofMutation catalog first = .error error ∧
        Document.ofMutation catalog second = .error error) ∨
      ∃ one other, Document.ofMutation catalog first = .ok one ∧
        Document.ofMutation catalog second = .ok other ∧
        one.Alike other (first.declared catalog) (second.declared catalog) := by
  constructor
  · intro kind first second same
    have tables := (congrArg Query.tables same :)
    refine (Document.compile_agree kind (draftReads_agree tables catalog 0)).imp_right ?_
    rintro ⟨drafts, fellows, one, other, drafted, followed, composed, compiled, alike⟩
    obtain ⟨_, _, rfl⟩ := draftReads_eq_ok drafted
    obtain ⟨_, _, rfl⟩ := draftReads_eq_ok followed
    exact ⟨one, other, Outcome.bind_eq_ok.mpr ⟨_, drafted, composed⟩,
      Outcome.bind_eq_ok.mpr ⟨_, followed, compiled⟩, alike⟩
  · intro first second same
    have tables := (congrArg Mutation.tables same :)
    refine (Document.compile_agree .mutation (draftWrites_agree tables catalog 0)).imp_right ?_
    rintro ⟨drafts, fellows, one, other, drafted, followed, composed, compiled, alike⟩
    obtain ⟨_, rfl⟩ := draftWrites_eq_ok drafted
    obtain ⟨_, rfl⟩ := draftWrites_eq_ok followed
    exact ⟨one, other, Outcome.bind_eq_ok.mpr ⟨_, drafted, composed⟩,
      Outcome.bind_eq_ok.mpr ⟨_, followed, compiled⟩, alike⟩

/-- Inserts into a table, and updates all of its rows. -/
def fillingMutation (objects set : Json) : Mutation :=
  .ofTables [("post", ⟨some (.ofObjects objects), some ⟨.empty, some set, none, []⟩, none⟩)]

/-- A list of objects, a single object, and a value that reads like a part of a document
leave no trace in the text. -/
theorem documents_of_shape_filling :
    ∃ one other,
      Document.ofMutation aliasedClient.catalog (fillingMutation (.arr []) .empty) = .ok one ∧
      Document.ofMutation aliasedClient.catalog
        (fillingMutation .empty (.obj [("title", .str ") \x7b id \x7d")])) = .ok other ∧
      one.text = other.text ∧
      one.values.values = [.arr [], .empty, .empty] ∧
      other.values.values =
        [.arr [.empty], .empty, .obj [("title", .str ") \x7b id \x7d")]] := by
  rcases (documents_of_shape aliasedClient.catalog).2 (fillingMutation (.arr []) .empty)
    (fillingMutation .empty (.obj [("title", .str ") \x7b id \x7d")])) rfl with
    ⟨_, refused, _⟩ | ⟨one, other, compiled, followed, alike⟩
  · cases refused
  · refine ⟨one, other, compiled, followed, by rw [alike.whole], ?_, ?_⟩
    · cases compiled
      rfl
    · cases followed
      rfl

end GraphBatch
