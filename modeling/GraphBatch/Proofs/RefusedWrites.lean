import GraphBatch.Proofs.Refusal
import GraphBatch.Proofs.Remapping
import GraphBatch.Proofs.VariableNames

/-!
# Writes that are refused

A batch of writes fails to compile for the first key, in order, that is not a table
or has an action that cannot be drafted: an update that changes nothing, or an action
that returns no columns on a table that has none; and if every key can be drafted, for
having no action at all. The drafts of writes always compose. The document has one root
field, one flat path and one part of its name for every action that is present, and no
two root fields have one name.
-/

namespace GraphBatch

theorem Action.draftOn_eq_error_iff {action : Action} {key : String} {table : Table}
    {index : Nat} {passed : List Passed} {returning : Selection} {error : Error} :
    action.draftOn key table index passed returning = .error error ↔
      (returning = [] ∧ table.primaryKey = [] ∧ table.columns = []) ∧
        error = table.noColumns key := by
  unfold Action.draftOn
  rw [Outcome.bind_eq_error, Table.returnedFields_eq_error_iff]
  refine or_iff_left ?_
  rintro ⟨fields, _, made⟩
  cases made

namespace Write

variable {write : Write} {catalog : Catalog} {key : String} {table : Table} {index : Nat}
  {action : Action} {error : Error}

/-- What an action on a known table is refused for. That an update changes something is
looked at before what it returns. -/
inductive RefusedAction (write : Write) (key : String) (table : Table) (action : Action) :
    Error → Prop where
  | noChanges (idle : write.Idle action) : RefusedAction write key table action (noChanges key)
  | noColumns (present : write.has action = true) (changes : ¬ write.Idle action)
      (blank : write.returning action = []) (keyless : table.primaryKey = [])
      (bare : table.columns = []) :
      RefusedAction write key table action (table.noColumns key)

inductive Refused (catalog : Catalog) (key : String) (write : Write) : Error → Prop where
  | unknownTable (missing : catalog.get? key = none) :
      Refused catalog key write (.unknownTable key)
  | action {table : Table} {error : Error} (found : catalog.get? key = some table)
      (first : FirstRefusal (write.RefusedAction key table) Action.all error) :
      Refused catalog key write error

theorem has_of_idle (idle : write.Idle action) : write.has action = true := by
  obtain ⟨rfl, update, given, _⟩ := idle
  exact Option.isSome_iff_exists.mpr ⟨update, given⟩

theorem draftOf_eq_error_iff :
    (write.draftOf key table index action).map Prod.snd = some (.error error) ↔
      write.RefusedAction key table action error := by
  rcases write.draftOf_cases key table index action with
    ⟨absent, drafted⟩ | ⟨_, idle, drafted⟩ | ⟨present, changes, drafted⟩
  · rw [drafted]
    refine iff_of_false (by simp) fun refused => ?_
    cases refused with
    | noChanges idle => cases absent.symm.trans (has_of_idle idle)
    | noColumns present => cases absent.symm.trans present
  · rw [drafted]
    constructor
    · intro failed
      cases failed
      exact .noChanges idle
    · intro refused
      cases refused with
      | noChanges _ => rfl
      | noColumns _ changes => exact absurd idle changes
  · rw [drafted, Option.map_some, Option.some_inj, Action.draftOn_eq_error_iff]
    constructor
    · rintro ⟨⟨blank, keyless, bare⟩, rfl⟩
      exact .noColumns present changes blank keyless bare
    · intro refused
      cases refused with
      | noChanges idle => exact absurd idle changes
      | noColumns _ _ blank keyless bare => exact ⟨⟨blank, keyless, bare⟩, rfl⟩

theorem draftsOf_eq_error_iff {actions : List Action} :
    (write.draftsOf key table actions index).2 = .error error ↔
      FirstRefusal (write.RefusedAction key table) actions error := by
  induction actions generalizing index with
  | nil => exact iff_of_false (fun failed => nomatch failed) FirstRefusal.not_nil
  | cons action rest ih =>
      -- An absent action gives no outcome at all, so it is refused for nothing.
      have one : ∀ other, (write.draftOf key table index action).map Prod.snd =
          some (.error other) ↔ write.RefusedAction key table action other :=
        fun _ => draftOf_eq_error_iff
      rw [FirstRefusal.cons_iff]
      simp only [← one]
      unfold draftsOf
      rcases write.draftOf key table index action with _ | ⟨next, fault | draft⟩
      · simp [ih]
      · simp
      · dsimp only
        rw [← @ih next]
        rcases write.draftsOf key table rest next with ⟨last, fault | drafts⟩
        · simp
        · simp

theorem drafts_eq_error_iff :
    (write.drafts catalog key index).2 = .error error ↔ write.Refused catalog key error := by
  unfold drafts
  cases looked : catalog.lookup key with
  | error fault =>
      obtain ⟨missing, rfl⟩ := Catalog.lookup_eq_error.mp looked
      constructor
      · intro failed
        cases failed
        exact .unknownTable missing
      · intro refused
        cases refused with
        | unknownTable _ => rfl
        | action found _ => cases missing.symm.trans found
  | ok table =>
      have found := Catalog.lookup_eq_ok.mp looked
      dsimp only
      rw [draftsOf_eq_error_iff]
      constructor
      · exact .action found
      · intro refused
        cases refused with
        | unknownTable missing => cases missing.symm.trans found
        | action also first =>
            cases found.symm.trans also
            exact first

/-- An action that is not refused is absent, or has columns to return; if it is an
update, it changes something. -/
theorem not_refusedAction_iff :
    (∀ error, ¬ write.RefusedAction key table action error) ↔
      ¬ write.Idle action ∧ (write.has action = true →
        write.returning action ≠ [] ∨ table.primaryKey ≠ [] ∨ table.columns ≠ []) := by
  constructor
  · intro fine
    have changes : ¬ write.Idle action := fun idle => fine _ (.noChanges idle)
    refine ⟨changes, ?_⟩
    intro present
    by_contra bare
    rw [not_or, not_or, not_not, not_not, not_not] at bare
    exact fine _ (.noColumns present changes bare.1 bare.2.1 bare.2.2)
  · rintro ⟨changes, filled⟩ error refused
    cases refused with
    | noChanges idle => exact changes idle
    | noColumns present _ blank keyless bare =>
        rcases filled present with given | keyed | known
        · exact given blank
        · exact keyed keyless
        · exact known bare

theorem not_idle_iff :
    (∀ action, ¬ write.Idle action) ↔
      ∀ update ∈ write.update, update.set ≠ none ∨ update.increment ≠ none := by
  constructor
  · intro changes update given
    by_contra unset
    rw [not_or, not_not, not_not] at unset
    exact changes .update ⟨rfl, update, given, unset⟩
  · rintro changes action ⟨rfl, update, given, unset⟩
    exact (changes update given).elim (fun set => set unset.1) fun increment => increment unset.2

/-- Writes that are not refused have a table, change something with their update, and
have columns to return. -/
theorem not_refused_iff :
    (∀ error, ¬ write.Refused catalog key error) ↔
      ∃ table, catalog.get? key = some table ∧
        (∀ update ∈ write.update, update.set ≠ none ∨ update.increment ≠ none) ∧
        ∀ action, write.has action = true →
          write.returning action ≠ [] ∨ table.primaryKey ≠ [] ∨ table.columns ≠ [] := by
  have every : ∀ action, action ∈ Action.all := by
    intro action
    cases action <;> decide
  constructor
  · intro fine
    obtain ⟨table, found⟩ : ∃ table, catalog.get? key = some table :=
      Option.ne_none_iff_exists'.mp fun missing => fine _ (.unknownTable missing)
    have each := FirstRefusal.none_iff.mp fun error first => fine error (.action found first)
    have single := fun action => not_refusedAction_iff.mp (each action (every action))
    exact ⟨table, found, not_idle_iff.mp fun action => (single action).1,
      fun action => (single action).2⟩
  · rintro ⟨table, found, changes, filled⟩ error refused
    cases refused with
    | unknownTable missing => cases missing.symm.trans found
    | action also first =>
        cases found.symm.trans also
        refine FirstRefusal.none_iff.mpr ?_ error first
        intro action _
        exact not_refusedAction_iff.mpr ⟨not_idle_iff.mpr changes action, filled action⟩

end Write

/-- Writes are not drafted exactly if those to one key are refused, and the first such
key decides. -/
theorem draftWrites_eq_error_iff {catalog : Catalog} {writes : List (String × Write)}
    {index : Nat} {error : Error} :
    draftWrites catalog writes index = .error error ↔
      FirstRefusal (fun entry => entry.2.Refused catalog entry.1) writes error := by
  induction writes generalizing index with
  | nil => exact iff_of_false (fun failed => nomatch failed) FirstRefusal.not_nil
  | cons entry rest ih =>
      obtain ⟨key, write⟩ := entry
      have one : ∀ other, (write.drafts catalog key index).2 = .error other ↔
          write.Refused catalog key other := fun _ => Write.drafts_eq_error_iff
      rw [FirstRefusal.cons_iff]
      simp only [← one]
      unfold draftWrites
      rcases write.drafts catalog key index with ⟨next, fault | first⟩
      · simp
      · dsimp only
        rw [Outcome.bind_eq_error, ih]
        simp

theorem draftWrites_eq_ok_iff {catalog : Catalog} {writes : List (String × Write)} {index : Nat}
    {drafts : List Draft} :
    draftWrites catalog writes index = .ok drafts ↔
      (∀ entry ∈ writes, ∀ error, ¬ entry.2.Refused catalog entry.1 error) ∧
        drafts = Writing.drafts (writings catalog writes) index := by
  rw [← FirstRefusal.none_iff]
  exact Outcome.eq_ok_iff (fun _ => draftWrites_eq_error_iff) fun _ made =>
    (draftWrites_eq_ok made).2

/-! ## Names of root fields -/

theorem Action.rootName_inj {action other : Action} {table another : String}
    (same : action.rootName table = other.rootName another) :
    action = other ∧ table = another := by
  cases action <;> cases other <;> simp_all [rootName, String.ext_iff]

theorem Writing.map_drafts {part : Draft → String}
    (same : ∀ (writing : Writing) index, part (writing.draft index) = writing.root)
    (items : List Writing) (index : Nat) :
    (Writing.drafts items index).map part = items.map Writing.root :=
  map_numbered same items index

namespace Mutation

variable {catalog : Catalog} {mutation : Mutation} {error : Error}

/-- The names of the root fields of the present actions, in order. -/
def rootNames (mutation : Mutation) : List String :=
  mutation.parts.map fun part => part.2.rootName part.1

/-- No action on a table is present twice. -/
theorem nodup_parts (mutation : Mutation) : mutation.parts.Nodup := by
  have keys : mutation.tables.Pairwise fun first second => first.1 ≠ second.1 :=
    List.pairwise_map.mp mutation.distinct
  refine List.nodup_flatMap.mpr ⟨?_, ?_⟩
  · intro entry _
    have actions : entry.2.actions.Nodup := entry.2.nodup_action_texts.of_map _
    exact actions.map fun _ _ same => (Prod.mk.inj same).2
  · refine keys.imp ?_
    intro first second apart part one other
    obtain ⟨_, _, rfl⟩ := List.mem_map.mp one
    obtain ⟨_, _, same⟩ := List.mem_map.mp other
    exact apart (Prod.mk.inj same).1.symm

theorem nodup_rootNames (mutation : Mutation) : mutation.rootNames.Nodup := by
  refine mutation.nodup_parts.map ?_
  rintro ⟨table, action⟩ ⟨another, other⟩ same
  obtain ⟨rfl, rfl⟩ := Action.rootName_inj same
  rfl

theorem parts_eq_nil : mutation.parts = [] ↔ ∀ entry ∈ mutation.tables, entry.2.isEmpty = true := by
  simp [parts, List.flatMap_eq_nil_iff, Write.actions_eq_nil]

theorem roots_writings (known : ∀ entry ∈ mutation.tables, ∃ table,
      catalog.get? entry.1 = some table) :
    (writings catalog mutation.tables).map Writing.root = mutation.rootNames := by
  rw [rootNames, parts, ← parts_writings known, List.map_map]
  refine List.map_congr_left ?_
  intro writing inside
  simp [Writing.root, Writing.part, Action.root_eq_rootName, name_of_mem_writings inside]

/-- What a batch of writes is refused for. -/
inductive Refused (catalog : Catalog) (mutation : Mutation) : Error → Prop where
  | write {error : Error}
      (first : FirstRefusal (fun entry => entry.2.Refused catalog entry.1) mutation.tables error) :
      Refused catalog mutation error
  | empty (fine : ∀ entry ∈ mutation.tables, ∀ error, ¬ entry.2.Refused catalog entry.1 error)
      (blank : ∀ entry ∈ mutation.tables, entry.2.isEmpty = true) :
      Refused catalog mutation (Document.emptyBatch .mutation)

/-- There is an action, every key is a table, every update changes something and every
action has columns to return. -/
structure Compiles (catalog : Catalog) (mutation : Mutation) : Prop where
  filled : ∃ entry ∈ mutation.tables, entry.2.isEmpty = false
  writes : ∀ entry ∈ mutation.tables, ∃ table, catalog.get? entry.1 = some table ∧
    (∀ update ∈ entry.2.update, update.set ≠ none ∨ update.increment ≠ none) ∧
    ∀ action, entry.2.has action = true →
      entry.2.returning action ≠ [] ∨ table.primaryKey ≠ [] ∨ table.columns ≠ []

/-- Drafts of writes only fail to compose if there are none: they bind different
variables and have no fragments. -/
theorem compose_drafts_eq_error_iff {items : List Writing} :
    Document.compose .mutation ((Writing.drafts items 0).map Draft.build) = .error error ↔
      items = [] ∧ error = Document.emptyBatch .mutation := by
  have apart := Document.nodup_boundNames (Writing.drafts_ascending items 0)
  have blank : (Writing.drafts items 0).map Draft.build = [] ↔ items = [] := by
    simp [Writing.drafts]
  have plain : ((Writing.drafts items 0).map Draft.build).filterMap Build.fragment = [] := by
    rw [List.filterMap_map, List.filterMap_eq_nil_iff]
    intro draft inside
    simp [Draft.build, Writing.fragment_of_mem_drafts inside]
  rw [Document.compose_eq_error_iff_of_nodup apart, blank, plain]
  refine or_iff_left ?_
  rintro ⟨_, conflict, _⟩
  exact conflict.not_pairwise .nil

/-- If no write is refused, there is nothing to compose exactly if no action is
present. -/
theorem writings_eq_nil (fine : ∀ entry ∈ mutation.tables, ∀ error,
      ¬ entry.2.Refused catalog entry.1 error) :
    writings catalog mutation.tables = [] ↔
      ∀ entry ∈ mutation.tables, entry.2.isEmpty = true := by
  have known : ∀ entry ∈ mutation.tables, ∃ table, catalog.get? entry.1 = some table := by
    intro entry inside
    obtain ⟨table, found, _⟩ := Write.not_refused_iff.mp (fine entry inside)
    exact ⟨table, found⟩
  rw [← parts_eq_nil, parts, ← parts_writings known, List.map_eq_nil_iff]

theorem ofMutation_eq_error_iff :
    Document.ofMutation catalog mutation = .error error ↔ mutation.Refused catalog error := by
  unfold Document.ofMutation
  rw [Outcome.bind_eq_error, draftWrites_eq_error_iff]
  constructor
  · rintro (first | ⟨drafts, drafted, failed⟩)
    · exact .write first
    · obtain ⟨fine, rfl⟩ := draftWrites_eq_ok_iff.mp drafted
      obtain ⟨blank, rfl⟩ := compose_drafts_eq_error_iff.mp failed
      exact .empty fine ((writings_eq_nil fine).mp blank)
  · intro refused
    cases refused with
    | write first => exact Or.inl first
    | empty fine blank =>
        exact Or.inr ⟨_, draftWrites_eq_ok_iff.mpr ⟨fine, rfl⟩,
          compose_drafts_eq_error_iff.mpr ⟨(writings_eq_nil fine).mpr blank, rfl⟩⟩

theorem not_refused_iff :
    (∀ error, ¬ mutation.Refused catalog error) ↔ mutation.Compiles catalog := by
  constructor
  · intro never
    have fine : ∀ entry ∈ mutation.tables, ∀ error, ¬ entry.2.Refused catalog entry.1 error :=
      FirstRefusal.none_iff.mp fun error first => never error (.write first)
    refine ⟨?_, fun entry inside => Write.not_refused_iff.mp (fine entry inside)⟩
    by_contra none_filled
    exact never _ (.empty fine (by simpa using none_filled))
  · intro compiles error refused
    cases refused with
    | write first =>
        refine FirstRefusal.none_iff.mpr ?_ error first
        intro entry inside
        exact Write.not_refused_iff.mpr (compiles.writes entry inside)
    | empty _ blank =>
        obtain ⟨entry, inside, filled⟩ := compiles.filled
        cases (blank entry inside).symm.trans filled

theorem exists_ofMutation_iff :
    (∃ document, Document.ofMutation catalog mutation = .ok document) ↔
      mutation.Compiles catalog :=
  (Outcome.exists_ok_iff fun _ => ofMutation_eq_error_iff).trans not_refused_iff

end Mutation

/-- A batch of writes is refused exactly for what `Mutation.Refused` says, and compiles
in every other case. The document then has one root field, one flat path and one part
of its name for every present action, in order, and no two root fields have one name. -/
theorem outcome_of_writes (catalog : Catalog) (mutation : Mutation) :
    (∀ error, Document.ofMutation catalog mutation = .error error ↔
      mutation.Refused catalog error) ∧
    ((∃ document, Document.ofMutation catalog mutation = .ok document) ↔
      mutation.Compiles catalog) ∧
    mutation.rootNames.Nodup ∧
    ∀ document, Document.ofMutation catalog mutation = .ok document →
      (∃ declared, document.text = Document.operationText .mutation document.operationName
        declared ((mutation.rootFields catalog).map RootField.render)) ∧
      (mutation.rootFields catalog).map RootField.name = mutation.rootNames ∧
      (mutation.rootFields catalog).map RootField.responseName = mutation.rootNames ∧
      document.flatPaths = mutation.parts.map Response.partPath ∧
      document.operationName = GeneratedName.forOperation mutation.rootNames := by
  refine ⟨fun _ => Mutation.ofMutation_eq_error_iff, Mutation.exists_ofMutation_iff,
    mutation.nodup_rootNames, ?_⟩
  intro document compiled
  obtain ⟨known, composed⟩ := Document.ofMutation_eq_ok compiled
  have parts := Document.composedOf composed
  have roots := Mutation.roots_writings known
  have plain : (Writing.drafts (writings catalog mutation.tables) 0).filterMap Draft.fragment =
      [] := List.filterMap_eq_nil_iff.mpr fun draft => Writing.fragment_of_mem_drafts
  have text := parts.text
  rw [plain] at text
  refine ⟨⟨_, text.trans (String.empty_append)⟩, ?_, ?_, Document.flatPaths_ofMutation compiled, ?_⟩
  · rw [← roots, Mutation.rootFields, List.map_map]
    exact Writing.map_drafts (fun _ _ => rfl) _ 0
  · rw [← roots, Mutation.rootFields, List.map_map]
    exact Writing.map_drafts (fun _ _ => rfl) _ 0
  · rw [← roots, parts.operationName]
    exact congrArg GeneratedName.forOperation (Writing.map_drafts (fun _ _ => rfl) _ 0)

/-- A table without columns beside one with a primary key. -/
def mixedCatalog : Catalog where
  tables := [
    ("bare", ⟨"bare", .view, [], []⟩),
    ("post", ⟨"post", .baseTable, [], ["id"]⟩)]
  distinct := by decide
  named := by decide

/-- No action on the one, two on the other. -/
def skippingMutation : Mutation where
  tables := [
    ("bare", .empty),
    ("post", ⟨some (.ofObjects .empty), none, some (.ofFilter .empty)⟩)]
  distinct := by decide

/-- An update that changes nothing, before a key that is not a table. -/
def idleMutation : Mutation where
  tables := [("post", ⟨none, some (.ofFilter .empty), none⟩), ("gone", .empty)]
  distinct := by decide

/-- A key without actions is passed over, even on a table that can return nothing; an
update that changes nothing is refused before the next key is looked up. -/
theorem outcome_of_writes_mixed :
    (∃ document, Document.ofMutation mixedCatalog skippingMutation = .ok document ∧
      document.operationName = "insert_post_delete_post" ∧
      document.flatPaths = skippingMutation.parts.map Response.partPath) ∧
    Document.ofMutation mixedCatalog idleMutation = .error (Write.noChanges "post") := by
  constructor
  · obtain ⟨_, _, _, made⟩ := outcome_of_writes mixedCatalog skippingMutation
    obtain ⟨_, _, _, flatPaths, name⟩ := made _ rfl
    exact ⟨_, rfl, name, flatPaths⟩
  · refine ((outcome_of_writes mixedCatalog idleMutation).1 _).mpr (.write ?_)
    refine ⟨[], ("post", _), _, rfl, by simp, .action rfl ⟨[.insert], .update, [.delete], rfl, ?_, ?_⟩⟩
    · intro earlier inside other refused
      cases List.mem_singleton.mp inside
      cases refused with
      | noChanges idle => cases idle.1
      | noColumns present => cases present
    · exact .noChanges ⟨rfl, _, rfl, rfl, rfl⟩

end GraphBatch
