import GraphBatch.Document.Drafter
import GraphBatch.Document.Compile
import GraphBatch.Proofs.Outcomes

/-!
# Drafts that succeed

What drafting gives when it succeeds, spelled out without the ways in which it
can fail. A read that is drafted has a table, and its draft is a function of the
read, the table and the number; a write has one such draft for every action that
is present. The drafts of a batch are numbered without gaps.
-/

namespace GraphBatch

namespace Catalog

theorem lookup_eq_ok {catalog : Catalog} {name : String} {table : Table} :
    catalog.lookup name = .ok table ↔ catalog.get? name = some table := by
  unfold lookup
  cases catalog.get? name with
  | none => simp
  | some found => simp

theorem lookup_eq_error {catalog : Catalog} {name : String} {error : Error} :
    catalog.lookup name = .error error ↔
      catalog.get? name = none ∧ error = .unknownTable name := by
  unfold lookup
  cases catalog.get? name with
  | none => simp [eq_comm]
  | some found => simp

theorem name_of_get? {catalog : Catalog} {name : String} {table : Table}
    (found : catalog.get? name = some table) : table.name = name :=
  catalog.named (name, table) (Entries.mem_of_find? found)

end Catalog

/-! ## The fields that are asked for -/

namespace Table

/-- The fields of a read: the requested ones, or else every known column. -/
def readSelection (table : Table) (requested : Selection) : Selection :=
  if requested.isEmpty then .ofColumns table.columns.keys else requested

/-- The fields of the rows that a write returns: the requested ones, or else the
primary key, or else every known column. -/
def returnedSelection (table : Table) (requested : Selection) : Selection :=
  if ¬ requested.isEmpty then requested
  else if table.primaryKey.isEmpty then .ofColumns table.columns.keys
  else .ofColumns table.primaryKey

theorem allColumns_eq_ok {table : Table} {key : String} {fields : Selection}
    (chosen : table.allColumns key = .ok fields) :
    fields = .ofColumns table.columns.keys := by
  unfold allColumns at chosen
  split at chosen
  · cases chosen
  · cases chosen
    rfl

theorem readFields_eq_ok {table : Table} {key : String} {requested fields : Selection}
    (chosen : table.readFields key requested = .ok fields) :
    fields = table.readSelection requested := by
  unfold readFields at chosen
  unfold readSelection
  split at chosen
  · rename_i blank
    rw [if_pos blank]
    exact allColumns_eq_ok chosen
  · rename_i given
    rw [if_neg given]
    cases chosen
    rfl

theorem returnedFields_eq_ok {table : Table} {key : String} {requested fields : Selection}
    (chosen : table.returnedFields key requested = .ok fields) :
    fields = table.returnedSelection requested := by
  unfold returnedFields at chosen
  unfold returnedSelection
  split at chosen
  · rename_i given
    rw [if_pos given]
    cases chosen
    rfl
  · rename_i blank
    rw [if_neg blank]
    split at chosen
    · rename_i keyless
      rw [if_pos keyless]
      exact allColumns_eq_ok chosen
    · rename_i keyed
      rw [if_neg keyed]
      cases chosen
      rfl

end Table

/-! ## Numbered drafts -/

section Numbered

variable {α β : Type} {draft : α → Nat → Draft}

theorem map_numbered {part : Draft → β} {own : α → β}
    (same : ∀ item index, part (draft item index) = own item) (items : List α) (index : Nat) :
    ((items.zipIdx index).map fun numbered => draft numbered.1 numbered.2).map part =
      items.map own := by
  have parts : (part ∘ fun numbered : α × Nat => draft numbered.1 numbered.2) =
      own ∘ Prod.fst := funext fun numbered => same numbered.1 numbered.2
  rw [List.map_map, parts, ← List.map_map, List.zipIdx_map_fst]

theorem filterMap_numbered {part : Draft → Option β} {own : α → Option β}
    (same : ∀ item index, part (draft item index) = own item) (items : List α) (index : Nat) :
    ((items.zipIdx index).map fun numbered => draft numbered.1 numbered.2).filterMap part =
      items.filterMap own := by
  have parts : (part ∘ fun numbered : α × Nat => draft numbered.1 numbered.2) =
      own ∘ Prod.fst := funext fun numbered => same numbered.1 numbered.2
  rw [List.filterMap_map, parts, ← List.filterMap_map, List.zipIdx_map_fst]

end Numbered

/-! ## The slots that are passed -/

/-- Every slot, in the order in which variables are passed. -/
def Slot.all : List Slot :=
  [.filter, .order, .limit, .offset, .distinctOn, .objects, .onConflict, .set, .increment]

/-- Whether a read passes a value in a slot. -/
def Select.takes (select : Select) : Slot → Bool
  | .filter => select.filter.isSome
  | .order => select.order.isSome
  | .limit => select.limit.isSome
  | .offset => select.offset.isSome
  | .distinctOn => select.distinctOn.isSome
  | _ => false

theorem Select.slots_passed (select : Select) (table : Table) :
    (select.passed table).map Passed.slot = Slot.all.filter select.takes := by
  obtain ⟨_, filter, order, limit, offset, distinctOn, _, _⟩ := select
  cases filter <;> cases order <;> cases limit <;> cases offset <;> cases distinctOn <;> rfl

/-! ## Reads -/

/-- A read with the table that it resolves to. -/
structure Reading where
  key : String
  table : Table
  select : Select

namespace Reading

/-- The fields that the read asks for. -/
def selection (reading : Reading) : Selection :=
  reading.table.readSelection reading.select.fields

def fragment? (reading : Reading) : Option FragmentDefinition :=
  reading.select.fragment.map fun discriminator =>
    ⟨GeneratedName.forFragment reading.table.name discriminator, reading.table.name,
      reading.selection⟩

def draft (reading : Reading) (index : Nat) : Draft where
  index := index
  key := reading.key
  table := reading.table
  operationName := reading.key
  alias? := if reading.key = reading.table.name then none else some reading.key
  root := reading.table.name
  passed := reading.select.passed reading.table
  body :=
    match reading.fragment? with
    | some fragment => .spread fragment.name
    | none => .fields reading.selection
  fragment := reading.fragment?
  flatPath := none

def drafts (readings : List Reading) (index : Nat) : List Draft :=
  (readings.zipIdx index).map fun numbered => numbered.1.draft numbered.2

@[simp] theorem drafts_nil (index : Nat) : drafts [] index = [] := rfl

@[simp] theorem drafts_cons (reading : Reading) (rest : List Reading) (index : Nat) :
    drafts (reading :: rest) index = reading.draft index :: drafts rest (index + 1) := rfl

end Reading

/-- The reads of a batch that have a table, in order. -/
def readings (catalog : Catalog) (reads : List (String × Select)) : List Reading :=
  reads.filterMap fun entry =>
    (catalog.get? (entry.2.tableName entry.1)).map fun table => ⟨entry.1, table, entry.2⟩

/-- Whether a read that asks for a fragment gives it a usable discriminator. -/
def Select.hasDiscriminator (select : Select) : Bool :=
  select.fragment.all GeneratedName.isDiscriminator

theorem Select.fragment?_eq_ok {select : Select} {key : String} {table : Table}
    {fields : Selection} {fragment : Option FragmentDefinition}
    (made : select.fragment? key table fields = .ok fragment) :
    select.hasDiscriminator = true ∧ fragment = select.fragment.map fun discriminator =>
      ⟨GeneratedName.forFragment table.name discriminator, table.name, fields⟩ := by
  unfold Select.fragment? at made
  unfold Select.hasDiscriminator
  cases asked : select.fragment with
  | none =>
      rw [asked] at made
      cases made
      exact ⟨rfl, rfl⟩
  | some discriminator =>
      rw [asked] at made
      dsimp only at made
      split at made
      · rename_i valid
        cases made
        exact ⟨valid, rfl⟩
      · cases made

theorem Select.draftOn_eq_ok {select : Select} {key : String} {table : Table} {index : Nat}
    {draft : Draft} (made : select.draftOn key table index = .ok draft) :
    select.hasDiscriminator = true ∧ draft = Reading.draft ⟨key, table, select⟩ index := by
  obtain ⟨fields, chosen, made⟩ := Outcome.bind_eq_ok.mp made
  obtain ⟨fragment, asked, made⟩ := Outcome.bind_eq_ok.mp made
  cases Table.readFields_eq_ok chosen
  obtain ⟨valid, rfl⟩ := Select.fragment?_eq_ok asked
  cases made
  exact ⟨valid, rfl⟩

/-- A read that is drafted has a table and a usable discriminator, and takes one
number. -/
theorem Select.draft_eq_ok {select : Select} {catalog : Catalog} {key : String}
    {index next : Nat} {draft : Draft}
    (made : select.draft catalog key index = (next, .ok draft)) :
    select.hasDiscriminator = true ∧
      ∃ table, catalog.get? (select.tableName key) = some table ∧ next = index + 1 ∧
        draft = Reading.draft ⟨key, table, select⟩ index := by
  unfold Select.draft at made
  cases found : catalog.lookup (select.tableName key) with
  | error error =>
      rw [found] at made
      cases made
  | ok table =>
      rw [found] at made
      injection made with numbered made
      obtain ⟨valid, drafted⟩ := draftOn_eq_ok made
      exact ⟨valid, table, Catalog.lookup_eq_ok.mp found, numbered.symm, drafted⟩

theorem of_mem_readings {catalog : Catalog} {reads : List (String × Select)} {reading : Reading}
    (inside : reading ∈ readings catalog reads) :
    (reading.key, reading.select) ∈ reads ∧
      catalog.get? (reading.select.tableName reading.key) = some reading.table := by
  obtain ⟨⟨key, select⟩, given, read⟩ := List.mem_filterMap.mp inside
  obtain ⟨table, found, rfl⟩ := Option.map_eq_some_iff.mp read
  exact ⟨given, found⟩

/-- The drafts of a batch of reads: no read is left out for want of a table, every read
has a usable discriminator, and the drafts are numbered in order. -/
theorem draftReads_eq_ok {catalog : Catalog} {reads : List (String × Select)} {index : Nat}
    {drafts : List Draft} (made : draftReads catalog reads index = .ok drafts) :
    (readings catalog reads).map (fun reading => (reading.key, reading.select)) = reads ∧
      (∀ entry ∈ reads, entry.2.hasDiscriminator = true) ∧
      drafts = Reading.drafts (readings catalog reads) index := by
  induction reads generalizing index drafts with
  | nil =>
      cases made
      exact ⟨rfl, by simp, rfl⟩
  | cons entry rest ih =>
      obtain ⟨key, select⟩ := entry
      unfold draftReads at made
      split at made
      · cases made
      · rename_i next draft drafted
        obtain ⟨others, rest_made, joined⟩ := Outcome.bind_eq_ok.mp made
        cases joined
        obtain ⟨valid, table, found, rfl, rfl⟩ := Select.draft_eq_ok drafted
        obtain ⟨entries, all_valid, rfl⟩ := ih rest_made
        have first : readings catalog ((key, select) :: rest) =
            ⟨key, table, select⟩ :: readings catalog rest := by
          simp [readings, found]
        rw [first]
        refine ⟨by rw [List.map_cons, entries], ?_, by simp⟩
        intro entry inside
        cases inside with
        | head => exact valid
        | tail _ inside => exact all_valid entry inside

/-! ## Writes -/

namespace Write

def has (write : Write) : Action → Bool
  | .insert => write.insert.isSome
  | .update => write.update.isSome
  | .delete => write.delete.isSome

def actions (write : Write) : List Action :=
  Action.all.filter write.has

def passed (write : Write) (table : Table) : Action → List Passed
  | .insert => (write.insert.map fun insert => insert.passed table).getD []
  | .update => (write.update.map fun update => update.passed table).getD []
  | .delete => (write.delete.map fun delete => delete.passed table).getD []

def returning (write : Write) : Action → Selection
  | .insert => (write.insert.map Insert.returning).getD []
  | .update => (write.update.map Update.returning).getD []
  | .delete => (write.delete.map Delete.returning).getD []

/-- Whether a present action passes a value in a slot. -/
def takes (write : Write) : Action → Slot → Bool
  | .insert, .objects => true
  | .insert, .onConflict => (write.insert.bind Insert.onConflict).isSome
  | .update, .filter => true
  | .update, .set => (write.update.bind Update.set).isSome
  | .update, .increment => (write.update.bind Update.increment).isSome
  | .delete, .filter => true
  | _, _ => false

section Slots

variable {write : Write} (table : Table) {action : Action}

theorem slots_passed (present : write.has action = true) :
    (write.passed table action).map Passed.slot = Slot.all.filter (write.takes action) := by
  obtain ⟨inserted, updated, deleted⟩ := write
  cases action with
  | insert =>
      obtain ⟨⟨_, onConflict, _⟩, rfl⟩ := Option.isSome_iff_exists.mp present
      cases onConflict <;> rfl
  | update =>
      obtain ⟨⟨_, set, increment, _⟩, rfl⟩ := Option.isSome_iff_exists.mp present
      cases set <;> cases increment <;> rfl
  | delete =>
      obtain ⟨⟨_, _⟩, rfl⟩ := Option.isSome_iff_exists.mp present
      rfl

theorem passed_of_absent (absent : write.has action = false) :
    write.passed table action = [] := by
  obtain ⟨inserted, updated, deleted⟩ := write
  cases action with
  | insert =>
      cases inserted with
      | none => rfl
      | some insert => cases absent
  | update =>
      cases updated with
      | none => rfl
      | some update => cases absent
  | delete =>
      cases deleted with
      | none => rfl
      | some delete => cases absent

end Slots

end Write

structure Writing where
  key : String
  table : Table
  write : Write
  action : Action

namespace Writing

def root (writing : Writing) : String :=
  writing.action.root writing.table

/-- The fields of the rows that are returned. -/
def selection (writing : Writing) : Selection :=
  writing.table.returnedSelection (writing.write.returning writing.action)

/-- Where the caller expects the rows, and where the endpoint puts them. -/
def flatPath (writing : Writing) : FlatPath :=
  ⟨⟨[writing.key, writing.action.text]⟩, ⟨[writing.root, "returning"]⟩⟩

def draft (writing : Writing) (index : Nat) : Draft where
  index := index
  key := writing.key
  table := writing.table
  operationName := writing.root
  alias? := none
  root := writing.root
  passed := writing.write.passed writing.table writing.action
  body := .returning writing.selection
  fragment := none
  flatPath := some writing.flatPath

/-- The drafts of actions, numbered in order. -/
def drafts (writings : List Writing) (index : Nat) : List Draft :=
  (writings.zipIdx index).map fun numbered => numbered.1.draft numbered.2

@[simp] theorem drafts_nil (index : Nat) : drafts [] index = [] := rfl

@[simp] theorem drafts_cons (writing : Writing) (rest : List Writing) (index : Nat) :
    drafts (writing :: rest) index = writing.draft index :: drafts rest (index + 1) := rfl

theorem drafts_append (first second : List Writing) (index : Nat) :
    drafts (first ++ second) index =
      drafts first index ++ drafts second (index + first.length) := by
  unfold drafts
  rw [List.zipIdx_append, List.map_append]

theorem fragment_of_mem_drafts {items : List Writing} {index : Nat} {draft : Draft}
    (inside : draft ∈ drafts items index) : draft.fragment = none := by
  obtain ⟨_, _, rfl⟩ := List.mem_map.mp inside
  rfl

end Writing

def Write.writings (write : Write) (key : String) (table : Table) : List Writing :=
  write.actions.map fun action => ⟨key, table, write, action⟩

/-- The present actions of a batch on tables that exist, in order. -/
def writings (catalog : Catalog) (writes : List (String × Write)) : List Writing :=
  writes.flatMap fun entry =>
    match catalog.get? entry.1 with
    | some table => entry.2.writings entry.1 table
    | none => []

theorem of_mem_writings {catalog : Catalog} {writes : List (String × Write)}
    {writing : Writing} (inside : writing ∈ writings catalog writes) :
    (writing.key, writing.write) ∈ writes ∧ writing.write.has writing.action = true ∧
      catalog.get? writing.key = some writing.table := by
  obtain ⟨⟨key, write⟩, given, written⟩ := List.mem_flatMap.mp inside
  dsimp only at written
  split at written
  · rename_i table found
    obtain ⟨action, acted, rfl⟩ := List.mem_map.mp written
    exact ⟨given, (List.mem_filter.mp acted).2, found⟩
  · cases written

def Mutation.rootFields (mutation : Mutation) (catalog : Catalog) : List RootField :=
  (Writing.drafts (writings catalog mutation.tables) 0).map Draft.rootField

theorem Action.draftOn_eq_ok {action : Action} {key : String} {table : Table} {index : Nat}
    {passed : List Passed} {returning : Selection} {draft : Draft}
    (made : action.draftOn key table index passed returning = .ok draft) :
    draft = {
      index := index
      key := key
      table := table
      operationName := action.root table
      alias? := none
      root := action.root table
      passed := passed
      body := .returning (table.returnedSelection returning)
      fragment := none
      flatPath := some ⟨⟨[key, action.text]⟩, ⟨[action.root table, "returning"]⟩⟩ } := by
  obtain ⟨fields, chosen, made⟩ := Outcome.bind_eq_ok.mp made
  cases Table.returnedFields_eq_ok chosen
  cases made
  rfl

namespace Write

variable {write : Write} {key : String} {table : Table} {index : Nat} {action : Action}

/-- An action is an update that changes nothing. -/
def Idle (write : Write) (action : Action) : Prop :=
  action = .update ∧
    ∃ update, write.update = some update ∧ update.set = none ∧ update.increment = none

def noChanges (key : String) : Error :=
  .invalidParams ("update on `" ++ key ++ "` sets no columns")

/-- An action is absent, or an update that changes nothing and takes no number, or it is
drafted with what it passes and returns under the next number. -/
theorem draftOf_cases (write : Write) (key : String) (table : Table) (index : Nat)
    (action : Action) :
    (write.has action = false ∧ write.draftOf key table index action = none) ∨
    (write.has action = true ∧ write.Idle action ∧
      write.draftOf key table index action = some (index, .error (noChanges key))) ∨
    (write.has action = true ∧ ¬ write.Idle action ∧
      write.draftOf key table index action = some (index + 1,
        action.draftOn key table index (write.passed table action) (write.returning action))) := by
  cases action with
  | insert =>
      cases given : write.insert with
      | none => exact Or.inl ⟨by simp [has, given], by simp [draftOf, given]⟩
      | some insert =>
          refine Or.inr (Or.inr ⟨by simp [has, given], by simp [Idle], ?_⟩)
          simp [draftOf, passed, returning, given]
  | update =>
      cases given : write.update with
      | none => exact Or.inl ⟨by simp [has, given], by simp [draftOf, given]⟩
      | some update =>
          by_cases unset : update.set = none ∧ update.increment = none
          · refine Or.inr (Or.inl ⟨by simp [has, given], ⟨rfl, update, given, unset⟩, ?_⟩)
            simp [draftOf, noChanges, given, unset]
          · refine Or.inr (Or.inr ⟨by simp [has, given], ?_, ?_⟩)
            · rintro ⟨_, other, same, fields⟩
              cases given.symm.trans same
              exact unset fields
            · simpa [draftOf, passed, returning, given] using unset
  | delete =>
      cases given : write.delete with
      | none => exact Or.inl ⟨by simp [has, given], by simp [draftOf, given]⟩
      | some delete =>
          refine Or.inr (Or.inr ⟨by simp [has, given], by simp [Idle], ?_⟩)
          simp [draftOf, passed, returning, given]

theorem has_of_draftOf_eq_none (absent : write.draftOf key table index action = none) :
    write.has action = false := by
  rcases write.draftOf_cases key table index action with
    ⟨none_given, _⟩ | ⟨_, _, drafted⟩ | ⟨_, _, drafted⟩
  · exact none_given
  · cases absent.symm.trans drafted
  · cases absent.symm.trans drafted

/-- An action that is drafted is present and takes one number. -/
theorem draftOf_eq_ok {next : Nat} {draft : Draft}
    (made : write.draftOf key table index action = some (next, .ok draft)) :
    write.has action = true ∧ next = index + 1 ∧
      draft = Writing.draft ⟨key, table, write, action⟩ index := by
  rcases write.draftOf_cases key table index action with
    ⟨_, drafted⟩ | ⟨_, _, drafted⟩ | ⟨present, _, drafted⟩
  · cases made.symm.trans drafted
  · cases made.symm.trans drafted
  · obtain ⟨rfl, outcome⟩ := Prod.mk.inj (Option.some.inj (made.symm.trans drafted))
    exact ⟨present, rfl, Action.draftOn_eq_ok outcome.symm⟩

/-- The drafts of actions: one for every action that is present, numbered in order. -/
theorem draftsOf_eq_ok {actions : List Action} {next : Nat} {drafts : List Draft}
    (made : write.draftsOf key table actions index = (next, .ok drafts)) :
    next = index + (actions.filter write.has).length ∧
      drafts = Writing.drafts ((actions.filter write.has).map fun action =>
        ⟨key, table, write, action⟩) index := by
  induction actions generalizing index next drafts with
  | nil =>
      cases made
      exact ⟨rfl, rfl⟩
  | cons action rest ih =>
      unfold draftsOf at made
      split at made
      · rename_i absent
        rw [List.filter_cons_of_neg (by simp [has_of_draftOf_eq_none absent])]
        exact ih made
      · cases made
      · rename_i first draft drafted
        obtain ⟨present, rfl, rfl⟩ := draftOf_eq_ok drafted
        rw [List.filter_cons_of_pos present]
        split at made
        · cases made
        · rename_i last others rest_made
          cases made
          obtain ⟨rfl, rfl⟩ := ih rest_made
          refine ⟨?_, rfl⟩
          rw [List.length_cons]
          omega

/-- The drafts of a write: its table is the one under its key. -/
theorem drafts_eq_ok {catalog : Catalog} {next : Nat} {drafts : List Draft}
    (made : write.drafts catalog key index = (next, .ok drafts)) :
    ∃ table, catalog.get? key = some table ∧
      next = index + (write.writings key table).length ∧
      drafts = Writing.drafts (write.writings key table) index := by
  unfold Write.drafts at made
  cases found : catalog.lookup key with
  | error error =>
      rw [found] at made
      cases made
  | ok table =>
      rw [found] at made
      obtain ⟨numbered, rfl⟩ := draftsOf_eq_ok made
      refine ⟨table, Catalog.lookup_eq_ok.mp found, ?_, rfl⟩
      rw [numbered, writings, List.length_map]
      rfl

end Write

/-- The drafts of a batch of writes: every key is a table, and there is one draft
for every action that is present, numbered in order. -/
theorem draftWrites_eq_ok {catalog : Catalog} {writes : List (String × Write)} {index : Nat}
    {drafts : List Draft} (made : draftWrites catalog writes index = .ok drafts) :
    (∀ entry ∈ writes, ∃ table, catalog.get? entry.1 = some table) ∧
      drafts = Writing.drafts (writings catalog writes) index := by
  induction writes generalizing index drafts with
  | nil =>
      cases made
      exact ⟨by simp, rfl⟩
  | cons entry rest ih =>
      obtain ⟨key, write⟩ := entry
      unfold draftWrites at made
      split at made
      · cases made
      · rename_i next first drafted
        obtain ⟨others, rest_made, joined⟩ := Outcome.bind_eq_ok.mp made
        cases joined
        obtain ⟨table, found, rfl, rfl⟩ := Write.drafts_eq_ok drafted
        obtain ⟨known, rfl⟩ := ih rest_made
        have start : writings catalog ((key, write) :: rest) =
            write.writings key table ++ writings catalog rest := by
          simp [writings, found]
        rw [start, Writing.drafts_append]
        refine ⟨?_, rfl⟩
        intro entry inside
        cases inside with
        | head => exact ⟨table, found⟩
        | tail _ inside => exact known entry inside

end GraphBatch
