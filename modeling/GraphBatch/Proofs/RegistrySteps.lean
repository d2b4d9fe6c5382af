import GraphBatch.Proofs.KeyOrder
import GraphBatch.Proofs.RepeatedRows

/-!
# Steps on a registry

A registry is filled step by step. A step is a call that states a fact about a table, or it
takes rows that state one fact each. A fact that is refused changes nothing, and the rows
behind it are not looked at. So a table of the catalog is made of the facts about it that
were taken, whatever steps there were besides.
-/

namespace GraphBatch

namespace Entries

variable {α β : Type}

theorem find?_adjust (entries : Entries α) (name other : String) (change : α → α) :
    (entries.adjust name change).find? other =
      if name = other then (entries.find? other).map change else entries.find? other := by
  induction entries with
  | nil => simp [adjust]
  | cons pair rest ih =>
      obtain ⟨first, held⟩ := pair
      by_cases here : first = name
      · by_cases wanted : name = other <;> simp [adjust, find?, here, wanted]
      · by_cases wanted : first = other
        · subst wanted
          simp [adjust, find?, here, Ne.symm here]
        · simp [adjust, find?, here, wanted, ih]

theorem find?_map_named (value : String → α → β) (entries : Entries α) (name : String) :
    find? (entries.map fun entry => (entry.1, value entry.1 entry.2)) name =
      (entries.find? name).map (value name) := by
  induction entries with
  | nil => rfl
  | cons pair rest ih =>
      obtain ⟨first, held⟩ := pair
      by_cases same : first = name
      · simp [find?, same]
      · simp [find?, same, ih]

/-- What is under a name can be found, where names are distinct. -/
theorem find?_of_mem {entries : Entries α} (distinct : entries.Distinct) {pair : String × α}
    (inside : pair ∈ entries) : entries.find? pair.1 = some pair.2 := by
  induction entries with
  | nil => cases inside
  | cons first rest ih =>
      obtain ⟨fresh, apart⟩ := List.nodup_cons.mp distinct
      rcases List.mem_cons.mp inside with rfl | later
      · exact if_pos rfl
      · have differ : first.1 ≠ pair.1 := fun same =>
          fresh (List.mem_map.mpr ⟨pair, later, same.symm⟩)
        rw [find?, if_neg differ, ih apart later]

/-- Entries that are written one after the other are among those written. -/
theorem mem_of_mem_ofPairs {pairs : List (String × α)} {pair : String × α}
    (inside : pair ∈ ofPairs pairs) : pair ∈ pairs := by
  induction pairs using List.reverseRecOn with
  | nil => cases inside
  | append_singleton pairs last ih =>
      rw [ofPairs, List.foldl_concat] at inside
      rw [List.mem_append, List.mem_singleton]
      exact (mem_put inside).symm.imp_left ih

end Entries

namespace Catalog

/-! ## Facts -/

/-- What a call or a row states about a table. -/
inductive Fact where
  | registers (table : String) (kind : TableKind)
  | sets (table : String) (column : Column)
  | records (table : String) (column : KeyColumn)
deriving DecidableEq, Repr

namespace Fact

def subject : Fact → String
  | .registers table _ => table
  | .sets table _ => table
  | .records table _ => table

def column? : Fact → Option (String × Column)
  | .sets _ column => some (column.name, column)
  | _ => none

def key? : Fact → Option KeyColumn
  | .records _ column => some column
  | _ => none

/-- The table that facts about it make, the first of which is its kind: the columns that
were stated last, in the places of the first, and the key that was recorded. -/
def tableOf (name : String) (facts : List Fact) : Option Table :=
  match facts with
  | .registers _ kind :: _ => some {
      name := name
      kind := kind
      columns := Entries.ofPairs (facts.filterMap column?)
      primaryKey := recordedKey (facts.filterMap key?) }
  | _ => none

/-- Whether a fact can be taken where some tables are known. -/
def Fits (known : List String) : Fact → Prop
  | .registers _ _ => True
  | .sets table _ => table ∈ known
  | .records table _ => table ∈ known

def names (known : List String) : Fact → List String
  | .registers table _ => if table ∈ known then known else known ++ [table]
  | _ => known

/-- What is known of a table with one more fact about it: its registration and its key
columns. -/
def on : Fact → Option (Registration × List KeyColumn) → Option (Registration × List KeyColumn)
  | .registers _ kind, none => some (⟨kind, []⟩, [])
  | .registers _ _, some known => some known
  | .sets _ column, known => known.map fun known =>
      ({ known.1 with columns := known.1.columns.put column.name column }, known.2)
  | .records _ column, known => known.map fun known =>
      (known.1, KeyColumn.record column.position column.name known.2)

end Fact

namespace Registry

def tell (registry : Registry) : Fact → Outcome Registry
  | .registers table kind => .ok (registry.registerTable table kind)
  | .sets table column => registry.setColumn table column
  | .records table column => registry.setKeyColumn table column.name column.position

/-- Enters a fact about a table that is known. -/
def enter (registry : Registry) : Fact → Registry
  | .registers table kind => registry.registerTable table kind
  | .sets table column => registry.withColumn table column
  | .records table column => registry.withKeyColumn table column.name column.position

/-- What both maps hold of a table. -/
def known? (registry : Registry) (name : String) : Option (Registration × List KeyColumn) :=
  (registry.tables.find? name).map fun known => (known, registry.keyColumnsOf name)

variable {registry : Registry} {fact : Fact} {name : String}

theorem known?_eq_none_iff : registry.known? name = none ↔ name ∉ registry.tables.keys := by
  rw [known?, Option.map_eq_none_iff, Entries.find?_eq_none_iff]

theorem tell_of_fits (fits : fact.Fits registry.tables.keys) :
    registry.tell fact = .ok (registry.enter fact) := by
  cases fact with
  | registers table kind => rfl
  | sets table column => exact setColumn_of_mem fits column
  | records table column => exact setKeyColumn_of_mem fits column.name column.position

theorem tell_of_unfit (unfit : ¬ fact.Fits registry.tables.keys) :
    registry.tell fact = .error (.unknownTable fact.subject) := by
  cases fact with
  | registers table kind => exact absurd trivial unfit
  | sets table column => exact setColumn_of_not_mem unfit column
  | records table column => exact setKeyColumn_of_not_mem unfit column.name column.position

theorem keys_enter (registry : Registry) (fact : Fact) :
    (registry.enter fact).tables.keys = fact.names registry.tables.keys := by
  cases fact with
  | registers table kind => exact keys_registerTable registry table kind
  | sets table column => exact keys_withColumn registry table column
  | records table column => exact congrArg Entries.keys (tables_withKeyColumn registry _ _ _)

theorem known?_registerTable (registry : Registry) (table name : String) (kind : TableKind) :
    (registry.registerTable table kind).known? name =
      if table = name then (Fact.registers table kind).on (registry.known? name)
      else registry.known? name := by
  rw [known?, tables_registerTable, keyColumnsOf, keyColumns_registerTable]
  by_cases here : table = name
  · subst here
    rw [if_pos rfl]
    split
    · rename_i known
      obtain ⟨held, found⟩ := Option.ne_none_iff_exists'.mp
        (mt known?_eq_none_iff.mp (not_not.mpr known))
      rw [← keyColumnsOf, ← known?, found, Fact.on]
    · rename_i free
      rw [known?_eq_none_iff.mpr free, Entries.find?_append_of_not_mem _ _ free, ← keyColumnsOf,
        keyColumnsOf_of_not_mem registry free]
      simp [Entries.find?, Fact.on]
  · rw [if_neg here]
    split
    · rfl
    · rename_i free
      rw [← Entries.put_of_not_mem _ _ free, Entries.find?_put_ne _ _ here]
      rfl

theorem known?_withColumn (registry : Registry) (table name : String) (column : Column) :
    (registry.withColumn table column).known? name =
      if table = name then (Fact.sets table column).on (registry.known? name)
      else registry.known? name := by
  rw [known?, withColumn, Entries.find?_adjust]
  split
  · rw [Fact.on, known?, Option.map_map, Option.map_map]
    rfl
  · rfl

theorem known?_withKeyColumn (registry : Registry) (table name : String) (column : KeyColumn) :
    (registry.withKeyColumn table column.name column.position).known? name =
      if table = name then (Fact.records table column).on (registry.known? name)
      else registry.known? name := by
  rw [known?, tables_withKeyColumn]
  by_cases known : name ∈ registry.tables.keys
  · rw [keyColumnsOf_withKeyColumn registry known]
    split
    · rw [Fact.on, known?, Option.map_map]
      rfl
    · rfl
  · rw [(Entries.find?_eq_none_iff registry.tables name).mpr known,
      known?_eq_none_iff.mpr known]
    split <;> rfl

/-- A fact changes what is known of its own table, and of no other. -/
theorem known?_enter (registry : Registry) (fact : Fact) (name : String) :
    (registry.enter fact).known? name =
      if fact.subject = name then fact.on (registry.known? name) else registry.known? name := by
  cases fact with
  | registers table kind => exact known?_registerTable registry table name kind
  | sets table column => exact known?_withColumn registry table name column
  | records table column => exact known?_withKeyColumn registry table name column

/-- The facts that are taken of those offered: all up to the first that is missing or
refused. -/
def takes : Registry → List (Outcome Fact) → List Fact
  | _, [] => []
  | _, .error _ :: _ => []
  | registry, .ok fact :: rest =>
      match registry.tell fact with
      | .ok next => fact :: takes next rest
      | .error _ => []

/-- Tells facts until one is missing or refused. -/
def tellEach : Registry → List (Outcome Fact) → Registry × Option Error
  | registry, [] => (registry, none)
  | registry, .error error :: _ => (registry, some error)
  | registry, .ok fact :: rest =>
      match registry.tell fact with
      | .ok next => tellEach next rest
      | .error error => (registry, some error)

/-- Facts that a registry takes one after the other, and the registry that it becomes. -/
inductive Taken : Registry → List Fact → Registry → Prop where
  | nil {registry : Registry} : Taken registry [] registry
  | cons {registry last : Registry} {fact : Fact} {rest : List Fact}
      (fits : fact.Fits registry.tables.keys) (later : Taken (registry.enter fact) rest last) :
      Taken registry (fact :: rest) last

theorem Taken.append {next last : Registry} {facts others : List Fact}
    (taken : Taken registry facts next) (later : Taken next others last) :
    Taken registry (facts ++ others) last := by
  induction taken with
  | nil => exact later
  | cons fits _ ih => exact .cons fits (ih later)

theorem taken_takes (registry : Registry) (offered : List (Outcome Fact)) :
    Taken registry (registry.takes offered) (registry.tellEach offered).1 := by
  induction offered generalizing registry with
  | nil => exact .nil
  | cons first rest ih =>
      cases first with
      | error error => exact .nil
      | ok fact =>
          by_cases fits : fact.Fits registry.tables.keys
          · rw [takes, tellEach, tell_of_fits fits]
            exact .cons fits (ih _)
          · rw [takes, tellEach, tell_of_unfit fits]
            exact .nil

theorem mem_of_mem_takes {offered : List (Outcome Fact)} (inside : fact ∈ registry.takes offered) :
    .ok fact ∈ offered := by
  induction offered generalizing registry with
  | nil => cases inside
  | cons first rest ih =>
      cases first with
      | error error => cases inside
      | ok held =>
          rw [takes] at inside
          split at inside
          · rcases List.mem_cons.mp inside with rfl | later
            · exact List.mem_cons_self
            · exact List.mem_cons_of_mem _ (ih later)
          · cases inside

/-- What is taken depends on the tables that are known, and on nothing else. -/
theorem takes_congr {other : Registry} (same : registry.tables.keys = other.tables.keys)
    (offered : List (Outcome Fact)) :
    registry.takes offered = other.takes offered ∧
      (registry.tellEach offered).1.tables.keys = (other.tellEach offered).1.tables.keys := by
  induction offered generalizing registry other with
  | nil => exact ⟨rfl, same⟩
  | cons first rest ih =>
      cases first with
      | error error => exact ⟨rfl, same⟩
      | ok fact =>
          by_cases fits : fact.Fits registry.tables.keys
          · have also : fact.Fits other.tables.keys := same ▸ fits
            have after : (registry.enter fact).tables.keys = (other.enter fact).tables.keys := by
              rw [keys_enter, keys_enter, same]
            obtain ⟨taken, known⟩ := ih after
            rw [takes, takes, tellEach, tellEach, tell_of_fits fits, tell_of_fits also]
            exact ⟨congrArg (fact :: ·) taken, known⟩
          · have also : ¬ fact.Fits other.tables.keys := same ▸ fits
            rw [takes, takes, tellEach, tellEach, tell_of_unfit fits, tell_of_unfit also]
            exact ⟨rfl, same⟩

namespace Taken

variable {last : Registry} {facts : List Fact}

/-- What is known of a table is what the facts about it say. -/
theorem known? (taken : Taken registry facts last) (name : String) :
    last.known? name =
      (facts.filter fun fact => fact.subject = name).foldl (fun known fact => fact.on known)
        (registry.known? name) := by
  induction taken with
  | nil => rfl
  | @cons registry last fact rest fits later ih =>
      rw [ih, known?_enter]
      by_cases here : fact.subject = name
      · rw [if_pos here, List.filter_cons_of_pos (by simpa using here), List.foldl_cons]
      · rw [if_neg here, List.filter_cons_of_neg (by simpa using here)]

theorem of_unknown (taken : Taken registry facts last)
    (unknown : name ∉ registry.tables.keys) :
    (facts.filter fun fact => fact.subject = name) = [] ∨
      ∃ kind rest, (facts.filter fun fact => fact.subject = name) = .registers name kind :: rest := by
  induction taken with
  | nil => exact Or.inl rfl
  | @cons registry last fact rest fits later ih =>
      by_cases here : fact.subject = name
      · rw [List.filter_cons_of_pos (by simpa using here)]
        cases fact with
        | registers subject kind =>
            cases here
            exact Or.inr ⟨kind, _, rfl⟩
        | sets table column =>
            cases here
            exact absurd fits unknown
        | records table column =>
            cases here
            exact absurd fits unknown
      · rw [List.filter_cons_of_neg (by simpa using here)]
        refine ih ?_
        rw [← known?_eq_none_iff, known?_enter, if_neg here]
        exact known?_eq_none_iff.mpr unknown

end Taken

theorem foldl_on (facts : List Fact) (known : Registration) (keyColumns : List KeyColumn) :
    facts.foldl (fun known fact => fact.on known) (some (known, keyColumns)) = some
      ({ known with columns := known.columns.putEach (facts.filterMap Fact.column?) },
        (facts.filterMap Fact.key?).foldl
          (fun held column => KeyColumn.record column.position column.name held) keyColumns) := by
  induction facts generalizing known keyColumns with
  | nil => rfl
  | cons fact rest ih =>
      cases fact with
      | registers table kind => exact ih known keyColumns
      | sets table column => exact ih _ keyColumns
      | records table column => exact ih known _

theorem get?_toCatalog (registry : Registry) (name : String) :
    registry.toCatalog.get? name =
      (registry.known? name).map fun known => tableOf name known.1 known.2 := by
  rw [Catalog.get?, tables_toCatalog, known?, Option.map_map]
  exact Entries.find?_map_named (fun name known => tableOf name known
    (registry.keyColumnsOf name)) registry.tables name

end Registry

/-! ## Steps -/

def Question.fact (question : Question) (row : Row) : Outcome Fact :=
  match question with
  | .tables => do
      let row ← row.decode TableRow.record
      .ok (.registers row.table (.ofText row.kind))
  | .columns => do
      let row ← row.decode ColumnRow.record
      .ok (.sets row.table ⟨row.column, row.type, row.storageType⟩)
  | .keys => do
      let row ← row.decode KeyRow.record
      .ok (.records row.table ⟨row.position, row.column⟩)

theorem Registry.takeRows_eq_tellEach {take : Registry → Row → Outcome Registry}
    {fact : Row → Outcome Fact}
    (each : ∀ registry row, take registry row = fact row >>= tell registry)
    (registry : Registry) (rows : List Row) :
    takeRows take registry rows = registry.tellEach (rows.map fact) := by
  induction rows generalizing registry with
  | nil => rfl
  | cons row rows ih =>
      rw [takeRows, each, List.map_cons]
      cases fact row with
      | error error => rfl
      | ok fact =>
          have told : (Except.ok fact >>= tell registry) = tell registry fact := rfl
          rw [tellEach, told]
          cases registry.tell fact with
          | error error => rfl
          | ok next => exact ih next

theorem Question.take_eq_tellEach (question : Question) (registry : Registry)
    (rows : List Row) :
    question.take registry rows = registry.tellEach (rows.map question.fact) := by
  cases question with
  | tables =>
      refine Registry.takeRows_eq_tellEach (fun registry row => ?_) registry rows
      rw [Registry.takeTable, Question.fact, bind_assoc]
      rfl
  | columns =>
      refine Registry.takeRows_eq_tellEach (fun registry row => ?_) registry rows
      rw [Registry.takeColumn, Question.fact, bind_assoc]
      rfl
  | keys =>
      refine Registry.takeRows_eq_tellEach (fun registry row => ?_) registry rows
      rw [Registry.takeKey, Question.fact, bind_assoc]
      rfl

/-- A call that states a fact, or rows that answer a question. -/
inductive Step where
  | call (fact : Fact)
  | answer (question : Question) (rows : List Row)

namespace Step

/-- Takes a step: what it leaves, and its error if it fails. -/
def run (registry : Registry) : Step → Registry × Option Error
  | .call fact =>
      match registry.tell fact with
      | .ok next => (next, none)
      | .error error => (registry, some error)
  | .answer question rows => question.take registry rows

def facts : Step → List (Outcome Fact)
  | .call fact => [.ok fact]
  | .answer question rows => rows.map question.fact

theorem run_eq_tellEach (step : Step) (registry : Registry) :
    step.run registry = registry.tellEach step.facts := by
  cases step with
  | call fact =>
      rw [run, facts, Registry.tellEach]
      rfl
  | answer question rows => exact question.take_eq_tellEach registry rows

end Step

section Steps

variable {registry other : Registry} {steps rest : List Step} {name : String}

/-- What steps leave, whether they fail or not. -/
def runAll (registry : Registry) (steps : List Step) : Registry :=
  steps.foldl (fun held step => (step.run held).1) registry

def effects : Registry → List Step → List Fact
  | _, [] => []
  | registry, step :: rest => registry.takes step.facts ++ effects (step.run registry).1 rest

theorem runAll_append (registry : Registry) (steps rest : List Step) :
    runAll registry (steps ++ rest) = runAll (runAll registry steps) rest :=
  List.foldl_append

theorem effects_append (registry : Registry) (steps rest : List Step) :
    effects registry (steps ++ rest) =
      effects registry steps ++ effects (runAll registry steps) rest := by
  induction steps generalizing registry with
  | nil => rfl
  | cons step steps ih =>
      rw [List.cons_append, effects, effects, ih, List.append_assoc]
      rfl

theorem taken_effects (registry : Registry) (steps : List Step) :
    Registry.Taken registry (effects registry steps) (runAll registry steps) := by
  induction steps generalizing registry with
  | nil => exact .nil
  | cons step steps ih =>
      have first := registry.taken_takes step.facts
      rw [← step.run_eq_tellEach] at first
      exact first.append (ih _)

theorem mem_facts_of_mem_effects {fact : Fact} (inside : fact ∈ effects registry steps) :
    ∃ step ∈ steps, .ok fact ∈ step.facts := by
  induction steps generalizing registry with
  | nil => cases inside
  | cons step steps ih =>
      rw [effects, List.mem_append] at inside
      rcases inside with here | later
      · exact ⟨step, List.mem_cons_self, Registry.mem_of_mem_takes here⟩
      · obtain ⟨found, listed, stated⟩ := ih later
        exact ⟨found, List.mem_cons_of_mem _ listed, stated⟩

theorem effects_congr (same : registry.tables.keys = other.tables.keys) (steps : List Step) :
    effects registry steps = effects other steps := by
  induction steps generalizing registry other with
  | nil => rfl
  | cons step steps ih =>
      obtain ⟨taken, known⟩ := Registry.takes_congr same step.facts
      rw [← step.run_eq_tellEach, ← step.run_eq_tellEach] at known
      rw [effects, effects, taken, ih known]

end Steps

/-! ## The catalog of steps -/

/-- The catalog that steps on a new registry make. -/
def catalogOf (steps : List Step) : Catalog := (runAll .empty steps).toCatalog

def factsAbout (steps : List Step) (name : String) : List Fact :=
  (effects .empty steps).filter fun fact => fact.subject = name

def recordedFor (steps : List Step) (name : String) : List KeyColumn :=
  (factsAbout steps name).filterMap Fact.key?

/-- A table is made of the facts about it that are taken, and there is none without them. -/
theorem get?_catalogOf (steps : List Step) (name : String) :
    (catalogOf steps).get? name = Fact.tableOf name (factsAbout steps name) := by
  have taken := taken_effects .empty steps
  rw [catalogOf, Registry.get?_toCatalog, taken.known?]
  rcases taken.of_unknown List.not_mem_nil with none | ⟨kind, rest, first⟩
  · rw [factsAbout, none]
    rfl
  · rw [factsAbout, first, List.foldl_cons]
    have begun : (Fact.registers name kind).on (Registry.empty.known? name) =
        some (⟨kind, []⟩, []) := rfl
    rw [begun, Registry.foldl_on]
    rfl

/-- A table as it stands in a catalog: under its own name, from which its other names are
made, with every column once and under its own name. -/
structure StandsUnder (name : String) (table : Table) : Prop where
  named : table.name = name
  columns : ∀ entry ∈ table.columns, entry.2.name = entry.1
  distinct : table.columns.Distinct
  selectRoot : table.selectRoot = name
  insertRoot : table.insertRoot = "insert_" ++ name
  updateRoot : table.updateRoot = "update_" ++ name
  deleteRoot : table.deleteRoot = "delete_" ++ name
  filterType : table.filterType = name ++ "_bool_exp"
  orderType : table.orderType = name ++ "_order_by"
  columnType : table.columnType = name ++ "_select_column"
  insertType : table.insertType = name ++ "_insert_input"
  conflictType : table.conflictType = name ++ "_on_conflict"
  setType : table.setType = name ++ "_set_input"
  incrementType : table.incrementType = name ++ "_inc_input"

theorem Fact.of_tableOf {name : String} {facts : List Fact} {table : Table}
    (made : tableOf name facts = some table) :
    StandsUnder name table ∧ table.primaryKey = recordedKey (facts.filterMap key?) := by
  unfold tableOf at made
  split at made
  · cases made
    refine ⟨⟨rfl, ?_, Entries.distinct_ofPairs _, rfl, rfl, rfl, rfl, rfl, rfl, rfl, rfl, rfl,
      rfl, rfl⟩, rfl⟩
    intro entry inside
    obtain ⟨fact, _, stated⟩ := List.mem_filterMap.mp (Entries.mem_of_mem_ofPairs inside)
    cases fact with
    | registers table kind => cases stated
    | sets table column =>
        cases stated
        rfl
    | records table column => cases stated
  · cases made

/-! ## Calls in another order -/

def keyCalls (calls : List (String × KeyColumn)) : List Step :=
  calls.map fun call => .call (.records call.1 call.2)

def columnsFor (calls : List (String × KeyColumn)) (name : String) : List KeyColumn :=
  (calls.filter fun call => call.1 = name).map Prod.snd

theorem keys_runAll_keyCalls (registry : Registry) (calls : List (String × KeyColumn)) :
    (runAll registry (keyCalls calls)).tables.keys = registry.tables.keys := by
  induction calls generalizing registry with
  | nil => rfl
  | cons call calls ih =>
      have kept : ((Step.call (.records call.1 call.2)).run registry).1.tables.keys =
          registry.tables.keys := by
        by_cases known : (Fact.records call.1 call.2).Fits registry.tables.keys
        · rw [Step.run, Registry.tell_of_fits known]
          exact Registry.keys_enter _ _
        · rw [Step.run, Registry.tell_of_unfit known]
      exact (ih _).trans kept

/-- The facts about a table that calls on key columns make true, if it is known. -/
theorem effects_keyCalls (registry : Registry) (calls : List (String × KeyColumn))
    (name : String) :
    ((effects registry (keyCalls calls)).filter fun fact => fact.subject = name) =
      if name ∈ registry.tables.keys then (columnsFor calls name).map (.records name)
      else [] := by
  induction calls with
  | nil => simp [keyCalls, effects, columnsFor]
  | cons call calls ih =>
      obtain ⟨table, column⟩ := call
      have first := keys_runAll_keyCalls registry [(table, column)]
      have later : effects ((Step.call (.records table column)).run registry).1
          (keyCalls calls) = effects registry (keyCalls calls) := effects_congr first _
      have whole : effects registry (keyCalls ((table, column) :: calls)) =
          registry.takes [.ok (.records table column)] ++ effects registry (keyCalls calls) :=
        congrArg (registry.takes [.ok (.records table column)] ++ ·) later
      rw [whole, List.filter_append, ih]
      by_cases known : table ∈ registry.tables.keys
      · have fits : (Fact.records table column).Fits registry.tables.keys := known
        have taken : registry.takes [.ok (.records table column)] = [.records table column] := by
          rw [Registry.takes, Registry.tell_of_fits fits]
          rfl
        rw [taken]
        by_cases here : table = name
        · subst here
          simp [columnsFor, Fact.subject, known]
        · simp [columnsFor, Fact.subject, here]
      · have unfit : ¬ (Fact.records table column).Fits registry.tables.keys := known
        have none : registry.takes [.ok (.records table column)] = [] := by
          rw [Registry.takes, Registry.tell_of_unfit unfit]
        rw [none]
        by_cases here : table = name
        · subst here
          simp [known]
        · simp [columnsFor, here]

theorem factsAbout_keyCalls (before after : List Step) (calls : List (String × KeyColumn))
    (name : String) :
    factsAbout (before ++ keyCalls calls ++ after) name =
      factsAbout before name ++
        (if name ∈ (runAll .empty before).tables.keys then
          (columnsFor calls name).map (.records name) else []) ++
        (effects (runAll .empty before) after).filter fun fact => fact.subject = name := by
  have kept : (runAll .empty (before ++ keyCalls calls)).tables.keys =
      (runAll .empty before).tables.keys := by
    rw [runAll_append, keys_runAll_keyCalls]
  rw [factsAbout, effects_append, effects_append, List.filter_append, List.filter_append,
    effects_keyCalls, effects_congr kept, factsAbout]

theorem Fact.tableOf_between {name : String} {front back : List Fact} {one two : List KeyColumn}
    (begun : front ≠ [])
    (same : recordedKey (front.filterMap key? ++ one ++ back.filterMap key?) =
      recordedKey (front.filterMap key? ++ two ++ back.filterMap key?)) :
    tableOf name (front ++ one.map (.records name) ++ back) =
      tableOf name (front ++ two.map (.records name) ++ back) := by
  have columns : ∀ recorded : List KeyColumn,
      (recorded.map (Fact.records name)).filterMap column? = [] := by
    intro recorded
    rw [List.filterMap_map]
    exact List.filterMap_eq_nil_iff.mpr fun _ _ => rfl
  have keys : ∀ recorded : List KeyColumn,
      (recorded.map (Fact.records name)).filterMap key? = recorded := by
    intro recorded
    rw [List.filterMap_map]
    exact List.filterMap_some
  cases front with
  | nil => exact absurd rfl begun
  | cons first rest =>
      cases first with
      | registers table kind =>
          have made : ∀ facts, tableOf name (.registers table kind :: facts) = some
              ⟨name, kind, Entries.ofPairs (facts.filterMap column?),
                recordedKey (facts.filterMap key?)⟩ := fun _ => rfl
          rw [List.cons_append, List.cons_append, List.cons_append, List.cons_append, made, made]
          simp only [List.filterMap_append, columns, keys, List.append_nil]
          exact congrArg (fun key => some (Table.mk name kind _ key)) same
      | sets table column => rfl
      | records table column => rfl

/-- Calls that record different key columns of a table at different positions can be made
in any order, if the columns are not recorded again later. -/
theorem get?_of_calls_reordered {before after : List Step}
    {calls shuffled : List (String × KeyColumn)} {name : String} (same : calls.Perm shuffled)
    (distinct : ((columnsFor calls name).map KeyColumn.name).Nodup)
    (apart : ((columnsFor calls name).map KeyColumn.position).Nodup)
    (untouched : ∀ step ∈ after, ∀ column, .ok (.records name column) ∈ step.facts →
      column.name ∉ (columnsFor calls name).map KeyColumn.name) :
    (catalogOf (before ++ keyCalls calls ++ after)).get? name =
      (catalogOf (before ++ keyCalls shuffled ++ after)).get? name := by
  rw [get?_catalogOf, get?_catalogOf, factsAbout_keyCalls, factsAbout_keyCalls]
  split
  · rename_i known
    have begun : factsAbout before name ≠ [] := by
      intro none
      have found := (taken_effects .empty before).known? name
      rw [← factsAbout, none] at found
      exact Registry.known?_eq_none_iff.mp found known
    refine Fact.tableOf_between begun (recordedKey_reordered ?_ distinct apart ?_)
    · exact (same.filter _).map Prod.snd
    · intro column inside
      obtain ⟨fact, listed, stated⟩ := List.mem_filterMap.mp inside
      obtain ⟨taken, subject⟩ := List.mem_filter.mp listed
      obtain ⟨step, later, offered⟩ := mem_facts_of_mem_effects taken
      cases fact with
      | registers table kind => cases stated
      | sets table column => cases stated
      | records table held =>
          cases stated
          have here : table = name := of_decide_eq_true subject
          exact untouched step later column (here ▸ offered)
  · rfl

/-- The catalog that steps make, whichever they are and whether they fail or not. Every
table stands under its own name, from which its other names are made, with every column
under its own name, and its key is the one that was recorded: every column once, by the
last positions, and at one position as they were first recorded. A table depends on the
facts about it that were taken, and on nothing else. Key columns that are recorded at
different positions, and not again later, make the same key in any order; so the calls
that record them can be made in any order. -/
theorem catalog_of_steps (steps : List Step) :
    (∀ entry ∈ (catalogOf steps).tables, StandsUnder entry.1 entry.2 ∧
      KeyOrder (recordedFor steps entry.1) entry.2.primaryKey) ∧
    (∀ name, (catalogOf steps).get? name = Fact.tableOf name (factsAbout steps name)) ∧
    (∀ other name front one two back,
      recordedFor steps name = front ++ one ++ back →
      recordedFor other name = front ++ two ++ back → one.Perm two →
      (one.map KeyColumn.name).Nodup → (one.map KeyColumn.position).Nodup →
      (∀ column ∈ back, column.name ∉ one.map KeyColumn.name) →
      ∀ table ∈ (catalogOf steps).get? name, ∀ moved ∈ (catalogOf other).get? name,
        table.primaryKey = moved.primaryKey) ∧
    (∀ before calls shuffled after name, steps = before ++ keyCalls calls ++ after →
      calls.Perm shuffled →
      ((columnsFor calls name).map KeyColumn.name).Nodup →
      ((columnsFor calls name).map KeyColumn.position).Nodup →
      (∀ step ∈ after, ∀ column, .ok (.records name column) ∈ step.facts →
        column.name ∉ (columnsFor calls name).map KeyColumn.name) →
      (catalogOf steps).get? name =
        (catalogOf (before ++ keyCalls shuffled ++ after)).get? name) := by
  have made : ∀ steps name table, table ∈ (catalogOf steps).get? name →
      StandsUnder name table ∧ table.primaryKey = recordedKey (recordedFor steps name) := by
    intro steps name table found
    rw [get?_catalogOf] at found
    exact Fact.of_tableOf found
  refine ⟨?_, get?_catalogOf steps, ?_, ?_⟩
  · intro entry inside
    have found := Entries.find?_of_mem (catalogOf steps).distinct inside
    obtain ⟨stands, key⟩ := made steps entry.1 entry.2 found
    refine ⟨stands, ?_⟩
    rw [key]
    exact keyOrder_recordedKey _
  · intro other name front one two back here there same distinct apart untouched table found
      moved also
    rw [(made steps name table found).2, (made other name moved also).2, here, there]
    exact recordedKey_reordered same distinct apart untouched
  · rintro before calls shuffled after name rfl same distinct apart untouched
    exact get?_of_calls_reordered same distinct apart untouched

/-- Steps that know a table of users. The first call is refused, since there is no table
yet; the second table of that name is ignored; the rows end with one for a table that is
not registered; and a column is set a second time. -/
def openingSteps : List Step := [
  .call (.records "user" ⟨1, "email"⟩),
  .call (.registers "user" .baseTable),
  .call (.registers "user" .view),
  .answer .columns [
    [("table_name", .str "user"), ("column_name", .str "id"), ("data_type", .str "integer"),
      ("udt_name", .str "int4")],
    [("table_name", .str "user"), ("column_name", .str "name"), ("data_type", .str "text"),
      ("udt_name", .str "text")],
    [("table_name", .str "ghost"), ("column_name", .str "id"), ("data_type", .str "uuid"),
      ("udt_name", .str "uuid")],
    [("table_name", .str "user"), ("column_name", .str "email"), ("data_type", .str "text"),
      ("udt_name", .str "text")]],
  .call (.sets "user" ⟨"id", "uuid", "uuid"⟩)]

def userCalls : List (String × KeyColumn) := [("user", ⟨1, "id"⟩), ("user", ⟨2, "name"⟩)]

/-- A column at the position of another. -/
def closingSteps : List Step := [.call (.records "user" ⟨1, "email"⟩)]

/-- The key is the same with its two calls made the other way round, and also with a table
registered between them. -/
theorem catalog_of_steps_user :
    (catalogOf (openingSteps ++ keyCalls userCalls ++ closingSteps)).toList =
      [⟨"user", .baseTable,
        [("id", ⟨"id", "uuid", "uuid"⟩), ("name", ⟨"name", "text", "text"⟩)],
        ["id", "email", "name"]⟩] ∧
    (catalogOf (openingSteps ++ keyCalls userCalls ++ closingSteps)).get? "user" =
      (catalogOf (openingSteps ++ keyCalls userCalls.reverse ++ closingSteps)).get? "user" ∧
    ∀ table ∈ (catalogOf (openingSteps ++ keyCalls userCalls ++ closingSteps)).get? "user",
      ∀ moved ∈ (catalogOf (openingSteps ++ [.call (.records "user" ⟨2, "name"⟩),
          .call (.registers "post" .baseTable), .call (.records "user" ⟨1, "id"⟩)] ++
          closingSteps)).get? "user",
        table.primaryKey = moved.primaryKey := by
  obtain ⟨_, _, recorded, called⟩ :=
    catalog_of_steps (openingSteps ++ keyCalls userCalls ++ closingSteps)
  refine ⟨by decide +kernel, ?_, ?_⟩
  · refine called openingSteps userCalls userCalls.reverse closingSteps "user" rfl
      (List.reverse_perm _).symm (by decide) (by decide) ?_
    intro step inside column stated
    rw [List.mem_singleton.mp inside] at stated
    cases List.mem_singleton.mp stated
    decide
  · exact recorded _ "user" [] [⟨1, "id"⟩, ⟨2, "name"⟩] [⟨2, "name"⟩, ⟨1, "id"⟩]
      [⟨1, "email"⟩] (by decide +kernel) (by decide +kernel) (List.Perm.swap _ _ _) (by decide)
      (by decide) (by decide)

/-- Both columns of the key once more, at one position. -/
def levellingSteps : List Step := [
  .call (.records "user" ⟨5, "id"⟩), .call (.records "user" ⟨5, "name"⟩)]

/-- Where the columns are recorded again later, the order of the calls can be seen in the key:
at one position a column stays where it was recorded first. -/
theorem key_of_calls_exchanged :
    userCalls.Perm userCalls.reverse ∧
    ((columnsFor userCalls "user").map KeyColumn.name).Nodup ∧
    ((columnsFor userCalls "user").map KeyColumn.position).Nodup ∧
    ((catalogOf (openingSteps ++ keyCalls userCalls ++ levellingSteps)).get? "user").map
      Table.primaryKey = some ["id", "name"] ∧
    ((catalogOf (openingSteps ++ keyCalls userCalls.reverse ++ levellingSteps)).get? "user").map
      Table.primaryKey = some ["name", "id"] :=
  ⟨(List.reverse_perm _).symm, by decide, by decide, by decide +kernel, by decide +kernel⟩

end Catalog

end GraphBatch
