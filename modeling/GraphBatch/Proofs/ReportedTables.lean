import GraphBatch.Catalog.Introspection
import Mathlib.Data.List.Induction
import Mathlib.Data.List.Sort

/-!
# Tables that rows report

Rows may repeat a name. What a registry makes of them depends on what they name: of
the rows of a table the first counts, of the rows of a column or a key column the
last, and each in the place of the first. The catalog that rows report is defined
here from the rows alone, and the registry that takes the rows one by one is shown
to become that catalog.
-/

namespace GraphBatch

/-! ## Rows by name -/

namespace Catalog

variable {α β : Type} (name : α → String)

/-- Of all rows of one name the first, by first occurrence of the names. -/
def earliest (rows : List α) : List α :=
  (rows.map name).eraseDups.filterMap fun wanted => rows.find? fun row => name row = wanted

/-- Of all rows of one name the last, by first occurrence of the names. -/
def latest (rows : List α) : List α :=
  (rows.map name).eraseDups.filterMap fun wanted =>
    rows.reverse.find? fun row => name row = wanted

theorem eraseDups_concat (names : List String) (added : String) :
    (names ++ [added]).eraseDups =
      if added ∈ names then names.eraseDups else names.eraseDups ++ [added] := by
  rw [List.eraseDups_append]
  by_cases known : added ∈ names
  · simp [List.removeAll, known]
  · simp [List.removeAll, known, List.eraseDups_cons]

theorem nodup_eraseDups (names : List String) : names.eraseDups.Nodup := by
  induction names using List.reverseRecOn with
  | nil => exact List.nodup_nil
  | append_singleton names added ih =>
      rw [eraseDups_concat]
      split
      · exact ih
      · rename_i fresh
        refine List.nodup_append.mpr ⟨ih, List.nodup_singleton added, ?_⟩
        intro held inside last here same
        rw [same, List.mem_singleton.mp here, List.mem_eraseDups] at inside
        exact fresh inside

variable {name}

theorem name_of_find? {rows : List α} {wanted : String} {row : α}
    (found : rows.find? (fun row => name row = wanted) = some row) : name row = wanted := by
  simpa using List.find?_some found

theorem map_filterMap_of_found {names : List String} {look : String → Option α}
    (found : ∀ wanted ∈ names, ∃ row, look wanted = some row ∧ name row = wanted) :
    (names.filterMap look).map name = names := by
  have each : ∀ wanted ∈ names, (look wanted).map name = some wanted := by
    intro wanted inside
    obtain ⟨row, is_found, same⟩ := found wanted inside
    rw [is_found, Option.map_some, same]
  rw [List.map_filterMap, List.filterMap_congr each, List.filterMap_some]

theorem exists_find? {rows : List α} {wanted : String} (inside : wanted ∈ rows.map name) :
    ∃ row, rows.find? (fun row => name row = wanted) = some row ∧ name row = wanted := by
  obtain ⟨row, held, same⟩ := List.mem_map.mp inside
  have present : (rows.find? fun row => name row = wanted).isSome :=
    List.find?_isSome.mpr ⟨row, held, by simpa using same⟩
  obtain ⟨found, is_found⟩ := Option.isSome_iff_exists.mp present
  exact ⟨found, is_found, name_of_find? is_found⟩

/-- The first rows have the names of all rows, each once. -/
theorem map_earliest (rows : List α) :
    (earliest name rows).map name = (rows.map name).eraseDups :=
  map_filterMap_of_found fun _ inside => exists_find? (List.mem_eraseDups.mp inside)

/-- The last rows have the names of all rows, each once. -/
theorem map_latest (rows : List α) :
    (latest name rows).map name = (rows.map name).eraseDups := by
  refine map_filterMap_of_found fun wanted inside => exists_find? ?_
  rw [List.map_reverse, List.mem_reverse]
  exact List.mem_eraseDups.mp inside

theorem earliest_concat (rows : List α) (row : α) :
    earliest name (rows ++ [row]) =
      if name row ∈ rows.map name then earliest name rows else earliest name rows ++ [row] := by
  have before : ∀ wanted ∈ (rows.map name).eraseDups,
      ((rows ++ [row]).find? fun row => name row = wanted) =
        rows.find? fun row => name row = wanted := by
    intro wanted inside
    obtain ⟨held, known, same⟩ := List.mem_map.mp (List.mem_eraseDups.mp inside)
    have present : (rows.find? fun row => name row = wanted).isSome :=
      List.find?_isSome.mpr ⟨held, known, by simpa using same⟩
    rw [List.find?_append, Option.or_of_isSome present]
  rw [earliest, List.map_append, List.map_singleton, eraseDups_concat]
  split
  · exact List.filterMap_congr before
  · rename_i fresh
    have absent : (rows.find? fun other => name other = name row) = none := by
      refine List.find?_eq_none.mpr ?_
      intro held inside same
      exact fresh (List.mem_map.mpr ⟨held, inside, by simpa using same⟩)
    rw [List.filterMap_append, List.filterMap_congr before]
    simp [earliest, List.find?_append, absent]

end Catalog

/-! ## Entries by name -/

namespace Entries

variable {α β : Type}

theorem adjust_of_not_mem (entries : Entries α) {name : String} (change : α → α)
    (absent : name ∉ entries.keys) : entries.adjust name change = entries := by
  induction entries with
  | nil => rfl
  | cons pair rest ih =>
      simp only [keys_cons, List.mem_cons, not_or] at absent
      rw [adjust, if_neg (Ne.symm absent.1), ih absent.2]

theorem adjust_eq_map {entries : Entries α} (distinct : entries.Distinct) (name : String)
    (change : α → α) :
    entries.adjust name change =
      entries.map fun entry => (entry.1, if name = entry.1 then change entry.2 else entry.2) := by
  induction entries with
  | nil => rfl
  | cons pair rest ih =>
      obtain ⟨first, held⟩ := pair
      obtain ⟨alone, apart⟩ := List.nodup_cons.mp distinct
      rw [List.map_cons, ← ih apart]
      by_cases here : name = first
      · subst here
        simp [adjust, adjust_of_not_mem rest change alone]
      · simp [adjust, here, Ne.symm here]

/-- Changes that are made one after the other: to every entry, those under its name. -/
theorem foldl_adjust {entries : Entries α} (distinct : entries.Distinct) (name : β → String)
    (change : β → α → α) (rows : List β) :
    rows.foldl (fun held row => adjust held (name row) (change row)) entries =
      entries.map fun entry => (entry.1,
        (rows.filter fun row => name row = entry.1).foldl (fun held row => change row held)
          entry.2) := by
  induction rows generalizing entries with
  | nil => simp
  | cons row rows ih =>
      rw [List.foldl_cons, ih (distinct.adjust _ _), adjust_eq_map distinct, List.map_map]
      refine List.map_congr_left fun entry _ => ?_
      by_cases here : name row = entry.1
      · simp [here]
      · simp [here]

/-- Entries with distinct names are their names with what is found under them. -/
theorem eq_filterMap_keys {entries : Entries α} (distinct : entries.Distinct) :
    entries = entries.keys.filterMap fun name => (entries.find? name).map (Prod.mk name) := by
  induction entries with
  | nil => rfl
  | cons pair rest ih =>
      obtain ⟨first, held⟩ := pair
      obtain ⟨fresh, apart⟩ := List.nodup_cons.mp distinct
      have later : ∀ name ∈ keys rest,
          (find? ((first, held) :: rest) name).map (Prod.mk name) =
            (find? rest name).map (Prod.mk name) := by
        intro name inside
        have differ : first ≠ name := fun same => fresh (same ▸ inside)
        rw [find?, if_neg differ]
      rw [keys_cons, List.filterMap_cons, List.filterMap_congr later, ← ih apart]
      simp [find?]

theorem eq_of_find? {first second : Entries α} (distinct : first.Distinct)
    (also : second.Distinct) (names : first.keys = second.keys)
    (found : ∀ name ∈ second.keys, first.find? name = second.find? name) : first = second := by
  have same : ∀ name ∈ second.keys, (first.find? name).map (Prod.mk name) =
      (second.find? name).map (Prod.mk name) := by
    intro name inside
    rw [found name inside]
  rw [eq_filterMap_keys distinct, names, List.filterMap_congr same, ← eq_filterMap_keys also]

theorem keys_foldl {name : α → String} {enter : Entries β → α → Entries β}
    (entered : ∀ held row, (enter held row).keys =
      if name row ∈ held.keys then held.keys else held.keys ++ [name row]) (rows : List α) :
    (rows.foldl enter []).keys = (rows.map name).eraseDups := by
  induction rows using List.reverseRecOn with
  | nil => rfl
  | append_singleton rows row ih =>
      rw [List.foldl_concat, entered, ih, List.map_append, List.map_singleton,
        Catalog.eraseDups_concat]
      simp only [List.mem_eraseDups]

variable (name : α → String) (value : α → β)

/-- Rows that are written one after the other leave the last one of every name. -/
theorem find?_foldl_put (rows : List α) (wanted : String) :
    find? (rows.foldl (fun held row => put held (name row) (value row)) []) wanted =
      (rows.reverse.find? fun row => name row = wanted).map value := by
  induction rows using List.reverseRecOn with
  | nil => rfl
  | append_singleton rows row ih =>
      rw [List.foldl_concat, find?_put, ih, List.reverse_concat, List.find?_cons]
      by_cases same : name row = wanted
      · simp [same]
      · simp [same]

theorem foldl_put (rows : List α) :
    rows.foldl (fun held row => put held (name row) (value row)) [] =
      (Catalog.latest name rows).map fun row => (name row, value row) := by
  have distinct : Distinct
      (rows.foldl (fun held row => put held (name row) (value row)) ([] : Entries β)) := by
    have pairs := distinct_ofPairs (rows.map fun row => (name row, value row))
    rwa [ofPairs, List.foldl_map] at pairs
  have names : keys (rows.foldl (fun held row => put held (name row) (value row)) []) =
      (rows.map name).eraseDups :=
    keys_foldl (fun held row => keys_put held (name row) (value row)) rows
  rw [eq_filterMap_keys distinct, names, Catalog.latest, List.map_filterMap]
  refine List.filterMap_congr fun wanted _ => ?_
  rw [find?_foldl_put]
  cases found : rows.reverse.find? fun row => name row = wanted with
  | none => rfl
  | some row => simp [Catalog.name_of_find? found]

end Entries

namespace Catalog

/-! ## Key columns -/

namespace KeyColumn

/-- A key column as an entry: its position under its name. -/
def entry (column : KeyColumn) : String × Nat := (column.name, column.position)

theorem map_entry_record (position : Nat) (name : String) (columns : List KeyColumn) :
    (KeyColumn.record position name columns).map entry =
      Entries.put (columns.map entry) name position := by
  induction columns with
  | nil => rfl
  | cons held rest ih =>
      by_cases same : held.name = name
      · simp [KeyColumn.record, Entries.put, entry, same]
      · simp [KeyColumn.record, Entries.put, entry, same, ih]

theorem entry_injective : Function.Injective entry := by
  intro first second same
  cases first
  cases second
  simpa [entry, and_comm] using same

section Recorded

variable {α : Type} (position : α → Nat) (name : α → String) (rows : List α)

theorem map_entry_foldl_record (held : List KeyColumn) :
    (rows.foldl (fun held row => KeyColumn.record (position row) (name row) held) held).map
        entry =
      rows.foldl (fun held row => Entries.put held (name row) (position row))
        (held.map entry) := by
  induction rows generalizing held with
  | nil => rfl
  | cons row rows ih => rw [List.foldl_cons, ih, map_entry_record, List.foldl_cons]

theorem foldl_record :
    rows.foldl (fun held row => KeyColumn.record (position row) (name row) held) [] =
      (latest name rows).map fun row => ⟨position row, name row⟩ := by
  refine entry_injective.list_map ?_
  rw [map_entry_foldl_record, List.map_nil, Entries.foldl_put, List.map_map]
  rfl

end Recorded

/-- Whether a key column may stand before another. -/
def before (first second : KeyColumn) : Bool := first.position ≤ second.position

@[simp] theorem before_iff {first second : KeyColumn} :
    before first second = true ↔ first.position ≤ second.position :=
  decide_eq_true_iff

/-- A key column put before all that it may stand before. -/
def putBefore (column : KeyColumn) (columns : List KeyColumn) : List KeyColumn :=
  columns.orderedInsert (fun first second => before first second) column

theorem putBefore_of_before {column held : KeyColumn} (rest : List KeyColumn)
    (early : column.position ≤ held.position) :
    putBefore column (held :: rest) = column :: held :: rest :=
  List.orderedInsert_cons_of_le _ rest (before_iff.mpr early)

theorem putBefore_of_after {column held : KeyColumn} (rest : List KeyColumn)
    (late : held.position < column.position) :
    putBefore column (held :: rest) = held :: putBefore column rest :=
  List.orderedInsert_of_not_le _ rest fun early => absurd (before_iff.mp early) (by omega)

theorem place_of_after {column held : KeyColumn} (rest : List KeyColumn)
    (late : held.position ≤ column.position) :
    place column (held :: rest) = held :: place column rest :=
  if_pos late

theorem place_of_before {column held : KeyColumn} (rest : List KeyColumn)
    (early : column.position < held.position) :
    place column (held :: rest) = column :: held :: rest :=
  if_neg (by omega)

/-- It does not matter which of two columns comes first: the one that is placed behind
others, or the one that is put before others. -/
theorem place_putBefore (first last : KeyColumn) (columns : List KeyColumn) :
    place last (putBefore first columns) = putBefore first (place last columns) := by
  induction columns with
  | nil =>
      rcases Nat.lt_or_ge last.position first.position with apart | ordered
      · exact (place_of_before [] apart).trans (putBefore_of_after [] apart).symm
      · exact (place_of_after [] ordered).trans (putBefore_of_before [] ordered).symm
  | cons held rest ih =>
      rcases Nat.lt_or_ge held.position first.position with behind | early
      · rw [putBefore_of_after rest behind]
        rcases Nat.lt_or_ge last.position held.position with front | late
        · rw [place_of_before _ front, place_of_before _ front,
            putBefore_of_after _ (front.trans behind), putBefore_of_after _ behind]
        · rw [place_of_after _ late, place_of_after _ late, putBefore_of_after _ behind, ih]
      · rw [putBefore_of_before rest early]
        rcases Nat.lt_or_ge last.position held.position with front | late
        · rw [place_of_before rest front]
          rcases Nat.lt_or_ge last.position first.position with apart | ordered
          · rw [place_of_before _ apart, putBefore_of_after _ apart,
              putBefore_of_before _ early]
          · rw [place_of_after _ ordered, place_of_before _ front,
              putBefore_of_before _ ordered]
        · rw [place_of_after _ (early.trans late), place_of_after _ late,
            putBefore_of_before _ early]

theorem sorted_cons (first : KeyColumn) (columns : List KeyColumn) :
    sorted (first :: columns) = putBefore first (sorted columns) := by
  have beside : ∀ placed, columns.foldl (fun placed column => place column placed)
      (putBefore first placed) =
        putBefore first (columns.foldl (fun placed column => place column placed) placed) := by
    induction columns with
    | nil => exact fun placed => rfl
    | cons column columns ih =>
        intro placed
        rw [List.foldl_cons, place_putBefore, ih, List.foldl_cons]
  exact beside []

/-- A column goes between those that come before it and those that do not. -/
theorem putBefore_append {column : KeyColumn} {front back : List KeyColumn}
    (behind : ∀ held ∈ front, before column held = false)
    (ahead : ∀ held ∈ back, before column held = true) :
    putBefore column (front ++ back) = front ++ column :: back := by
  induction front with
  | nil =>
      cases back with
      | nil => rfl
      | cons held back =>
          exact putBefore_of_before back (before_iff.mp (ahead held List.mem_cons_self))
  | cons held front ih =>
      have late : held.position < column.position :=
        Nat.lt_of_not_le (of_decide_eq_false (behind held List.mem_cons_self))
      rw [List.cons_append, putBefore_of_after _ late, List.cons_append,
        ih fun other inside => behind other (List.mem_cons_of_mem _ inside)]

/-- Key columns are sorted by position, and the sorting is stable. -/
theorem sorted_eq_mergeSort (columns : List KeyColumn) :
    sorted columns = columns.mergeSort before := by
  have transitive : ∀ a b c : KeyColumn, before a b → before b c → before a c := by
    intro a b c
    simp only [before_iff]
    exact Nat.le_trans
  have total : ∀ a b : KeyColumn, before a b || before b a := by
    intro a b
    simpa using Nat.le_total a.position b.position
  induction columns with
  | nil => simp [sorted]
  | cons first columns ih =>
      obtain ⟨front, back, all, rest, behind⟩ :=
        List.mergeSort_cons transitive total first columns
      have ordered := List.pairwise_mergeSort transitive total (first :: columns)
      rw [all, List.pairwise_append, List.pairwise_cons] at ordered
      rw [sorted_cons, ih, rest, all]
      refine putBefore_append ?_ ordered.2.1.1
      intro held inside
      simpa using behind held inside

end KeyColumn

/-! ## The catalog of rows -/

section Reported

variable (tables : List TableRow) (columns : List ColumnRow) (keys : List KeyRow)

def columnsOf (table : String) : Entries Column :=
  (latest ColumnRow.column (columns.filter fun row => row.table = table)).map fun row =>
    (row.column, ⟨row.column, row.type, row.storageType⟩)

/-- The primary key that rows report for a table: by position, equal positions in the
order of first occurrence. -/
def keyOf (table : String) : List String :=
  ((latest KeyRow.column (keys.filter fun row => row.table = table)).mergeSort
    fun first second => first.position ≤ second.position).map KeyRow.column

def reportedTable (row : TableRow) : Table where
  name := row.table
  kind := .ofText row.kind
  columns := columnsOf columns row.table
  primaryKey := keyOf keys row.table

def reported : Catalog where
  tables := (earliest TableRow.table tables).map fun row =>
    (row.table, reportedTable columns keys row)
  distinct := by
    have same : Entries.keys ((earliest TableRow.table tables).map fun row =>
        (row.table, reportedTable columns keys row)) = (tables.map TableRow.table).eraseDups := by
      rw [← map_earliest, Entries.keys, List.map_map]
      rfl
    rw [Entries.Distinct, same]
    exact nodup_eraseDups _
  named := by
    intro entry inside
    obtain ⟨row, _, rfl⟩ := List.mem_map.mp inside
    rfl

end Reported

theorem eq_of_tables {first second : Catalog} (same : first.tables = second.tables) :
    first = second := by
  cases first
  cases second
  cases same
  rfl

/-! ## The registry of rows -/

namespace Registry

def enterTable (registry : Registry) (row : TableRow) : Registry :=
  registry.registerTable row.table (.ofText row.kind)

def enterColumn (registry : Registry) (row : ColumnRow) : Registry :=
  registry.withColumn row.table ⟨row.column, row.type, row.storageType⟩

def enterKey (registry : Registry) (row : KeyRow) : Registry :=
  registry.withKeyColumn row.table row.column row.position

/-- What a table row alone makes known. -/
def fresh (row : TableRow) : Registration := ⟨.ofText row.kind, []⟩

variable (registry : Registry) {owner : String}

theorem tables_registerTable (name : String) (kind : TableKind) :
    (registry.registerTable name kind).tables =
      if name ∈ registry.tables.keys then registry.tables
      else registry.tables ++ [(name, ⟨kind, []⟩)] := by
  unfold registerTable
  split
  · rfl
  · rename_i free
    exact Entries.put_of_not_mem _ _ free

theorem keys_registerTable (name : String) (kind : TableKind) :
    (registry.registerTable name kind).tables.keys =
      if name ∈ registry.tables.keys then registry.tables.keys
      else registry.tables.keys ++ [name] := by
  rw [tables_registerTable, apply_ite Entries.keys, Entries.keys_append, Entries.keys_cons,
    Entries.keys_nil]

@[simp] theorem keyColumns_registerTable (name : String) (kind : TableKind) :
    (registry.registerTable name kind).keyColumns = registry.keyColumns := by
  unfold registerTable
  split <;> rfl

@[simp] theorem keys_withColumn (table : String) (column : Column) :
    (registry.withColumn table column).tables.keys = registry.tables.keys :=
  Entries.keys_adjust _ _ _

@[simp] theorem keyColumns_withColumn (table : String) (column : Column) :
    (registry.withColumn table column).keyColumns = registry.keyColumns := rfl

@[simp] theorem tables_withKeyColumn (table name : String) (position : Nat) :
    (registry.withKeyColumn table name position).tables = registry.tables := by
  unfold withKeyColumn
  split <;> rfl

theorem keyColumns_withKeyColumn (table name : String) (position : Nat) :
    (registry.withKeyColumn table name position).keyColumns =
      if table ∈ registry.tables.keys then
        registry.keyColumns.put table
          (KeyColumn.record position name (registry.keyColumnsOf table))
      else registry.keyColumns := by
  unfold withKeyColumn
  split <;> rfl

/-- Nothing is recorded for a table that is not registered. -/
theorem keyColumnsOf_of_not_mem (unknown : owner ∉ registry.tables.keys) :
    registry.keyColumnsOf owner = [] := by
  have none := (Entries.find?_eq_none_iff registry.keyColumns owner).mpr
    (mt (registry.owned owner) unknown)
  rw [keyColumnsOf, none, Option.getD_none]

/-- A key column is recorded for its own table, and for no other. -/
theorem keyColumnsOf_withKeyColumn (known : owner ∈ registry.tables.keys)
    (table name : String) (position : Nat) :
    (registry.withKeyColumn table name position).keyColumnsOf owner =
      if table = owner then KeyColumn.record position name (registry.keyColumnsOf owner)
      else registry.keyColumnsOf owner := by
  rw [keyColumnsOf, keyColumns_withKeyColumn]
  by_cases here : table = owner
  · subst here
    rw [if_pos known, if_pos rfl, Entries.find?_put_self, Option.getD_some]
  · rw [if_neg here]
    split
    · rw [Entries.find?_put_ne _ _ here, keyColumnsOf]
    · rfl

theorem tables_foldl_enterTable (rows : List TableRow) :
    (rows.foldl enterTable .empty).tables =
      (earliest TableRow.table rows).map fun row => (row.table, fresh row) := by
  induction rows using List.reverseRecOn with
  | nil => rfl
  | append_singleton rows row ih =>
      have names : Entries.keys ((earliest TableRow.table rows).map fun row =>
          (row.table, fresh row)) = (rows.map TableRow.table).eraseDups := by
        rw [← map_earliest, Entries.keys, List.map_map]
        rfl
      rw [List.foldl_concat, enterTable, tables_registerTable, ih, names, earliest_concat]
      simp only [List.mem_eraseDups]
      split
      · rfl
      · rw [List.map_append]
        rfl

theorem keyColumns_foldl {α : Type} {enter : Registry → α → Registry}
    (kept : ∀ registry row, (enter registry row).keyColumns = registry.keyColumns)
    (rows : List α) : (rows.foldl enter registry).keyColumns = registry.keyColumns := by
  induction rows generalizing registry with
  | nil => rfl
  | cons row rows ih => exact (ih _).trans (kept registry row)

theorem keyColumns_foldl_enterTable (rows : List TableRow) :
    (rows.foldl enterTable registry).keyColumns = registry.keyColumns :=
  registry.keyColumns_foldl (fun held _ => held.keyColumns_registerTable _ _) rows

theorem keyColumns_foldl_enterColumn (rows : List ColumnRow) :
    (rows.foldl enterColumn registry).keyColumns = registry.keyColumns := by
  have kept (held : Registry) (row : ColumnRow) :
      (held.enterColumn row).keyColumns = held.keyColumns :=
    held.keyColumns_withColumn row.table _
  exact registry.keyColumns_foldl kept rows

theorem tables_foldl_enterColumn (rows : List ColumnRow) :
    (rows.foldl enterColumn registry).tables =
      registry.tables.map fun entry => (entry.1,
        (rows.filter fun row => row.table = entry.1).foldl (fun known row =>
          { known with
            columns := known.columns.put row.column ⟨row.column, row.type, row.storageType⟩ })
          entry.2) := by
  rw [← Entries.foldl_adjust registry.distinct]
  induction rows generalizing registry with
  | nil => rfl
  | cons row rows ih => exact ih (registry.enterColumn row)

theorem tables_foldl_enterKey (rows : List KeyRow) :
    (rows.foldl enterKey registry).tables = registry.tables := by
  induction rows generalizing registry with
  | nil => rfl
  | cons row rows ih => exact (ih _).trans (tables_withKeyColumn _ _ _ _)

theorem keyColumnsOf_foldl_enterKey (known : owner ∈ registry.tables.keys)
    (rows : List KeyRow) :
    (rows.foldl enterKey registry).keyColumnsOf owner =
      (rows.filter fun row => row.table = owner).foldl
        (fun held row => KeyColumn.record row.position row.column held)
        (registry.keyColumnsOf owner) := by
  induction rows generalizing registry with
  | nil => rfl
  | cons row rows ih =>
      have still : owner ∈ (registry.enterKey row).tables.keys := by
        rw [enterKey, tables_withKeyColumn]
        exact known
      rw [List.foldl_cons, ih _ still, enterKey, keyColumnsOf_withKeyColumn registry known]
      by_cases here : row.table = owner
      · rw [if_pos here, List.filter_cons_of_pos (by simpa using here), List.foldl_cons]
      · rw [if_neg here, List.filter_cons_of_neg (by simpa using here)]

theorem foldl_columns (known : Registration) (rows : List ColumnRow) :
    rows.foldl (fun known row =>
        { known with
          columns := known.columns.put row.column ⟨row.column, row.type, row.storageType⟩ })
      known =
    { known with
      columns := rows.foldl (fun held row =>
        Entries.put held row.column ⟨row.column, row.type, row.storageType⟩) known.columns } := by
  induction rows generalizing known with
  | nil => rfl
  | cons row rows ih => exact ih _

/-- The tables of the catalog are joined from both maps. -/
theorem tables_toCatalog :
    registry.toCatalog.tables = registry.tables.map fun entry =>
      (entry.1, tableOf entry.1 entry.2 (registry.keyColumnsOf entry.1)) :=
  joined_eq_map registry.distinct registry.keyColumns

/-- What is known of a table after all passes amounts to the table that they report. -/
theorem tableOf_fresh (row : TableRow) (columns : List ColumnRow) (keys : List KeyRow) :
    tableOf row.table
        ((columns.filter fun column => column.table = row.table).foldl (fun known column =>
            { known with
              columns := known.columns.put column.column
                ⟨column.column, column.type, column.storageType⟩ })
          (fresh row))
        ((keys.filter fun key => key.table = row.table).foldl
          (fun held key => KeyColumn.record key.position key.column held) []) =
      reportedTable columns keys row := by
  rw [foldl_columns]
  have ordered : (KeyColumn.sorted ((keys.filter fun key => key.table = row.table).foldl
      (fun held key => KeyColumn.record key.position key.column held) [])).map KeyColumn.name =
        keyOf keys row.table := by
    rw [KeyColumn.foldl_record, KeyColumn.sorted_eq_mergeSort, keyOf, ← List.map_mergeSort,
      List.map_map]
    · rfl
    · exact fun _ _ _ _ => rfl
  have held : (columns.filter fun column => column.table = row.table).foldl (fun held column =>
      Entries.put held column.column ⟨column.column, column.type, column.storageType⟩) [] =
        columnsOf columns row.table :=
    Entries.foldl_put ColumnRow.column _ _
  simp only [tableOf, reportedTable, fresh, ordered, held]

/-- The registry that took the rows of all three passes becomes the catalog that they
report. -/
theorem toCatalog_of_rows (tables : List TableRow) (columns : List ColumnRow)
    (keys : List KeyRow) :
    (keys.foldl enterKey (columns.foldl enterColumn (tables.foldl enterTable .empty))).toCatalog =
      reported tables columns keys := by
  have before (name : String) : keyColumnsOf
      (columns.foldl enterColumn (tables.foldl enterTable .empty)) name = [] := by
    rw [keyColumnsOf, keyColumns_foldl_enterColumn, keyColumns_foldl_enterTable]
    rfl
  refine eq_of_tables ?_
  rw [tables_toCatalog, tables_foldl_enterKey]
  have each : ∀ entry ∈ (columns.foldl enterColumn (tables.foldl enterTable .empty)).tables,
      (entry.1, tableOf entry.1 entry.2 (keyColumnsOf (keys.foldl enterKey
        (columns.foldl enterColumn (tables.foldl enterTable .empty))) entry.1)) =
      (entry.1, tableOf entry.1 entry.2 ((keys.filter fun key => key.table = entry.1).foldl
        (fun held key => KeyColumn.record key.position key.column held) [])) := by
    intro entry inside
    rw [keyColumnsOf_foldl_enterKey _ (List.mem_map_of_mem inside), before]
  rw [List.map_congr_left each, tables_foldl_enterColumn, tables_foldl_enterTable, List.map_map,
    List.map_map]
  refine List.map_congr_left fun row _ => ?_
  exact congrArg (Prod.mk row.table) (tableOf_fresh row columns keys)

end Registry

end Catalog

end GraphBatch
