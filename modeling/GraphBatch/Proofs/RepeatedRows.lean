import GraphBatch.Proofs.Passes

/-!
# Rows that are taken again

A pass over rows that fails has entered the rows before the failing one, one by one, and
has done nothing else. Whether it fails or not, the same rows can be taken again: the
outcome is the same, and nothing changes any more. For a row of a table is ignored where
the table is known, and of the rows of a column or a key column the last decides, in the
place that the first one took.
-/

namespace GraphBatch

/-! ## Entries that are written again -/

namespace Entries

variable {α β : Type} {entries : Entries α} {name other : String} {value : α}

def putEach (entries : Entries α) (pairs : List (String × α)) : Entries α :=
  pairs.foldl (fun held pair => held.put pair.1 pair.2) entries

@[simp] theorem putEach_nil : entries.putEach [] = entries := rfl

@[simp] theorem putEach_cons (pair : String × α) (pairs : List (String × α)) :
    entries.putEach (pair :: pairs) = (entries.put pair.1 pair.2).putEach pairs := rfl

theorem foldl_put_eq_putEach (name : β → String) (value : β → α) (rows : List β) :
    rows.foldl (fun held row => put held (name row) (value row)) entries =
      entries.putEach (rows.map fun row => (name row, value row)) := by
  rw [putEach, List.foldl_map]

/-- Writing what is there already changes nothing. -/
theorem put_of_find? (found : entries.find? name = some value) :
    entries.put name value = entries := by
  induction entries with
  | nil => cases found
  | cons pair rest ih =>
      obtain ⟨first, held⟩ := pair
      by_cases same : first = name
      · rw [find?, if_pos same] at found
        cases found
        rw [put, if_pos same]
      · rw [find?, if_neg same] at found
        rw [put, if_neg same, ih found]

/-- A name that is there keeps its place, so it can be written before or after another. -/
theorem put_put_comm (value last : α) (present : name ∈ entries.keys) (differ : name ≠ other) :
    (entries.put name value).put other last = (entries.put other last).put name value := by
  induction entries with
  | nil => cases present
  | cons pair rest ih =>
      obtain ⟨first, held⟩ := pair
      by_cases here : first = name
      · simp [put, here, differ]
      · have later : name ∈ keys rest :=
          (List.mem_cons.mp present).resolve_left (Ne.symm here)
        by_cases there : first = other
        · simp [put, there, Ne.symm differ]
        · simp [put, here, there, ih later]

theorem mem_keys_putEach (present : name ∈ entries.keys) (pairs : Entries α) :
    name ∈ (entries.putEach pairs).keys := by
  induction pairs generalizing entries with
  | nil => exact present
  | cons pair rest ih => exact ih ((mem_keys_put entries _ _).mpr (Or.inl present))

theorem find?_putEach_of_not_mem {pairs : Entries α} (apart : name ∉ pairs.keys) :
    (entries.putEach pairs).find? name = entries.find? name := by
  induction pairs generalizing entries with
  | nil => rfl
  | cons pair rest ih =>
      rw [keys_cons, List.mem_cons, not_or] at apart
      rw [putEach_cons, ih apart.2, find?_put_ne _ _ (Ne.symm apart.1)]

/-- What is written under a name that is written again later does not count, once the name
has its place. -/
theorem putEach_put_of_mem {pairs : Entries α} (later : name ∈ pairs.keys)
    (present : name ∈ entries.keys) (value : α) :
    (entries.put name value).putEach pairs = entries.putEach pairs := by
  induction pairs generalizing entries with
  | nil => cases later
  | cons pair rest ih =>
      rw [putEach_cons, putEach_cons]
      by_cases same : name = pair.1
      · rw [same, put_put]
      · have after : name ∈ keys rest := (List.mem_cons.mp later).resolve_left same
        rw [put_put_comm value pair.2 present same]
        exact ih after ((mem_keys_put entries _ _).mpr (Or.inl present))

/-- Pairs that were written can be written again. -/
theorem putEach_again (entries pairs : Entries α) :
    (entries.putEach pairs).putEach pairs = entries.putEach pairs := by
  induction pairs generalizing entries with
  | nil => rfl
  | cons pair rest ih =>
      rw [putEach_cons, putEach_cons]
      by_cases later : pair.1 ∈ keys rest
      · have present : pair.1 ∈ ((entries.put pair.1 pair.2).putEach rest).keys :=
          mem_keys_putEach ((mem_keys_put entries _ _).mpr (Or.inr rfl)) rest
        rw [putEach_put_of_mem later present, ih]
      · have kept : ((entries.put pair.1 pair.2).putEach rest).find? pair.1 = some pair.2 := by
          rw [find?_putEach_of_not_mem later, find?_put_self]
        rw [put_of_find? kept, ih]

end Entries

namespace Catalog

theorem KeyColumn.foldl_record_again (rows : List KeyRow) (held : List KeyColumn) :
    rows.foldl (fun held row => KeyColumn.record row.position row.column held)
        (rows.foldl (fun held row => KeyColumn.record row.position row.column held) held) =
      rows.foldl (fun held row => KeyColumn.record row.position row.column held) held := by
  refine KeyColumn.entry_injective.list_map ?_
  have entries := KeyColumn.map_entry_foldl_record KeyRow.position KeyRow.column rows
  rw [entries, entries, Entries.foldl_put_eq_putEach, Entries.foldl_put_eq_putEach,
    Entries.putEach_again]

/-! ## Rows that are entered again -/

namespace Registry

variable {registry : Registry}

theorem eq_of_maps {first second : Registry} (tables : first.tables = second.tables)
    (keyColumns : first.keyColumns = second.keyColumns) : first = second := by
  cases first
  cases second
  cases tables
  cases keyColumns
  rfl

theorem enterTable_of_mem {row : TableRow} (known : row.table ∈ registry.tables.keys) :
    registry.enterTable row = registry :=
  if_pos known

theorem mem_enterTable (registry : Registry) (row : TableRow) {name : String} :
    name ∈ (registry.enterTable row).tables.keys ↔
      name ∈ registry.tables.keys ∨ name = row.table := by
  rw [enterTable, keys_registerTable]
  split
  · rename_i known
    exact (or_iff_left_of_imp fun same => same ▸ known).symm
  · rw [List.mem_append, List.mem_singleton]

theorem mem_foldl_enterTable {name : String} (known : name ∈ registry.tables.keys)
    (rows : List TableRow) : name ∈ (rows.foldl enterTable registry).tables.keys := by
  induction rows generalizing registry with
  | nil => exact known
  | cons row rows ih => exact ih ((mem_enterTable registry row).mpr (Or.inl known))

theorem foldl_enterTable_again (rows : List TableRow) (registry : Registry) :
    rows.foldl enterTable (rows.foldl enterTable registry) = rows.foldl enterTable registry := by
  induction rows generalizing registry with
  | nil => rfl
  | cons row rows ih =>
      have known := mem_foldl_enterTable ((mem_enterTable registry row).mpr (Or.inr rfl)) rows
      rw [List.foldl_cons, List.foldl_cons, enterTable_of_mem known, ih]

theorem foldl_enterColumn_again (rows : List ColumnRow) (registry : Registry) :
    rows.foldl enterColumn (rows.foldl enterColumn registry) =
      rows.foldl enterColumn registry := by
  refine eq_of_maps ?_ (keyColumns_foldl_enterColumn _ rows)
  rw [tables_foldl_enterColumn (rows.foldl enterColumn registry),
    tables_foldl_enterColumn registry, List.map_map]
  refine List.map_congr_left fun entry _ => ?_
  simp only [Function.comp_apply, foldl_columns, Entries.foldl_put_eq_putEach,
    Entries.putEach_again]

theorem keys_foldl_enterColumn (rows : List ColumnRow) (registry : Registry) :
    (rows.foldl enterColumn registry).tables.keys = registry.tables.keys := by
  rw [tables_foldl_enterColumn, Entries.keys, List.map_map]
  rfl

theorem keys_enterKey (registry : Registry) {row : KeyRow}
    (known : row.table ∈ registry.tables.keys) :
    (registry.enterKey row).keyColumns.keys =
      if row.table ∈ registry.keyColumns.keys then registry.keyColumns.keys
      else registry.keyColumns.keys ++ [row.table] := by
  rw [enterKey, keyColumns_withKeyColumn, if_pos known, Entries.keys_put]

theorem enterKey_of_not_mem {row : KeyRow} (unknown : row.table ∉ registry.tables.keys) :
    registry.enterKey row = registry :=
  dif_neg unknown

theorem mem_keys_enterKey {name : String} (held : name ∈ registry.keyColumns.keys)
    (row : KeyRow) : name ∈ (registry.enterKey row).keyColumns.keys := by
  by_cases known : row.table ∈ registry.tables.keys
  · rw [keys_enterKey registry known]
    split
    · exact held
    · exact List.mem_append_left _ held
  · rwa [enterKey_of_not_mem known]

theorem mem_keys_foldl_enterKey {name : String} (held : name ∈ registry.keyColumns.keys)
    (rows : List KeyRow) : name ∈ (rows.foldl enterKey registry).keyColumns.keys := by
  induction rows generalizing registry with
  | nil => exact held
  | cons row rows ih => exact ih (mem_keys_enterKey held row)

theorem mem_keys_of_entered {rows : List KeyRow} {row : KeyRow} (inside : row ∈ rows)
    (known : row.table ∈ registry.tables.keys) :
    row.table ∈ (rows.foldl enterKey registry).keyColumns.keys := by
  induction rows generalizing registry with
  | nil => cases inside
  | cons first rows ih =>
      rw [List.foldl_cons]
      rcases List.mem_cons.mp inside with rfl | later
      · refine mem_keys_foldl_enterKey ?_ rows
        rw [keys_enterKey registry known]
        split
        · assumption
        · exact List.mem_append_right _ List.mem_cons_self
      · refine ih later ?_
        rwa [enterKey, tables_withKeyColumn]

theorem keys_foldl_enterKey {rows : List KeyRow} (placed : ∀ row ∈ rows,
      row.table ∈ registry.tables.keys → row.table ∈ registry.keyColumns.keys) :
    (rows.foldl enterKey registry).keyColumns.keys = registry.keyColumns.keys := by
  induction rows generalizing registry with
  | nil => rfl
  | cons row rows ih =>
      obtain ⟨here, later⟩ := List.forall_mem_cons.mp placed
      rw [List.foldl_cons]
      by_cases known : row.table ∈ registry.tables.keys
      · have kept : (registry.enterKey row).keyColumns.keys = registry.keyColumns.keys := by
          rw [keys_enterKey registry known, if_pos (here known)]
        rw [ih, kept]
        intro other inside
        rw [kept, enterKey, tables_withKeyColumn]
        exact later other inside
      · rw [enterKey_of_not_mem known]
        exact ih later

theorem find?_keyColumns (registry : Registry) (name : String) :
    registry.keyColumns.find? name =
      if name ∈ registry.keyColumns.keys then some (registry.keyColumnsOf name) else none := by
  rw [keyColumnsOf]
  split
  · rename_i held
    obtain ⟨columns, found⟩ := Option.ne_none_iff_exists'.mp
      (mt (Entries.find?_eq_none_iff registry.keyColumns name).mp (not_not.mpr held))
    rw [found, Option.getD_some]
  · rename_i free
    exact (Entries.find?_eq_none_iff registry.keyColumns name).mpr free

theorem foldl_enterKey_again (rows : List KeyRow) (registry : Registry) :
    rows.foldl enterKey (rows.foldl enterKey registry) = rows.foldl enterKey registry := by
  have tables := tables_foldl_enterKey registry rows
  have keys : (rows.foldl enterKey (rows.foldl enterKey registry)).keyColumns.keys =
      (rows.foldl enterKey registry).keyColumns.keys := by
    refine keys_foldl_enterKey fun row inside known => mem_keys_of_entered inside ?_
    rwa [tables] at known
  refine eq_of_maps (tables_foldl_enterKey _ rows) (Entries.eq_of_find? (Registry.apart _)
    (Registry.apart _) keys fun name inside => ?_)
  have known := (rows.foldl enterKey registry).owned name inside
  rw [find?_keyColumns, find?_keyColumns, keys, keyColumnsOf_foldl_enterKey _ known]
  rw [tables] at known
  rw [keyColumnsOf_foldl_enterKey registry known, KeyColumn.foldl_record_again]

end Registry

/-! ## Passes -/

namespace Pass

variable {α : Type} {pass : Pass α} {registry : Registry}

theorem reads_or_refused (row : Row) :
    (∃ made, pass.Reads row made) ∨ ∃ error, pass.Refuses row error := by
  cases decoded : pass.type.decode (Json.obj row).toSource with
  | error fault => exact Or.inr ⟨_, .undecoded decoded⟩
  | ok made =>
      by_cases known : pass.admitted (pass.table made)
      · exact Or.inl ⟨made, decoded, known⟩
      · exact Or.inr ⟨_, .unknownTable decoded known⟩

theorem exists_reads {rows : List Row} (fine : ∀ row ∈ rows, ∀ error, ¬ pass.Refuses row error) :
    ∃ made, List.Forall₂ pass.Reads rows made := by
  induction rows with
  | nil => exact ⟨[], .nil⟩
  | cons row rows ih =>
      obtain ⟨here, later⟩ := List.forall_mem_cons.mp fine
      obtain ⟨rest, reads⟩ := ih later
      rcases pass.reads_or_refused row with ⟨made, read⟩ | ⟨error, refused⟩
      · exact ⟨made :: rest, .cons read reads⟩
      · exact absurd refused (here error)

theorem fine_of_reads {rows : List Row} {made : List α}
    (reads : List.Forall₂ pass.Reads rows made) :
    ∀ row ∈ rows, ∀ error, ¬ pass.Refuses row error := by
  induction reads with
  | nil => exact List.forall_mem_nil _
  | cons read _ ih => exact List.forall_mem_cons.mpr ⟨read.not_refused, ih⟩

/-- All rows are read, or all before one that is refused. -/
theorem reads_up_to_refusal (rows : List Row) :
    (∃ made, List.Forall₂ pass.Reads rows made) ∨
      ∃ before made row after error, rows = before ++ row :: after ∧
        List.Forall₂ pass.Reads before made ∧ pass.Refuses row error := by
  induction rows with
  | nil => exact Or.inl ⟨[], .nil⟩
  | cons row rows ih =>
      rcases pass.reads_or_refused row with ⟨made, read⟩ | ⟨error, refused⟩
      · rcases ih with ⟨rest, reads⟩ | ⟨before, rest, last, after, error, rfl, reads, refused⟩
        · exact Or.inl ⟨made :: rest, .cons read reads⟩
        · exact Or.inr ⟨row :: before, made :: rest, last, after, error, rfl,
            .cons read reads, refused⟩
      · exact Or.inr ⟨[], [], row, rows, error, rfl, .nil, refused⟩

/-- Rows that are read are entered, and then the others are taken. -/
theorem takeRows_of_reads (fit : pass.fits registry) {rows : List Row} {made : List α}
    (reads : List.Forall₂ pass.Reads rows made) (rest : List Row) :
    Registry.takeRows pass.take registry (rows ++ rest) =
      Registry.takeRows pass.take (made.foldl pass.enter registry) rest := by
  induction reads generalizing registry with
  | nil => rfl
  | @cons row made rows others read reads ih =>
      rw [List.cons_append, Registry.takeRows]
      rcases pass.take_cases fit row with ⟨error, refused, _⟩ | ⟨also, too, taken, fits⟩
      · exact absurd refused (read.not_refused error)
      · rw [taken, read.unique too]
        exact ih fits

theorem takeRows_of_refused (fit : pass.fits registry) {row : Row} {error : Error}
    (refused : pass.Refuses row error) (after : List Row) :
    Registry.takeRows pass.take registry (row :: after) = (registry, some error) := by
  rw [Registry.takeRows]
  rcases pass.take_cases fit row with ⟨fault, also, taken⟩ | ⟨made, read, _, _⟩
  · rw [taken, refused.unique also]
  · exact absurd refused (read.not_refused error)

end Pass

/-- Takes rows one by one, whether they fail or not. -/
def Question.takeEach (question : Question) (registry : Registry) (rows : List Row) : Registry :=
  rows.foldl (fun held row => (question.take held [row]).1) registry

def Question.Refuses (question : Question) (known : List String) : Row → Error → Prop :=
  match question with
  | .tables => Row.Refused TableRow.record TableRow.table fun _ => True
  | .columns => Row.Refused ColumnRow.record ColumnRow.table (· ∈ known)
  | .keys => Row.Refused KeyRow.record KeyRow.table (· ∈ known)

/-- The pass that asks a question takes its rows as the question does. -/
structure Pass.Asks {α : Type} (pass : Pass α) (question : Question) (known : List String) :
    Prop where
  take : question.take = Registry.takeRows pass.take
  refuses : question.Refuses known = pass.Refuses
  /-- Rows that were entered can be entered again. -/
  again : ∀ (rows : List α) (registry : Registry),
    rows.foldl pass.enter (rows.foldl pass.enter registry) = rows.foldl pass.enter registry

theorem tablePass_asks (known : List String) : tablePass.Asks .tables known :=
  ⟨take_tables, rfl, Registry.foldl_enterTable_again⟩

theorem columnPass_asks (known : List String) : (columnPass known).Asks .columns known :=
  ⟨take_columns known, rfl, Registry.foldl_enterColumn_again⟩

theorem keyPass_asks (known : List String) : (keyPass known).Asks .keys known :=
  ⟨take_keys known, rfl, Registry.foldl_enterKey_again⟩

namespace Pass.Asks

variable {α : Type} {pass : Pass α} {question : Question} {known : List String}
  {registry left : Registry} {rows : List Row} {error : Error}

theorem take_of_reads (asks : pass.Asks question known) (fit : pass.fits registry)
    {made : List α} (reads : List.Forall₂ pass.Reads rows made) :
    question.take registry rows = (made.foldl pass.enter registry, none) := by
  have all := takeRows_of_reads fit reads []
  rw [List.append_nil] at all
  rw [asks.take, all]
  rfl

theorem take_of_refused (asks : pass.Asks question known) (fit : pass.fits registry)
    {made : List α} (reads : List.Forall₂ pass.Reads rows made) {row : Row}
    (refused : pass.Refuses row error) (after : List Row) :
    question.take registry (rows ++ row :: after) =
      (made.foldl pass.enter registry, some error) := by
  rw [asks.take, takeRows_of_reads fit reads,
    takeRows_of_refused (pass.fits_foldl fit reads) refused]

/-- Rows that are read are entered one by one. -/
theorem takeEach_of_reads (asks : pass.Asks question known) (fit : pass.fits registry)
    {made : List α} (reads : List.Forall₂ pass.Reads rows made) :
    question.takeEach registry rows = made.foldl pass.enter registry := by
  induction reads generalizing registry with
  | nil => rfl
  | @cons row made rows others read reads ih =>
      have first := asks.take_of_reads fit (.cons read .nil)
      rw [Question.takeEach, List.foldl_cons, first]
      exact ih (pass.fits_foldl fit (.cons read .nil))

/-- A pass that fails has taken the rows before the first that is refused one by one. -/
theorem take_eq_error_iff (asks : pass.Asks question known) (fit : pass.fits registry) :
    question.take registry rows = (left, some error) ↔
      ∃ before row after, rows = before ++ row :: after ∧
        (∀ earlier ∈ before, ∀ other, ¬ question.Refuses known earlier other) ∧
        question.Refuses known row error ∧ left = question.takeEach registry before := by
  rw [asks.refuses]
  constructor
  · intro failed
    rcases pass.reads_up_to_refusal rows with ⟨made, reads⟩ |
      ⟨before, made, row, after, fault, rfl, reads, refused⟩
    · rw [asks.take_of_reads fit reads] at failed
      cases failed
    · rw [asks.take_of_refused fit reads refused] at failed
      cases failed
      exact ⟨before, row, after, rfl, fine_of_reads reads, refused,
        (asks.takeEach_of_reads fit reads).symm⟩
  · rintro ⟨before, row, after, rfl, fine, refused, rfl⟩
    obtain ⟨made, reads⟩ := exists_reads fine
    rw [asks.take_of_refused fit reads refused, asks.takeEach_of_reads fit reads]

theorem take_eq_ok_iff (asks : pass.Asks question known) (fit : pass.fits registry) :
    question.take registry rows = (left, none) ↔
      (∀ row ∈ rows, ∀ other, ¬ question.Refuses known row other) ∧
        left = question.takeEach registry rows := by
  rw [asks.refuses]
  constructor
  · intro taken
    rcases pass.reads_up_to_refusal rows with ⟨made, reads⟩ |
      ⟨before, made, row, after, fault, rfl, reads, refused⟩
    · rw [asks.take_of_reads fit reads] at taken
      cases taken
      exact ⟨fine_of_reads reads, (asks.takeEach_of_reads fit reads).symm⟩
    · rw [asks.take_of_refused fit reads refused] at taken
      cases taken
  · rintro ⟨fine, rfl⟩
    obtain ⟨made, reads⟩ := exists_reads fine
    rw [asks.take_of_reads fit reads, asks.takeEach_of_reads fit reads]

/-- A pass over rows that it has been over changes nothing, and ends as it did. -/
theorem take_again (asks : pass.Asks question known) (fit : pass.fits registry)
    (rows : List Row) :
    question.take (question.take registry rows).1 rows = question.take registry rows := by
  rcases pass.reads_up_to_refusal rows with ⟨made, reads⟩ |
    ⟨before, made, row, after, error, rfl, reads, refused⟩
  · rw [asks.take_of_reads fit reads, asks.take_of_reads (pass.fits_foldl fit reads) reads,
      asks.again]
  · rw [asks.take_of_refused fit reads refused,
      asks.take_of_refused (pass.fits_foldl fit reads) reads refused, asks.again]

theorem exists_entered (asks : pass.Asks question known) (fit : pass.fits registry)
    (rows : List Row) :
    ∃ made : List α, (question.take registry rows).1 = made.foldl pass.enter registry := by
  rcases pass.reads_up_to_refusal rows with ⟨made, reads⟩ |
    ⟨before, made, row, after, error, rfl, reads, refused⟩
  · exact ⟨made, by rw [asks.take_of_reads fit reads]⟩
  · exact ⟨made, by rw [asks.take_of_refused fit reads refused]⟩

end Pass.Asks

/-- Rows of columns and keys make no table. -/
theorem keys_take {question : Question} (later : question ≠ .tables) (registry : Registry)
    (rows : List Row) :
    (question.take registry rows).1.tables.keys = registry.tables.keys := by
  have knows : registry.Knows registry.tables.keys := fun _ => Iff.rfl
  cases question with
  | tables => exact absurd rfl later
  | columns =>
      obtain ⟨made, entered⟩ := (columnPass_asks registry.tables.keys).exists_entered knows rows
      rw [entered]
      exact Registry.keys_foldl_enterColumn made registry
  | keys =>
      obtain ⟨made, entered⟩ := (keyPass_asks registry.tables.keys).exists_entered knows rows
      rw [entered]
      exact congrArg Entries.keys (Registry.tables_foldl_enterKey registry made)

/-- A pass over rows, from any registry: it fails with a row exactly if that is the first
one that cannot be decoded or names a table that is not registered, and then it has taken
the rows before that one by one, and nothing else; it does not fail exactly if there is no
such row, and then it has taken all rows one by one. Rows of columns and keys make no
table. Taking the same rows again ends as it did and changes nothing: the same tables, with
the same columns and key columns, in the same order. -/
theorem rows_of_pass (question : Question) (registry : Registry) (rows : List Row) :
    (∀ left error, question.take registry rows = (left, some error) ↔
      ∃ before row after, rows = before ++ row :: after ∧
        (∀ earlier ∈ before, ∀ other,
          ¬ question.Refuses registry.tables.keys earlier other) ∧
        question.Refuses registry.tables.keys row error ∧
        left = question.takeEach registry before) ∧
    (∀ left, question.take registry rows = (left, none) ↔
      (∀ row ∈ rows, ∀ other, ¬ question.Refuses registry.tables.keys row other) ∧
        left = question.takeEach registry rows) ∧
    (question ≠ .tables →
      (question.take registry rows).1.tables.keys = registry.tables.keys) ∧
    question.take (question.take registry rows).1 rows = question.take registry rows := by
  have knows : registry.Knows registry.tables.keys := fun _ => Iff.rfl
  refine ⟨?_, ?_, fun later => keys_take later registry rows, ?_⟩
  · intro left error
    cases question with
    | tables => exact (tablePass_asks _).take_eq_error_iff trivial
    | columns => exact (columnPass_asks _).take_eq_error_iff knows
    | keys => exact (keyPass_asks _).take_eq_error_iff knows
  · intro left
    cases question with
    | tables => exact (tablePass_asks _).take_eq_ok_iff trivial
    | columns => exact (columnPass_asks _).take_eq_ok_iff knows
    | keys => exact (keyPass_asks _).take_eq_ok_iff knows
  · cases question with
    | tables => exact (tablePass_asks registry.tables.keys).take_again trivial rows
    | columns => exact (columnPass_asks registry.tables.keys).take_again knows rows
    | keys => exact (keyPass_asks registry.tables.keys).take_again knows rows

/-- A registry that knows the table `user`. -/
def userRegistry : Registry := .registerTable .empty "user" .baseTable

/-- Key rows that record one column twice, with a row between for a table that is not
registered and a row after it. -/
def strayingRows : List Row := [
  [("table_name", .str "user"), ("constraint_name", .str "key"), ("position", .int 1),
    ("key_column", .str "id")],
  [("table_name", .str "user"), ("constraint_name", .str "key"), ("position", .int 2),
    ("key_column", .str "name")],
  [("table_name", .str "user"), ("constraint_name", .str "key"), ("position", .int 3),
    ("key_column", .str "id")],
  [("table_name", .str "ghost"), ("constraint_name", .str "key"), ("position", .int 1),
    ("key_column", .str "id")],
  [("table_name", .str "user"), ("constraint_name", .str "key"), ("position", .int 0),
    ("key_column", .str "email")]]

/-- The pass fails with the fourth row. It leaves what the first three rows recorded, and
so does a second pass. -/
theorem rows_of_pass_straying :
    ∃ left, Question.keys.take userRegistry strayingRows =
        (left, some (.unknownTable "ghost")) ∧
      left.toCatalog.toList.map (fun table => (table.name, table.primaryKey)) =
        [("user", ["name", "id"])] ∧
      left = Question.keys.takeEach userRegistry (strayingRows.take 3) ∧
      left.tables.keys = userRegistry.tables.keys ∧
      Question.keys.take left strayingRows = (left, some (.unknownTable "ghost")) := by
  obtain ⟨left, failed⟩ : ∃ left, Question.keys.take userRegistry strayingRows =
      (left, some (.unknownTable "ghost")) := ⟨_, rfl⟩
  obtain ⟨_, _, same, again⟩ := rows_of_pass .keys userRegistry strayingRows
  have kept := same (by decide)
  rw [failed] at kept again
  cases failed
  exact ⟨_, rfl, rfl, rfl, kept, again⟩

end Catalog

end GraphBatch
