import GraphBatch.Proofs.Refusal
import GraphBatch.Proofs.ReportedTables

/-!
# Passes over rows

A pass takes rows one by one: a row is decoded, and if its table is admitted, it is
entered into a registry. The first row that cannot be decoded or that names a table
that is not admitted is the one the pass fails with; if there is none, all rows have
been entered in their order. Introspection has three passes, which admit every table
or the tables that are known.
-/

namespace GraphBatch.Catalog

open Json (RecordType)

/-! ## Rows of a pass -/

def Row.Decodes {α : Type} (type : RecordType α) (row : Row) (made : α) : Prop :=
  type.decode (Json.obj row).toSource = .ok made

/-- What a row is refused for: it cannot be decoded, or it names a table that is not
admitted. -/
inductive Row.Refused {α : Type} (type : RecordType α) (table : α → String)
    (admitted : String → Prop) (row : Row) : Error → Prop where
  | undecoded {fault : Json.DecodeError}
      (failed : type.decode (Json.obj row).toSource = .error fault) :
      Refused type table admitted row (.invalidIntrospection fault.message)
  | unknownTable {made : α} (decoded : row.Decodes type made)
      (missing : ¬ admitted (table made)) :
      Refused type table admitted row (.unknownTable (table made))

/-- A way of taking rows one by one, for registries that fit: how a row is decoded, which
tables it may name, and how it is entered. -/
structure Pass (α : Type) where
  type : RecordType α
  table : α → String
  admitted : String → Prop
  fits : Registry → Prop
  apply : Registry → α → Outcome Registry
  enter : Registry → α → Registry
  /-- A row of an admitted table is entered, and the registry still fits. -/
  enters : ∀ {registry made}, fits registry → admitted (table made) →
    apply registry made = .ok (enter registry made) ∧ fits (enter registry made)
  /-- A row of another table is refused. -/
  refuses : ∀ {registry made}, fits registry → ¬ admitted (table made) →
    apply registry made = .error (.unknownTable (table made))

namespace Pass

variable {α : Type} (pass : Pass α)

def take (registry : Registry) (row : Row) : Outcome Registry :=
  row.decode pass.type >>= pass.apply registry

def Refuses : Row → Error → Prop :=
  Row.Refused pass.type pass.table pass.admitted

/-- A row is read as a record of a table that is admitted. -/
def Reads (row : Row) (made : α) : Prop :=
  row.Decodes pass.type made ∧ pass.admitted (pass.table made)

variable {registry : Registry}

theorem take_cases (fit : pass.fits registry) (row : Row) :
    (∃ error, pass.Refuses row error ∧ pass.take registry row = .error error) ∨
      ∃ made, pass.Reads row made ∧ pass.take registry row = .ok (pass.enter registry made) ∧
        pass.fits (pass.enter registry made) := by
  unfold take Row.decode
  cases decoded : pass.type.decode (Json.obj row).toSource with
  | error fault => exact Or.inl ⟨_, .undecoded decoded, rfl⟩
  | ok made =>
      by_cases known : pass.admitted (pass.table made)
      · obtain ⟨entered, fit⟩ := pass.enters fit known
        exact Or.inr ⟨made, ⟨decoded, known⟩, entered, fit⟩
      · exact Or.inl ⟨_, .unknownTable decoded known, pass.refuses fit known⟩

variable {pass} in
theorem Refuses.unique {row : Row} {first second : Error} (one : pass.Refuses row first)
    (other : pass.Refuses row second) : first = second := by
  cases one with
  | undecoded failed =>
      cases other with
      | undecoded also =>
          cases failed.symm.trans also
          rfl
      | unknownTable decoded _ => cases failed.symm.trans decoded
  | unknownTable decoded _ =>
      cases other with
      | undecoded failed => cases failed.symm.trans decoded
      | unknownTable also _ =>
          cases Eq.trans (Eq.symm decoded) also
          rfl

variable {pass} in
theorem Reads.not_refused {row : Row} {made : α} (read : pass.Reads row made) (error : Error) :
    ¬ pass.Refuses row error := by
  intro refused
  obtain ⟨decoded, known⟩ := read
  cases refused with
  | undecoded failed => cases failed.symm.trans decoded
  | unknownTable also missing =>
      cases Eq.trans (Eq.symm decoded) also
      exact missing known

variable {pass} in
/-- A row is read as one record only. -/
theorem Reads.unique {row : Row} {first second : α} (one : pass.Reads row first)
    (other : pass.Reads row second) : first = second := by
  have same := Eq.trans (Eq.symm one.1) other.1
  cases same
  rfl

theorem takeRows_eq_error_iff (fit : pass.fits registry) (rows : List Row) (error : Error) :
    (Registry.takeRows pass.take registry rows).2 = some error ↔
      FirstRefusal pass.Refuses rows error := by
  induction rows generalizing registry with
  | nil => exact iff_of_false (fun impossible => by cases impossible) FirstRefusal.not_nil
  | cons row rows ih =>
      rw [Registry.takeRows]
      rcases pass.take_cases fit row with ⟨fault, refused, taken⟩ | ⟨made, read, taken, fit⟩
      · rw [taken, FirstRefusal.cons_iff]
        constructor
        · intro same
          cases same
          exact Or.inl refused
        · rintro (also | ⟨fine, _⟩)
          · rw [also.unique refused]
          · exact absurd refused (fine fault)
      · rw [taken, FirstRefusal.cons_of_fine read.not_refused]
        exact ih fit

/-- Rows that are all taken are read one by one, and entered in their order. -/
theorem takeRows_eq_ok_iff (fit : pass.fits registry) (rows : List Row) (final : Registry) :
    Registry.takeRows pass.take registry rows = (final, none) ↔
      ∃ made, List.Forall₂ pass.Reads rows made ∧ made.foldl pass.enter registry = final := by
  induction rows generalizing registry with
  | nil =>
      constructor
      · intro same
        cases same
        exact ⟨[], .nil, rfl⟩
      · rintro ⟨made, read, same⟩
        cases read
        rw [← same]
        rfl
  | cons row rows ih =>
      rw [Registry.takeRows]
      rcases pass.take_cases fit row with ⟨fault, refused, taken⟩ | ⟨first, read, taken, fit⟩
      · rw [taken]
        constructor
        · intro impossible
          cases impossible
        · rintro ⟨made, reads, _⟩
          cases reads with
          | cons read _ => exact absurd refused (read.not_refused fault)
      · rw [taken]
        constructor
        · intro rest
          obtain ⟨made, reads, entered⟩ := (ih fit).mp rest
          exact ⟨first :: made, .cons read reads, entered⟩
        · rintro ⟨made, reads, entered⟩
          cases reads with
          | cons also reads =>
              rw [List.foldl_cons, also.unique read] at entered
              exact (ih fit).mpr ⟨_, reads, entered⟩

variable {pass} in
theorem forall₂_reads_iff {rows : List Row} {made : List α} :
    List.Forall₂ pass.Reads rows made ↔
      List.Forall₂ (Row.Decodes pass.type) rows made ∧
        ∀ row ∈ made, pass.admitted (pass.table row) := by
  constructor
  · intro reads
    induction reads with
    | nil => exact ⟨.nil, List.forall_mem_nil _⟩
    | cons read _ ih => exact ⟨.cons read.1 ih.1, List.forall_mem_cons.mpr ⟨read.2, ih.2⟩⟩
  · rintro ⟨decoded, known⟩
    induction decoded with
    | nil => exact .nil
    | cons first _ ih =>
        obtain ⟨here, later⟩ := List.forall_mem_cons.mp known
        exact .cons ⟨first, here⟩ (ih later)

theorem fits_foldl (fit : pass.fits registry) {rows : List Row} {made : List α}
    (reads : List.Forall₂ pass.Reads rows made) : pass.fits (made.foldl pass.enter registry) := by
  induction reads generalizing registry with
  | nil => exact fit
  | cons read _ ih => exact ih (pass.enters fit read.2).2

end Pass

/-! ## The three passes -/

namespace Registry

variable {registry : Registry} {table : String}

theorem setColumn_of_mem (known : table ∈ registry.tables.keys) (column : Column) :
    registry.setColumn table column = .ok (registry.withColumn table column) :=
  if_pos known

theorem setColumn_of_not_mem (unknown : table ∉ registry.tables.keys) (column : Column) :
    registry.setColumn table column = .error (.unknownTable table) :=
  if_neg unknown

theorem setKeyColumn_of_mem (known : table ∈ registry.tables.keys) (name : String)
    (position : Nat) :
    registry.setKeyColumn table name position =
      .ok (registry.withKeyColumn table name position) :=
  if_pos known

theorem setKeyColumn_of_not_mem (unknown : table ∉ registry.tables.keys) (name : String)
    (position : Nat) :
    registry.setKeyColumn table name position = .error (.unknownTable table) :=
  if_neg unknown

def Knows (registry : Registry) (names : List String) : Prop :=
  ∀ name, name ∈ registry.tables.keys ↔ name ∈ names

theorem Knows.enterColumn {names : List String} (knows : registry.Knows names)
    (row : ColumnRow) : (registry.enterColumn row).Knows names := by
  intro name
  rw [Registry.enterColumn, keys_withColumn]
  exact knows name

theorem Knows.enterKey {names : List String} (knows : registry.Knows names) (row : KeyRow) :
    (registry.enterKey row).Knows names := by
  intro name
  rw [Registry.enterKey, tables_withKeyColumn]
  exact knows name

theorem knows_foldl_enterTable (rows : List TableRow) :
    (rows.foldl enterTable .empty).Knows (rows.map TableRow.table) := by
  intro name
  rw [tables_foldl_enterTable, Entries.keys, List.map_map]
  change name ∈ (earliest TableRow.table rows).map TableRow.table ↔ _
  rw [map_earliest, List.mem_eraseDups]

end Registry

/-- The pass over table rows: every table is admitted. -/
def tablePass : Pass TableRow where
  type := TableRow.record
  table := TableRow.table
  admitted := fun _ => True
  fits := fun _ => True
  apply := fun registry row => .ok (registry.enterTable row)
  enter := Registry.enterTable
  enters := fun _ _ => ⟨rfl, trivial⟩
  refuses := fun _ missing => absurd trivial missing

def columnPass (known : List String) : Pass ColumnRow where
  type := ColumnRow.record
  table := ColumnRow.table
  admitted := (· ∈ known)
  fits := (Registry.Knows · known)
  apply := fun registry row =>
    registry.setColumn row.table ⟨row.column, row.type, row.storageType⟩
  enter := Registry.enterColumn
  enters := fun knows inside =>
    ⟨Registry.setColumn_of_mem ((knows _).mpr inside) _, knows.enterColumn _⟩
  refuses := fun knows missing =>
    Registry.setColumn_of_not_mem (fun inside => missing ((knows _).mp inside)) _

def keyPass (known : List String) : Pass KeyRow where
  type := KeyRow.record
  table := KeyRow.table
  admitted := (· ∈ known)
  fits := (Registry.Knows · known)
  apply := fun registry row => registry.setKeyColumn row.table row.column row.position
  enter := Registry.enterKey
  enters := fun knows inside =>
    ⟨Registry.setKeyColumn_of_mem ((knows _).mpr inside) _ _, knows.enterKey _⟩
  refuses := fun knows missing =>
    Registry.setKeyColumn_of_not_mem (fun inside => missing ((knows _).mp inside)) _ _

theorem take_tables : Question.tables.take = Registry.takeRows tablePass.take := rfl

theorem take_columns (known : List String) :
    Question.columns.take = Registry.takeRows (columnPass known).take := rfl

theorem take_keys (known : List String) :
    Question.keys.take = Registry.takeRows (keyPass known).take := rfl

theorem Registry.Knows.take {question : Question} (later : question ≠ .tables)
    {registry next : Registry} {known : List String} (knows : registry.Knows known)
    {rows : List Row} (taken : question.take registry rows = (next, none)) :
    next.Knows known := by
  cases question with
  | tables => exact absurd rfl later
  | columns =>
      rw [take_columns known] at taken
      obtain ⟨made, reads, rfl⟩ :=
        ((columnPass known).takeRows_eq_ok_iff knows rows next).mp taken
      exact (columnPass known).fits_foldl knows reads
  | keys =>
      rw [take_keys known] at taken
      obtain ⟨made, reads, rfl⟩ := ((keyPass known).takeRows_eq_ok_iff knows rows next).mp taken
      exact (keyPass known).fits_foldl knows reads

end GraphBatch.Catalog
