import GraphBatch.Proofs.FragmentNames
import GraphBatch.Proofs.Refusal

/-!
# Reads that are refused

A batch of reads fails to compile for exactly one of these, and for the first that
applies: its first read that cannot be drafted, for want of a table, of columns or of
a usable discriminator, looked at in this order; that it is empty; or the first read
that does not agree with an earlier one on a fragment. In every other case there is a
document, of a query and of a subscription alike.
-/

namespace GraphBatch

namespace GeneratedName

/-- The characters `[_A-Za-z0-9]`. -/
def PartChar (char : Char) : Prop :=
  char = '_' ∨ ('A' ≤ char ∧ char ≤ 'Z') ∨ ('a' ≤ char ∧ char ≤ 'z') ∨ ('0' ≤ char ∧ char ≤ '9')

theorem isNamePart_iff {char : Char} : isNamePart char = true ↔ PartChar char := by
  have part : isNamePart char = true ↔ char = '_' ∨ char.isAlphanum = true :=
    Bool.or_eq_true_iff.trans (or_congr_left decide_eq_true_iff)
  have alphanumeric : char.isAlphanum = true ↔ char.isAlpha = true ∨ char.isDigit = true :=
    Bool.or_eq_true_iff
  have letter : char.isAlpha = true ↔ char.isUpper = true ∨ char.isLower = true :=
    Bool.or_eq_true_iff
  have upper : char.isUpper = true ↔ 'A' ≤ char ∧ char ≤ 'Z' := decide_eq_true_iff
  have lower : char.isLower = true ↔ 'a' ≤ char ∧ char ≤ 'z' :=
    Bool.and_eq_true_iff.trans (and_congr decide_eq_true_iff decide_eq_true_iff)
  have digit : char.isDigit = true ↔ '0' ≤ char ∧ char ≤ '9' :=
    Bool.and_eq_true_iff.trans (and_congr decide_eq_true_iff decide_eq_true_iff)
  rw [part, alphanumeric, letter, upper, lower, digit, or_assoc]
  rfl

theorem isDiscriminator_iff {text : String} :
    isDiscriminator text = true ↔ ∀ char ∈ text.toList, PartChar char := by
  unfold isDiscriminator
  rw [List.all_eq_true]
  exact forall₂_congr fun char _ => isNamePart_iff

end GeneratedName

namespace Select

variable {select : Select} {catalog : Catalog} {key : String} {table : Table}
  {fields : Selection} {index : Nat} {error : Error}

/-- The error for a discriminator that cannot be part of a name. -/
def foreignDiscriminator (key discriminator : String) : Error :=
  .invalidParams ("fragment discriminator `" ++ discriminator ++ "` on `" ++ key
    ++ "` is not a valid name part")

/-- What a read is refused for. -/
inductive Refused (catalog : Catalog) (key : String) (select : Select) : Error → Prop where
  | unknownTable (missing : catalog.get? (select.tableName key) = none) :
      Refused catalog key select (.unknownTable (select.tableName key))
  | noColumns {table : Table} (found : catalog.get? (select.tableName key) = some table)
      (blank : select.fields = []) (bare : table.columns = []) :
      Refused catalog key select (table.noColumns key)
  | discriminator {table : Table} {discriminator : String} {char : Char}
      (found : catalog.get? (select.tableName key) = some table)
      (chosen : ¬ (select.fields = [] ∧ table.columns = []))
      (asked : select.fragment = some discriminator) (inside : char ∈ discriminator.toList)
      (foreign : ¬ GeneratedName.PartChar char) :
      Refused catalog key select (foreignDiscriminator key discriminator)

theorem fragment?_eq_error_iff :
    select.fragment? key table fields = .error error ↔
      ∃ discriminator, select.fragment = some discriminator ∧
        (∃ char ∈ discriminator.toList, ¬ GeneratedName.PartChar char) ∧
        error = foreignDiscriminator key discriminator := by
  unfold fragment?
  cases asked : select.fragment with
  | none => simp
  | some discriminator =>
      dsimp only
      by_cases valid : GeneratedName.isDiscriminator discriminator = true
      · rw [if_pos valid]
        refine iff_of_false (fun failed => nomatch failed) ?_
        rintro ⟨_, same, ⟨char, inside, foreign⟩, _⟩
        cases same
        exact foreign (GeneratedName.isDiscriminator_iff.mp valid char inside)
      · have foreign : ∃ char ∈ discriminator.toList, ¬ GeneratedName.PartChar char := by
          simpa using GeneratedName.isDiscriminator_iff.not.mp valid
        rw [if_neg valid]
        constructor
        · intro failed
          cases failed
          exact ⟨discriminator, rfl, foreign, rfl⟩
        · rintro ⟨_, same, _, rfl⟩
          cases same
          rfl

theorem draftOn_eq_error_iff :
    select.draftOn key table index = .error error ↔
      (select.fields = [] ∧ table.columns = []) ∧ error = table.noColumns key ∨
      ¬ (select.fields = [] ∧ table.columns = []) ∧
        ∃ discriminator, select.fragment = some discriminator ∧
          (∃ char ∈ discriminator.toList, ¬ GeneratedName.PartChar char) ∧
          error = foreignDiscriminator key discriminator := by
  unfold draftOn
  rw [Outcome.bind_eq_error, Table.readFields_eq_error_iff]
  refine or_congr_right ?_
  constructor
  · rintro ⟨fields, chosen, failed⟩
    refine ⟨fun bare => ?_, ?_⟩
    · rw [Table.readFields_eq_error_iff.mpr ⟨bare, rfl⟩] at chosen
      cases chosen
    · rcases Outcome.bind_eq_error.mp failed with refused | ⟨_, _, made⟩
      · exact fragment?_eq_error_iff.mp refused
      · cases made
  · rintro ⟨filled, refused⟩
    obtain ⟨fields, chosen⟩ := Outcome.eq_ok_of_ne_error fun error failed =>
      filled (Table.readFields_eq_error_iff.mp failed).1
    exact ⟨fields, chosen, Outcome.bind_eq_error.mpr
      (Or.inl (fragment?_eq_error_iff.mpr refused))⟩

/-- A read is not drafted exactly if it is refused, whatever its number. -/
theorem draft_eq_error_iff :
    (select.draft catalog key index).2 = .error error ↔ select.Refused catalog key error := by
  unfold draft
  cases looked : catalog.lookup (select.tableName key) with
  | error fault =>
      obtain ⟨missing, rfl⟩ := Catalog.lookup_eq_error.mp looked
      constructor
      · intro failed
        cases failed
        exact .unknownTable missing
      · intro refused
        cases refused with
        | unknownTable _ => rfl
        | noColumns found _ _ => cases missing.symm.trans found
        | discriminator found _ _ _ _ => cases missing.symm.trans found
  | ok table =>
      have found := Catalog.lookup_eq_ok.mp looked
      dsimp only
      rw [draftOn_eq_error_iff]
      constructor
      · rintro (⟨⟨blank, bare⟩, rfl⟩ | ⟨chosen, discriminator, asked, ⟨char, inside, foreign⟩, rfl⟩)
        · exact .noColumns found blank bare
        · exact .discriminator found chosen asked inside foreign
      · intro refused
        cases refused with
        | unknownTable missing => cases missing.symm.trans found
        | noColumns also blank bare =>
            cases found.symm.trans also
            exact Or.inl ⟨⟨blank, bare⟩, rfl⟩
        | @discriminator _ discriminator char also chosen asked inside foreign =>
            cases found.symm.trans also
            exact Or.inr ⟨chosen, discriminator, asked, ⟨char, inside, foreign⟩, rfl⟩

/-- A read that is not refused has a table, has columns to ask for, and gives its
fragment a usable discriminator. -/
theorem not_refused_iff :
    (∀ error, ¬ select.Refused catalog key error) ↔
      ∃ table, catalog.get? (select.tableName key) = some table ∧
        (select.fields ≠ [] ∨ table.columns ≠ []) ∧
        ∀ discriminator ∈ select.fragment, ∀ char ∈ discriminator.toList,
          GeneratedName.PartChar char := by
  constructor
  · intro fine
    obtain ⟨table, found⟩ : ∃ table, catalog.get? (select.tableName key) = some table :=
      Option.ne_none_iff_exists'.mp fun missing => fine _ (.unknownTable missing)
    have chosen : ¬ (select.fields = [] ∧ table.columns = []) :=
      fun bare => fine _ (.noColumns found bare.1 bare.2)
    refine ⟨table, found, by rwa [not_and_or] at chosen, ?_⟩
    intro discriminator asked char inside
    by_contra foreign
    exact fine _ (.discriminator found chosen asked inside foreign)
  · rintro ⟨table, found, chosen, parts⟩ error refused
    cases refused with
    | unknownTable missing => cases missing.symm.trans found
    | noColumns also blank bare =>
        cases found.symm.trans also
        exact chosen.elim (fun filled => filled blank) fun filled => filled bare
    | discriminator _ _ asked inside foreign => exact foreign (parts _ asked _ inside)

end Select

theorem draftReads_eq_error_iff {catalog : Catalog} {reads : List (String × Select)}
    {index : Nat} {error : Error} :
    draftReads catalog reads index = .error error ↔
      FirstRefusal (fun entry => entry.2.Refused catalog entry.1) reads error := by
  induction reads generalizing index with
  | nil => exact iff_of_false (fun failed => nomatch failed) FirstRefusal.not_nil
  | cons entry rest ih =>
      obtain ⟨key, select⟩ := entry
      -- For every error at once: that the first read is not refused is rewritten as well.
      have one : ∀ other, (select.draft catalog key index).2 = .error other ↔
          select.Refused catalog key other := fun _ => Select.draft_eq_error_iff
      rw [FirstRefusal.cons_iff]
      simp only [← one]
      unfold draftReads
      rcases select.draft catalog key index with ⟨next, fault | draft⟩
      · simp
      · dsimp only
        rw [Outcome.bind_eq_error, ih]
        simp

theorem draftReads_eq_ok_iff {catalog : Catalog} {reads : List (String × Select)} {index : Nat}
    {drafts : List Draft} :
    draftReads catalog reads index = .ok drafts ↔
      (∀ entry ∈ reads, ∀ error, ¬ entry.2.Refused catalog entry.1 error) ∧
        drafts = Reading.drafts (readings catalog reads) index := by
  rw [← FirstRefusal.none_iff]
  exact Outcome.eq_ok_iff (fun _ => draftReads_eq_error_iff) fun _ made =>
    (draftReads_eq_ok made).2.2

namespace Query

variable {kind : OperationKind} {catalog : Catalog} {query : Query} {error : Error}

/-- What a batch of reads is refused for. -/
inductive Refused (kind : OperationKind) (catalog : Catalog) (query : Query) : Error → Prop where
  | read {error : Error}
      (first : FirstRefusal (fun entry => entry.2.Refused catalog entry.1) query.tables error) :
      Refused kind catalog query error
  | empty (blank : query.tables = []) : Refused kind catalog query (Document.emptyBatch kind)
  | conflict {reading : Reading} {discriminator : String}
      (fine : ∀ entry ∈ query.tables, ∀ error, ¬ entry.2.Refused catalog entry.1 error)
      (first : FirstConflict Reading.Agrees (readings catalog query.tables) reading)
      (asked : reading.select.fragment = some discriminator) :
      Refused kind catalog query (Document.conflictingFragment
        (GeneratedName.forFragment reading.table.name discriminator))

/-- There are reads, each has a table, columns and a usable discriminator, and no two of
them disagree on a fragment. -/
structure Compiles (catalog : Catalog) (query : Query) : Prop where
  filled : query.tables ≠ []
  reads : ∀ entry ∈ query.tables, ∃ table,
    catalog.get? (entry.2.tableName entry.1) = some table ∧
    (entry.2.fields ≠ [] ∨ table.columns ≠ []) ∧
    ∀ discriminator ∈ entry.2.fragment, ∀ char ∈ discriminator.toList,
      GeneratedName.PartChar char
  agree : (readings catalog query.tables).Pairwise Reading.Agrees

theorem compose_drafts_eq_error_iff {items : List Reading} :
    Document.compose kind ((Reading.drafts items 0).map Draft.build) = .error error ↔
      items = [] ∧ error = Document.emptyBatch kind ∨
      ∃ reading discriminator, FirstConflict Reading.Agrees items reading ∧
        reading.select.fragment = some discriminator ∧
        error = Document.conflictingFragment
          (GeneratedName.forFragment reading.table.name discriminator) := by
  have apart := Document.nodup_boundNames (Reading.drafts_ascending items 0)
  have blank : (Reading.drafts items 0).map Draft.build = [] ↔ items = [] := by
    simp [Reading.drafts]
  rw [Document.compose_eq_error_iff_of_nodup apart, blank, Reading.fragments_drafts]
  refine or_congr_right ?_
  constructor
  · rintro ⟨fragment, first, rfl⟩
    obtain ⟨reading, gives, conflict⟩ := FirstConflict.filterMap_iff.mp first
    obtain ⟨discriminator, asked, rfl⟩ := Reading.namedFragment?_eq_some.mp gives
    simp only [Reading.agrees_iff] at conflict
    exact ⟨reading, discriminator, conflict, asked, rfl⟩
  · rintro ⟨reading, discriminator, conflict, asked, rfl⟩
    refine ⟨_, FirstConflict.filterMap_iff.mpr ⟨reading,
      Reading.namedFragment?_eq_some.mpr ⟨discriminator, asked, rfl⟩, ?_⟩, rfl⟩
    simp only [Reading.agrees_iff]
    exact conflict

theorem ofReads_eq_error_iff :
    Document.ofReads kind catalog query = .error error ↔ query.Refused kind catalog error := by
  unfold Document.ofReads
  rw [Outcome.bind_eq_error, draftReads_eq_error_iff]
  constructor
  · rintro (first | ⟨drafts, drafted, failed⟩)
    · exact .read first
    · obtain ⟨fine, rfl⟩ := draftReads_eq_ok_iff.mp drafted
      rcases compose_drafts_eq_error_iff.mp failed with
        ⟨blank, rfl⟩ | ⟨reading, discriminator, conflict, asked, rfl⟩
      · have entries := (draftReads_eq_ok drafted).1
        rw [blank] at entries
        exact .empty entries.symm
      · exact .conflict fine conflict asked
  · intro refused
    cases refused with
    | read first => exact Or.inl first
    | empty blank =>
        rw [blank]
        exact Or.inr ⟨[], rfl, rfl⟩
    | conflict fine conflict asked =>
        exact Or.inr ⟨_, draftReads_eq_ok_iff.mpr ⟨fine, rfl⟩,
          compose_drafts_eq_error_iff.mpr (Or.inr ⟨_, _, conflict, asked, rfl⟩)⟩

/-- A read that does not go with an earlier one has a fragment. -/
theorem fragment_of_conflict {items : List Reading} {reading : Reading}
    (conflict : FirstConflict Reading.Agrees items reading) :
    ∃ discriminator, reading.select.fragment = some discriminator := by
  obtain ⟨_, _, _, _, earlier, _, differ⟩ := conflict
  refine Option.ne_none_iff_exists'.mp fun unasked => differ ?_
  intro discriminator _ asked
  cases unasked.symm.trans asked

theorem not_refused_iff :
    (∀ error, ¬ query.Refused kind catalog error) ↔ query.Compiles catalog := by
  constructor
  · intro never
    have fine : ∀ entry ∈ query.tables, ∀ error, ¬ entry.2.Refused catalog entry.1 error :=
      FirstRefusal.none_iff.mp fun error first => never error (.read first)
    refine ⟨fun blank => never _ (.empty blank), ?_, ?_⟩
    · intro entry inside
      exact Select.not_refused_iff.mp (fine entry inside)
    · by_contra clash
      obtain ⟨reading, conflict⟩ := FirstConflict.exists_of_not_pairwise clash
      obtain ⟨discriminator, asked⟩ := fragment_of_conflict conflict
      exact never _ (.conflict fine conflict asked)
  · intro compiles error refused
    cases refused with
    | read first =>
        refine FirstRefusal.none_iff.mpr ?_ error first
        intro entry inside
        exact Select.not_refused_iff.mpr (compiles.reads entry inside)
    | empty blank => exact compiles.filled blank
    | conflict _ conflict _ => exact conflict.not_pairwise compiles.agree

theorem exists_ofReads_iff :
    (∃ document, Document.ofReads kind catalog query = .ok document) ↔ query.Compiles catalog :=
  (Outcome.exists_ok_iff fun _ => ofReads_eq_error_iff).trans not_refused_iff

end Query

/-- A batch of reads is refused exactly for what `Query.Refused` says, as a query and as
a subscription, and compiles in every other case. Reads of different tables, with
different discriminators or of the same fields never disagree on a fragment. -/
theorem outcome_of_reads (catalog : Catalog) (query : Query) :
    (∀ error, Document.ofQuery catalog query = .error error ↔
      query.Refused .query catalog error) ∧
    (∀ error, Document.ofSubscription catalog query = .error error ↔
      query.Refused .subscription catalog error) ∧
    ((∃ document, Document.ofQuery catalog query = .ok document) ↔ query.Compiles catalog) ∧
    ((∃ document, Document.ofSubscription catalog query = .ok document) ↔
      query.Compiles catalog) ∧
    ∀ first second : Reading, first.table.name ≠ second.table.name ∨
      first.select.fragment ≠ second.select.fragment ∨ first.selection = second.selection →
      first.Agrees second := by
  refine ⟨fun _ => Query.ofReads_eq_error_iff, fun _ => Query.ofReads_eq_error_iff,
    Query.exists_ofReads_iff, Query.exists_ofReads_iff, ?_⟩
  intro first second apart discriminator first_asks second_asks tables
  rcases apart with other_table | other_fragment | same_fields
  · exact absurd tables other_table
  · exact absurd (first_asks.trans second_asks.symm) other_fragment
  · rw [same_fields]

/-- Members with a name and an age. -/
def memberTable : Table :=
  ⟨"member", .baseTable, [("name", ⟨"name", "text", "text"⟩), ("age", ⟨"age", "integer", "int4"⟩)],
    []⟩

/-- A database of members. -/
def memberCatalog : Catalog where
  tables := [("member", memberTable)]
  distinct := by decide
  named := by decide

/-- Two reads that give one fragment different fields. -/
def conflictingQuery : Query where
  tables := [
    ("all", { Select.empty with table := some "member", fragment := some "x" }),
    ("member", { Select.empty with fields := [.column "age"], fragment := some "x" })]
  flattenSingle := true
  distinct := by decide

/-- Different fields under one discriminator are refused; under two they agree. -/
theorem outcome_of_reads_conflicting :
    conflictingQuery.Refused .query memberCatalog
        (Document.conflictingFragment "f6_member_x_fields") ∧
      Reading.Agrees ⟨"all", memberTable, { Select.empty with fragment := some "x" }⟩
        ⟨"member", memberTable,
          { Select.empty with fields := [.column "age"], fragment := some "y" }⟩ := by
  obtain ⟨refused, _, _, _, agree⟩ := outcome_of_reads memberCatalog conflictingQuery
  exact ⟨(refused _).mp rfl, agree _ _ (Or.inr (Or.inl (by decide)))⟩

/-- Of two faults of one read, the missing columns decide; a later read without a table
is not looked at. -/
example :
    Document.ofQuery
        ⟨[("bare", ⟨"bare", .view, [], []⟩)], by decide, by decide⟩
        ⟨[("bare", { Select.empty with fragment := some "a-b" }), ("gone", .empty)], true,
          by decide⟩ =
      .error (.invalidParams
        "no fields requested for `bare` and table `bare` has no known columns") := by
  rfl

end GraphBatch
