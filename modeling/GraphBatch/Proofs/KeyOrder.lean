import GraphBatch.Proofs.ReportedTables

/-!
# The order of primary keys

Key columns are recorded one after the other, and a column may be recorded again at
another position. A primary key holds every recorded column once, by the positions that
were recorded last; columns at one position stand as they were first recorded. This
decides the key. So the order of the records matters for columns that end at one position,
and for no others.
-/

namespace GraphBatch.Catalog

variable {recorded : List KeyColumn} {first second : String}

def lastPosition? (recorded : List KeyColumn) (name : String) : Option Nat :=
  (recorded.reverse.find? fun column => column.name = name).map KeyColumn.position

/-- At some point one name has been recorded, and the other has not. -/
def RecordedBefore (recorded : List KeyColumn) (first second : String) : Prop :=
  ∃ front, front <+: recorded ∧ first ∈ front.map KeyColumn.name ∧
    second ∉ front.map KeyColumn.name

/-- One name stands before another in a key: its last position is smaller, or it is the
same and the name was recorded first. -/
def Precedes (recorded : List KeyColumn) (first second : String) : Prop :=
  ∃ position other, lastPosition? recorded first = some position ∧
    lastPosition? recorded second = some other ∧
    (position < other ∨ position = other ∧ RecordedBefore recorded first second)

/-- A list of names is the key that is recorded: every name once, in their order. -/
structure KeyOrder (recorded : List KeyColumn) (key : List String) : Prop where
  nodup : key.Nodup
  mem_iff : ∀ name, name ∈ key ↔ name ∈ recorded.map KeyColumn.name
  ordered : key.Pairwise (Precedes recorded)

/-! ## The order decides the key -/

theorem RecordedBefore.asymm (before : RecordedBefore recorded first second) :
    ¬ RecordedBefore recorded second first := by
  obtain ⟨front, begins, inside, absent⟩ := before
  rintro ⟨other, also, there, missing⟩
  rcases List.prefix_or_prefix_of_prefix begins also with shorter | shorter
  · exact missing ((shorter.map KeyColumn.name).subset inside)
  · exact absent ((shorter.map KeyColumn.name).subset there)

theorem Precedes.asymm (before : Precedes recorded first second) :
    ¬ Precedes recorded second first := by
  obtain ⟨position, other, here, there, order⟩ := before
  rintro ⟨also, again, second_at, first_at, reverse⟩
  cases here.symm.trans first_at
  cases there.symm.trans second_at
  rcases order with less | ⟨same, earlier⟩
  · omega
  · rcases reverse with less | ⟨_, later⟩
    · omega
    · exact earlier.asymm later

theorem KeyOrder.unique {key other : List String} (order : KeyOrder recorded key)
    (also : KeyOrder recorded other) : key = other := by
  have same : key.Perm other := by
    refine (List.perm_ext_iff_of_nodup order.nodup also.nodup).mpr fun name => ?_
    rw [order.mem_iff, also.mem_iff]
  refine List.Perm.eq_of_pairwise ?_ order.ordered also.ordered same
  intro one two _ _ before after
  exact absurd after before.asymm

/-! ## The key of a registration -/

theorem pairwise_eraseDups (names : List String) :
    names.eraseDups.Pairwise fun first second =>
      ∃ front, front <+: names ∧ first ∈ front ∧ second ∉ front := by
  induction names using List.reverseRecOn with
  | nil => exact .nil
  | append_singleton names added ih =>
      have longer : names <+: names ++ [added] := List.prefix_append names [added]
      have kept : names.eraseDups.Pairwise fun first second =>
          ∃ front, front <+: names ++ [added] ∧ first ∈ front ∧ second ∉ front := by
        refine ih.imp ?_
        rintro first second ⟨front, begins, inside, absent⟩
        exact ⟨front, begins.trans longer, inside, absent⟩
      rw [eraseDups_concat]
      split
      · exact kept
      · rename_i fresh
        refine List.pairwise_append.mpr ⟨kept, List.pairwise_singleton _ _, ?_⟩
        intro first inside second last
        rw [List.mem_singleton.mp last]
        exact ⟨names, longer, List.mem_eraseDups.mp inside, fresh⟩

theorem pairwise_latest (recorded : List KeyColumn) :
    (latest KeyColumn.name recorded).Pairwise fun first second =>
      RecordedBefore recorded first.name second.name := by
  have names := pairwise_eraseDups (recorded.map KeyColumn.name)
  rw [← map_latest, List.pairwise_map] at names
  refine names.imp ?_
  rintro first second ⟨front, begins, inside, absent⟩
  obtain ⟨columns, whole, rfl⟩ := List.prefix_map_iff.mp begins
  exact ⟨columns, whole, inside, absent⟩

theorem lastPosition?_of_mem_latest {column : KeyColumn}
    (inside : column ∈ latest KeyColumn.name recorded) :
    lastPosition? recorded column.name = some column.position := by
  obtain ⟨wanted, _, found⟩ := List.mem_filterMap.mp inside
  rw [lastPosition?, name_of_find? found, found, Option.map_some]

namespace KeyColumn

variable {relates : KeyColumn → KeyColumn → Prop}

theorem pairwise_putBefore {column : KeyColumn} {placed : List KeyColumn}
    (goes : ∀ held ∈ placed, relates column held)
    (ordered : placed.Pairwise fun first second => first.position < second.position ∨
      first.position = second.position ∧ relates first second) :
    (putBefore column placed).Pairwise fun first second => first.position < second.position ∨
      first.position = second.position ∧ relates first second := by
  induction placed with
  | nil => exact List.pairwise_singleton _ _
  | cons held rest ih =>
      obtain ⟨ahead, later⟩ := List.pairwise_cons.mp ordered
      obtain ⟨here, others⟩ := List.forall_mem_cons.mp goes
      rcases Nat.lt_or_ge held.position column.position with late | early
      · rw [putBefore_of_after rest late]
        refine List.pairwise_cons.mpr ⟨?_, ih others later⟩
        intro other inside
        rcases (List.mem_orderedInsert _).mp inside with rfl | inside
        · exact Or.inl late
        · exact ahead other inside
      · rw [putBefore_of_before rest early]
        refine List.pairwise_cons.mpr ⟨List.forall_mem_cons.mpr ⟨?_, ?_⟩, ordered⟩
        · rcases Nat.lt_or_eq_of_le early with less | same
          · exact Or.inl less
          · exact Or.inr ⟨same, here⟩
        · intro other inside
          have next := ahead other inside
          have goes := others other inside
          by_cases same : column.position = other.position
          · exact Or.inr ⟨same, goes⟩
          · exact Or.inl (by omega)

theorem pairwise_sorted {columns : List KeyColumn} (ordered : columns.Pairwise relates) :
    (sorted columns).Pairwise fun first second => first.position < second.position ∨
      first.position = second.position ∧ relates first second := by
  induction columns with
  | nil => exact .nil
  | cons column columns ih =>
      obtain ⟨goes, later⟩ := List.pairwise_cons.mp ordered
      rw [sorted_cons]
      refine pairwise_putBefore ?_ (ih later)
      intro held inside
      rw [sorted_eq_mergeSort, List.mem_mergeSort] at inside
      exact goes held inside

end KeyColumn

/-- The primary key of a table for which key columns were recorded one after the other. -/
def recordedKey (recorded : List KeyColumn) : List String :=
  (KeyColumn.sorted (recorded.foldl
    (fun held column => KeyColumn.record column.position column.name held) [])).map
      KeyColumn.name

theorem keyOrder_recordedKey (recorded : List KeyColumn) :
    KeyOrder recorded (recordedKey recorded) := by
  have kept : recorded.foldl
      (fun held column => KeyColumn.record column.position column.name held) [] =
        latest KeyColumn.name recorded := by
    rw [KeyColumn.foldl_record]
    exact List.map_id _
  have shuffled : (KeyColumn.sorted (latest KeyColumn.name recorded)).Perm
      (latest KeyColumn.name recorded) := by
    rw [KeyColumn.sorted_eq_mergeSort]
    exact List.mergeSort_perm _ _
  have names : (recordedKey recorded).Perm (recorded.map KeyColumn.name).eraseDups := by
    rw [recordedKey, kept, ← map_latest]
    exact shuffled.map KeyColumn.name
  refine ⟨names.nodup_iff.mpr (nodup_eraseDups _), ?_, ?_⟩
  · intro name
    rw [names.mem_iff, List.mem_eraseDups]
  · rw [recordedKey, kept, List.pairwise_map]
    refine (KeyColumn.pairwise_sorted (pairwise_latest recorded)).imp_of_mem ?_
    intro first second here there order
    exact ⟨first.position, second.position,
      lastPosition?_of_mem_latest (shuffled.mem_iff.mp here),
      lastPosition?_of_mem_latest (shuffled.mem_iff.mp there), order⟩

/-! ## Records in another order -/

theorem lastPosition?_append (front back : List KeyColumn) (name : String) :
    lastPosition? (front ++ back) name =
      (lastPosition? back name).or (lastPosition? front name) := by
  rw [lastPosition?, List.reverse_append, List.find?_append, Option.map_or]
  rfl

theorem lastPosition?_of_not_mem {name : String}
    (absent : name ∉ recorded.map KeyColumn.name) : lastPosition? recorded name = none := by
  rw [lastPosition?, Option.map_eq_none_iff, List.find?_eq_none]
  intro column inside same
  rw [List.mem_reverse] at inside
  exact absent (List.mem_map.mpr ⟨column, inside, by simpa using same⟩)

theorem lastPosition?_eq_some_iff (distinct : (recorded.map KeyColumn.name).Nodup)
    (name : String) (position : Nat) :
    lastPosition? recorded name = some position ↔ ⟨position, name⟩ ∈ recorded := by
  rw [lastPosition?, Option.map_eq_some_iff]
  constructor
  · rintro ⟨column, found, rfl⟩
    have inside := List.mem_reverse.mp (List.mem_of_find?_eq_some found)
    rw [← name_of_find? found]
    exact inside
  · intro inside
    have named : name ∈ recorded.reverse.map KeyColumn.name := by
      rw [List.map_reverse, List.mem_reverse]
      exact List.mem_map_of_mem (f := KeyColumn.name) inside
    obtain ⟨column, found, same⟩ := exists_find? named
    have also := List.mem_reverse.mp (List.mem_of_find?_eq_some found)
    have only := List.inj_on_of_nodup_map distinct also inside same
    exact ⟨column, found, congrArg KeyColumn.position only⟩

section Reordered

variable {front one two back : List KeyColumn}

theorem lastPosition?_reordered (same : one.Perm two)
    (distinct : (one.map KeyColumn.name).Nodup) (name : String) :
    lastPosition? (front ++ one ++ back) name = lastPosition? (front ++ two ++ back) name := by
  have also : (two.map KeyColumn.name).Nodup :=
    (same.map KeyColumn.name).nodup_iff.mp distinct
  have middle : lastPosition? one name = lastPosition? two name := by
    refine Option.ext fun position => ?_
    rw [lastPosition?_eq_some_iff distinct, lastPosition?_eq_some_iff also, same.mem_iff]
  simp only [lastPosition?_append, middle]

/-- Columns that are recorded at different positions, and not recorded again, do not end
at one position. -/
theorem eq_of_lastPosition?_eq (distinct : (one.map KeyColumn.name).Nodup)
    (apart : (one.map KeyColumn.position).Nodup)
    (untouched : ∀ column ∈ back, column.name ∉ one.map KeyColumn.name)
    (here : first ∈ one.map KeyColumn.name) (there : second ∈ one.map KeyColumn.name)
    (tied : lastPosition? (front ++ one ++ back) first =
      lastPosition? (front ++ one ++ back) second) : first = second := by
  have ends : ∀ column ∈ one,
      lastPosition? (front ++ one ++ back) column.name = some column.position := by
    intro column inside
    have absent : column.name ∉ back.map KeyColumn.name := by
      intro again
      obtain ⟨later, listed, named⟩ := List.mem_map.mp again
      refine untouched later listed ?_
      rw [named]
      exact List.mem_map_of_mem inside
    rw [lastPosition?_append, lastPosition?_of_not_mem absent, Option.none_or,
      lastPosition?_append, (lastPosition?_eq_some_iff distinct _ _).mpr inside,
      Option.some_or]
  obtain ⟨column, listed, rfl⟩ := List.mem_map.mp here
  obtain ⟨other, also, rfl⟩ := List.mem_map.mp there
  rw [ends column listed, ends other also] at tied
  exact congrArg KeyColumn.name
    (List.inj_on_of_nodup_map apart listed also (Option.some.inj tied))

/-- The point at which one name has been recorded and the other has not is before the
stretch, inside it, or behind it. Inside it the two do not end at one position. -/
theorem RecordedBefore.reordered (same : one.Perm two)
    (untied : ¬ (first ∈ one.map KeyColumn.name ∧ second ∈ one.map KeyColumn.name))
    (before : RecordedBefore (front ++ one ++ back) first second) :
    RecordedBefore (front ++ two ++ back) first second := by
  obtain ⟨part, begins, inside, absent⟩ := before
  have names := (same.map KeyColumn.name).mem_iff (a := first)
  have others := (same.map KeyColumn.name).mem_iff (a := second)
  have whole : front <+: front ++ two ++ back :=
    (List.prefix_append front two).trans (List.prefix_append (front ++ two) back)
  rcases List.prefix_or_prefix_of_prefix begins (List.prefix_append (front ++ one) back) with
    shorter | ⟨rest, rfl⟩
  · rcases List.prefix_or_prefix_of_prefix shorter (List.prefix_append front one) with
      early | ⟨within, rfl⟩
    · exact ⟨part, early.trans whole, inside, absent⟩
    · rw [List.map_append, List.mem_append, not_or] at absent
      by_cases known : first ∈ front.map KeyColumn.name
      · exact ⟨front, whole, known, absent.1⟩
      · have listed : first ∈ one.map KeyColumn.name := by
          have there := (shorter.map KeyColumn.name).subset inside
          rw [List.map_append, List.mem_append] at there
          exact there.resolve_left known
        refine ⟨front ++ two, List.prefix_append _ _, ?_, ?_⟩
        · rw [List.map_append, List.mem_append]
          exact Or.inr (names.mp listed)
        · rw [List.map_append, List.mem_append, not_or]
          exact ⟨absent.1, fun there => untied ⟨listed, others.mpr there⟩⟩
  · have later := (List.prefix_append_right_inj (front ++ one)).mp begins
    refine ⟨front ++ two ++ rest, (List.prefix_append_right_inj _).mpr later, ?_, ?_⟩
    · simpa only [List.map_append, List.mem_append, names] using inside
    · simpa only [List.map_append, List.mem_append, others] using absent

/-- Columns that are recorded at different positions can be recorded in any order, if they
are not recorded again later. -/
theorem recordedKey_reordered (same : one.Perm two)
    (distinct : (one.map KeyColumn.name).Nodup) (apart : (one.map KeyColumn.position).Nodup)
    (untouched : ∀ column ∈ back, column.name ∉ one.map KeyColumn.name) :
    recordedKey (front ++ one ++ back) = recordedKey (front ++ two ++ back) := by
  have order := keyOrder_recordedKey (front ++ one ++ back)
  have names : ∀ name, name ∈ (front ++ one ++ back).map KeyColumn.name ↔
      name ∈ (front ++ two ++ back).map KeyColumn.name := by
    intro name
    simp only [List.map_append, List.mem_append, (same.map KeyColumn.name).mem_iff]
  have kept : ∀ first second, first ≠ second →
      Precedes (front ++ one ++ back) first second →
        Precedes (front ++ two ++ back) first second := by
    rintro first second differ ⟨position, other, here, there, precedes⟩
    refine ⟨position, other, ?_, ?_, ?_⟩
    · rw [← lastPosition?_reordered same distinct, here]
    · rw [← lastPosition?_reordered same distinct, there]
    · rcases precedes with less | ⟨tied, before⟩
      · exact Or.inl less
      · have together : lastPosition? (front ++ one ++ back) first =
            lastPosition? (front ++ one ++ back) second := by rw [here, there, tied]
        refine Or.inr ⟨tied, before.reordered same ?_⟩
        rintro ⟨listed, also⟩
        exact differ (eq_of_lastPosition?_eq distinct apart untouched listed also together)
  have moved : KeyOrder (front ++ two ++ back) (recordedKey (front ++ one ++ back)) := by
    refine ⟨order.nodup, fun name => (order.mem_iff name).trans (names name), ?_⟩
    refine (order.ordered.and order.nodup).imp ?_
    rintro first second ⟨before, differ⟩
    exact kept first second differ before
  exact moved.unique (keyOrder_recordedKey _)

end Reordered

end GraphBatch.Catalog
