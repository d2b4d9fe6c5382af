import GraphBatch.Proofs.Drafting

/-!
# Refusals

Items are drafted one after the other, and the first one that is refused decides
the error. What a single item is refused for is stated where it is drafted; here
stands what is common to reads and writes: the first refusal of a list, and a
table of which no columns are known.
-/

namespace GraphBatch

/-- The first item of a list that is refused at all is refused for the error. -/
def FirstRefusal {α : Type} (refused : α → Error → Prop) (items : List α) (error : Error) :
    Prop :=
  ∃ before item after, items = before ++ item :: after ∧
    (∀ earlier ∈ before, ∀ other, ¬ refused earlier other) ∧ refused item error

namespace FirstRefusal

variable {α : Type} {refused : α → Error → Prop} {item : α} {items : List α} {error : Error}

theorem not_nil : ¬ FirstRefusal refused [] error := by
  rintro ⟨before, item, after, split, _⟩
  cases before <;> cases split

theorem cons_iff :
    FirstRefusal refused (item :: items) error ↔
      refused item error ∨ (∀ other, ¬ refused item other) ∧ FirstRefusal refused items error := by
  constructor
  · rintro ⟨before, found, after, split, fine, fault⟩
    cases before with
    | nil =>
        cases split
        exact Or.inl fault
    | cons first before =>
        rw [List.cons_append] at split
        obtain ⟨rfl, rest⟩ := List.cons.inj split
        exact Or.inr ⟨fine item List.mem_cons_self, before, found, after, rest,
          fun earlier inside => fine earlier (List.mem_cons_of_mem _ inside), fault⟩
  · rintro (fault | ⟨fine, before, found, after, rfl, others, fault⟩)
    · exact ⟨[], item, items, rfl, by simp, fault⟩
    · refine ⟨item :: before, found, after, rfl, ?_, fault⟩
      intro earlier inside
      cases inside with
      | head => exact fine
      | tail _ inside => exact others earlier inside

/-- If nothing is wrong with the item, those after it decide. -/
theorem cons_of_fine (fine : ∀ other, ¬ refused item other) :
    FirstRefusal refused (item :: items) error ↔ FirstRefusal refused items error := by
  rw [cons_iff, or_iff_right (fine error), and_iff_right fine]

theorem none_iff :
    (∀ error, ¬ FirstRefusal refused items error) ↔
      ∀ item ∈ items, ∀ error, ¬ refused item error := by
  induction items with
  | nil => simp [not_nil]
  | cons item items ih =>
      rw [List.forall_mem_cons, ← ih]
      constructor
      · intro never
        have fine : ∀ error, ¬ refused item error :=
          fun error fault => never error (cons_iff.mpr (Or.inl fault))
        exact ⟨fine, fun error later => never error ((cons_of_fine fine).mpr later)⟩
      · rintro ⟨fine, never⟩ error first
        exact never error ((cons_of_fine fine).mp first)

end FirstRefusal

namespace Table

def noColumns (table : Table) (key : String) : Error :=
  .invalidParams ("no fields requested for `" ++ key ++ "` and table `" ++ table.name
    ++ "` has no known columns")

variable {table : Table} {key : String} {requested : Selection} {error : Error}

theorem allColumns_eq_error_iff :
    table.allColumns key = .error error ↔ table.columns = [] ∧ error = table.noColumns key := by
  unfold allColumns
  by_cases bare : table.columns = []
  · rw [if_pos (List.isEmpty_iff.mpr bare), and_iff_right bare]
    exact ⟨fun failed => (Except.error.inj failed).symm, fun same => same ▸ rfl⟩
  · rw [if_neg (by simpa using bare)]
    exact iff_of_false (fun failed => nomatch failed) fun both => bare both.1

theorem readFields_eq_error_iff :
    table.readFields key requested = .error error ↔
      (requested = [] ∧ table.columns = []) ∧ error = table.noColumns key := by
  unfold readFields
  by_cases blank : requested = []
  · rw [if_pos (List.isEmpty_iff.mpr blank), allColumns_eq_error_iff, and_iff_right blank]
  · rw [if_neg (by simpa using blank)]
    exact iff_of_false (fun failed => nomatch failed) fun both => blank both.1.1

theorem returnedFields_eq_error_iff :
    table.returnedFields key requested = .error error ↔
      (requested = [] ∧ table.primaryKey = [] ∧ table.columns = []) ∧
        error = table.noColumns key := by
  unfold returnedFields
  by_cases blank : requested = []
  · rw [if_neg (by simpa using blank)]
    by_cases keyless : table.primaryKey = []
    · rw [if_pos (List.isEmpty_iff.mpr keyless), allColumns_eq_error_iff, and_iff_right blank,
        and_iff_right keyless]
    · rw [if_neg (by simpa using keyless)]
      exact iff_of_false (fun failed => nomatch failed) fun both => keyless both.1.2.1
  · rw [if_pos (by simpa using blank)]
    exact iff_of_false (fun failed => nomatch failed) fun both => blank both.1.1

end Table

end GraphBatch
