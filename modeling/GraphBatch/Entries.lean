/-!
# Ordered entries

Named values in the order in which their names first appeared. Writing under a
name that is already present replaces its value and keeps its place; writing
under a new name appends. The main statements say what `put` does to look-up
and to the list of names, and that it keeps the names distinct.
-/

namespace GraphBatch

/-- Named values, in the order of first appearance of their names. -/
abbrev Entries (α : Type) := List (String × α)

namespace Entries

variable {α β : Type}

def keys (entries : Entries α) : List String :=
  entries.map Prod.fst

def values (entries : Entries α) : List α :=
  entries.map Prod.snd

def find? : Entries α → String → Option α
  | [], _ => none
  | (name, value) :: rest, wanted =>
      if name = wanted then some value else find? rest wanted

def has (entries : Entries α) (name : String) : Bool :=
  (entries.find? name).isSome

/-- Writes a value: in place under a name that is present, else at the end. -/
def put : Entries α → String → α → Entries α
  | [], name, value => [(name, value)]
  | (first, held) :: rest, name, value =>
      if first = name then (first, value) :: rest
      else (first, held) :: put rest name value

/-- Changes the value under the first occurrence of a name, if there is one. -/
def adjust : Entries α → String → (α → α) → Entries α
  | [], _, _ => []
  | (first, held) :: rest, name, change =>
      if first = name then (first, change held) :: rest
      else (first, held) :: adjust rest name change

/-- Takes out the first entry under a name, if there is one. -/
def without : Entries α → String → Entries α
  | [], _ => []
  | (first, held) :: rest, name =>
      if first = name then rest else (first, held) :: without rest name

/-- Writes pairs one after the other: a repeated name keeps its first place and
takes its last value. -/
def ofPairs (pairs : List (String × α)) : Entries α :=
  pairs.foldl (fun entries pair => entries.put pair.1 pair.2) []

/-- No name occurs twice. -/
def Distinct (entries : Entries α) : Prop :=
  entries.keys.Nodup

instance (entries : Entries α) : Decidable entries.Distinct :=
  inferInstanceAs (Decidable entries.keys.Nodup)

@[simp] theorem find?_nil (name : String) :
    find? ([] : Entries α) name = none := rfl

@[simp] theorem keys_nil : keys ([] : Entries α) = [] := rfl

@[simp] theorem keys_cons (pair : String × α) (rest : Entries α) :
    keys (pair :: rest) = pair.1 :: keys rest := rfl

@[simp] theorem keys_append (first second : Entries α) :
    keys (first ++ second) = keys first ++ keys second :=
  List.map_append

theorem find?_eq_none_iff (entries : Entries α) (name : String) :
    entries.find? name = none ↔ name ∉ entries.keys := by
  induction entries with
  | nil => simp
  | cons pair rest ih =>
      obtain ⟨first, held⟩ := pair
      by_cases same : first = name
      · simp [find?, same]
      · simp [find?, same, ih, Ne.symm same]

theorem has_eq_false_iff (entries : Entries α) (name : String) :
    entries.has name = false ↔ name ∉ entries.keys := by
  rw [← find?_eq_none_iff, has]
  cases entries.find? name <;> simp

theorem mem_of_find? {entries : Entries α} {name : String} {value : α}
    (found : entries.find? name = some value) : (name, value) ∈ entries := by
  induction entries with
  | nil => simp at found
  | cons pair rest ih =>
      obtain ⟨first, held⟩ := pair
      by_cases same : first = name
      · simp [find?, same] at found
        simp [same, found]
      · simp only [find?, same, if_false] at found
        exact List.mem_cons_of_mem _ (ih found)

@[simp] theorem find?_put_self (entries : Entries α) (name : String) (value : α) :
    (entries.put name value).find? name = some value := by
  induction entries with
  | nil => simp [put, find?]
  | cons pair rest ih =>
      obtain ⟨first, held⟩ := pair
      by_cases same : first = name <;> simp [put, find?, same, ih]

theorem find?_put_ne (entries : Entries α) {name other : String} (value : α)
    (differ : name ≠ other) :
    (entries.put name value).find? other = entries.find? other := by
  induction entries with
  | nil => simp [put, find?, differ]
  | cons pair rest ih =>
      obtain ⟨first, held⟩ := pair
      by_cases same : first = name
      · simp [put, find?, same, differ]
      · simp [put, find?, same, ih]

theorem put_of_not_mem (entries : Entries α) {name : String} (value : α)
    (absent : name ∉ entries.keys) :
    entries.put name value = entries ++ [(name, value)] := by
  induction entries with
  | nil => rfl
  | cons pair rest ih =>
      obtain ⟨first, held⟩ := pair
      simp only [keys_cons, List.mem_cons, not_or] at absent
      have differ : first ≠ name := fun same => absent.1 same.symm
      simp [put, differ, ih absent.2]

theorem find?_append_of_not_mem (first second : Entries α) {name : String}
    (absent : name ∉ first.keys) :
    find? (first ++ second) name = second.find? name := by
  induction first with
  | nil => rfl
  | cons pair rest ih =>
      simp only [keys_cons, List.mem_cons, not_or] at absent
      simp [find?, Ne.symm absent.1, ih absent.2]

theorem put_append_of_not_mem (first second : Entries α) {name : String} (value : α)
    (absent : name ∉ first.keys) :
    put (first ++ second) name value = first ++ second.put name value := by
  induction first with
  | nil => rfl
  | cons pair rest ih =>
      simp only [keys_cons, List.mem_cons, not_or] at absent
      simp [put, Ne.symm absent.1, ih absent.2]

theorem find?_append_of_mem (first second : Entries α) {name : String}
    (present : name ∈ first.keys) :
    find? (first ++ second) name = first.find? name := by
  induction first with
  | nil => simp at present
  | cons pair rest ih =>
      by_cases same : pair.1 = name
      · simp [find?, same]
      · simp only [keys_cons, List.mem_cons, Ne.symm same, false_or] at present
        simp [find?, same, ih present]

theorem put_append_of_mem (first second : Entries α) {name : String} (value : α)
    (present : name ∈ first.keys) :
    put (first ++ second) name value = first.put name value ++ second := by
  induction first with
  | nil => simp at present
  | cons pair rest ih =>
      by_cases same : pair.1 = name
      · simp [put, same]
      · simp only [keys_cons, List.mem_cons, Ne.symm same, false_or] at present
        simp [put, same, ih present]

/-- The second of two values under one name is the one that stays. -/
theorem put_put (entries : Entries α) (name : String) (value last : α) :
    (entries.put name value).put name last = entries.put name last := by
  induction entries with
  | nil => simp [put]
  | cons pair rest ih =>
      by_cases same : pair.1 = name <;> simp [put, same, ih]

/-- Where a name stands does not depend on the value that is written. -/
theorem exists_put_eq (entries : Entries α) (name : String) :
    ∃ before after, ∀ value, entries.put name value = before ++ (name, value) :: after := by
  induction entries with
  | nil => exact ⟨[], [], fun _ => rfl⟩
  | cons pair rest ih =>
      by_cases same : pair.1 = name
      · exact ⟨[], rest, fun _ => by simp [put, same]⟩
      · obtain ⟨before, after, placed⟩ := ih
        exact ⟨pair :: before, after, fun value => by simp [put, same, placed value]⟩

theorem mem_put {entries : Entries α} {name : String} {value : α} {pair : String × α}
    (inside : pair ∈ entries.put name value) : pair = (name, value) ∨ pair ∈ entries := by
  induction entries with
  | nil => exact Or.inl (List.mem_singleton.mp inside)
  | cons first rest ih =>
      unfold put at inside
      split at inside
      · rename_i same
        rcases List.mem_cons.mp inside with here | later
        · exact Or.inl (by rw [here, same])
        · exact Or.inr (List.mem_cons_of_mem _ later)
      · rcases List.mem_cons.mp inside with here | later
        · exact Or.inr (here ▸ List.mem_cons_self)
        · exact (ih later).imp_right (List.mem_cons_of_mem _)

theorem keys_put_of_mem (entries : Entries α) {name : String} (value : α)
    (present : name ∈ entries.keys) :
    (entries.put name value).keys = entries.keys := by
  induction entries with
  | nil => simp at present
  | cons pair rest ih =>
      obtain ⟨first, held⟩ := pair
      by_cases same : first = name
      · simp [put, same]
      · simp only [keys_cons, List.mem_cons] at present
        have inside : name ∈ keys rest :=
          present.resolve_left fun equal => same equal.symm
        simp [put, same, ih inside]

theorem keys_put (entries : Entries α) (name : String) (value : α) :
    (entries.put name value).keys =
      if name ∈ entries.keys then entries.keys else entries.keys ++ [name] := by
  by_cases present : name ∈ entries.keys
  · rw [if_pos present, keys_put_of_mem entries value present]
  · rw [if_neg present, put_of_not_mem entries value present, keys_append, keys_cons, keys_nil]

theorem mem_keys_put (entries : Entries α) (name : String) (value : α) {other : String} :
    other ∈ (entries.put name value).keys ↔ other ∈ entries.keys ∨ other = name := by
  rw [keys_put]
  split
  · rename_i present
    exact (or_iff_left_of_imp fun same => same ▸ present).symm
  · rw [List.mem_append, List.mem_singleton]

theorem find?_put (entries : Entries α) (name other : String) (value : α) :
    (entries.put name value).find? other =
      if name = other then some value else entries.find? other := by
  by_cases same : name = other
  · rw [if_pos same, ← same, find?_put_self]
  · rw [if_neg same, find?_put_ne entries value same]

theorem find?_without_ne (entries : Entries α) {name other : String} (differ : name ≠ other) :
    (entries.without name).find? other = entries.find? other := by
  induction entries with
  | nil => rfl
  | cons pair rest ih =>
      obtain ⟨first, held⟩ := pair
      by_cases here : first = name
      · simp [without, find?, here, differ]
      · simp [without, find?, here, ih]

theorem keys_adjust (entries : Entries α) (name : String) (change : α → α) :
    (entries.adjust name change).keys = entries.keys := by
  induction entries with
  | nil => rfl
  | cons pair rest ih =>
      obtain ⟨first, held⟩ := pair
      by_cases same : first = name
      · simp [adjust, same]
      · simp [adjust, same, ih]

namespace Distinct

/-- Writing keeps names apart. -/
theorem put {entries : Entries α} (distinct : entries.Distinct)
    (name : String) (value : α) :
    (entries.put name value).Distinct := by
  unfold Distinct
  by_cases present : name ∈ entries.keys
  · rw [keys_put_of_mem entries value present]
    exact distinct
  · rw [put_of_not_mem entries value present, keys_append]
    refine List.nodup_append.mpr ⟨distinct, by simp, ?_⟩
    intro first inside second last same
    rw [keys_cons, keys_nil, List.mem_singleton] at last
    rw [same, last] at inside
    exact present inside

/-- Changing a value keeps names apart. -/
theorem adjust {entries : Entries α} (distinct : entries.Distinct)
    (name : String) (change : α → α) :
    (entries.adjust name change).Distinct := by
  unfold Distinct
  rw [keys_adjust]
  exact distinct

theorem foldl_put {entries : Entries α} (distinct : entries.Distinct)
    (pairs : List (String × α)) :
    Distinct (pairs.foldl (fun held pair => Entries.put held pair.1 pair.2) entries) := by
  induction pairs generalizing entries with
  | nil => exact distinct
  | cons pair rest ih => exact ih (distinct.put pair.1 pair.2)

end Distinct

/-- Entries written one after the other have distinct names. -/
theorem distinct_ofPairs (pairs : List (String × α)) : (ofPairs pairs).Distinct := by
  have start : Distinct ([] : Entries α) := List.nodup_nil
  exact start.foldl_put pairs

theorem foldl_put_of_distinct (entries pairs : Entries α)
    (distinct : Distinct (entries ++ pairs)) :
    pairs.foldl (fun held pair => put held pair.1 pair.2) entries = entries ++ pairs := by
  induction pairs generalizing entries with
  | nil => simp
  | cons pair rest ih =>
      have absent : pair.1 ∉ entries.keys := by
        intro inside
        rw [Distinct, keys_append, keys_cons] at distinct
        exact (List.nodup_append.mp distinct).2.2 _ inside _ List.mem_cons_self rfl
      rw [List.foldl_cons, put_of_not_mem entries pair.2 absent, ih]
      · simp
      · simpa using distinct

theorem ofPairs_of_distinct {pairs : Entries α} (distinct : pairs.Distinct) :
    ofPairs pairs = pairs :=
  foldl_put_of_distinct [] pairs distinct

end Entries

end GraphBatch
