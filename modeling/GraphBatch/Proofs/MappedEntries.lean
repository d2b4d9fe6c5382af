import Mathlib.Data.List.Forall2
import GraphBatch.Entries

/-!
# Entries with changed values

A change of every value keeps the names in their places, and it makes no difference
whether entries are changed before or after they are written.
-/

namespace GraphBatch

namespace Entries

variable {α β : Type}

def mapValues (change : α → β) (entries : Entries α) : Entries β :=
  entries.map fun entry => (entry.1, change entry.2)

@[simp] theorem mapValues_nil (change : α → β) : mapValues change [] = [] := rfl

@[simp] theorem mapValues_cons (change : α → β) (entry : String × α) (rest : Entries α) :
    mapValues change (entry :: rest) = (entry.1, change entry.2) :: mapValues change rest := rfl

@[simp] theorem keys_mapValues (change : α → β) (entries : Entries α) :
    (entries.mapValues change).keys = entries.keys := by
  simp [mapValues, keys]

theorem find?_mapValues (change : α → β) (entries : Entries α) (name : String) :
    (entries.mapValues change).find? name = (entries.find? name).map change := by
  induction entries with
  | nil => rfl
  | cons entry rest ih =>
      obtain ⟨first, held⟩ := entry
      by_cases same : first = name
      · simp [find?, same]
      · simp [find?, same, ih]

theorem has_mapValues (change : α → β) (entries : Entries α) (name : String) :
    (entries.mapValues change).has name = entries.has name := by
  rw [has, find?_mapValues, Option.isSome_map, has]

theorem mapValues_put (change : α → β) (entries : Entries α) (name : String) (value : α) :
    (entries.put name value).mapValues change =
      (entries.mapValues change).put name (change value) := by
  induction entries with
  | nil => rfl
  | cons entry rest ih =>
      obtain ⟨first, held⟩ := entry
      by_cases same : first = name
      · simp [put, same]
      · simp [put, same, ih]

theorem mapValues_ofPairs (change : α → β) (pairs : List (String × α)) :
    (ofPairs pairs).mapValues change = ofPairs (mapValues change pairs) := by
  have folded : ∀ held : Entries α,
      (pairs.foldl (fun held pair => held.put pair.1 pair.2) held).mapValues change =
        (mapValues change pairs).foldl (fun held pair => held.put pair.1 pair.2)
          (held.mapValues change) := by
    induction pairs with
    | nil => exact fun _ => rfl
    | cons pair rest ih =>
        intro held
        rw [List.foldl_cons, ih, mapValues_put, mapValues_cons, List.foldl_cons]
  exact folded []

theorem find?_concat (entries : Entries α) (name wanted : String) (value : α) :
    find? (entries ++ [(name, value)]) wanted =
      (entries.find? wanted).or (if name = wanted then some value else none) := by
  induction entries with
  | nil => rfl
  | cons entry rest ih =>
      by_cases same : entry.1 = wanted
      · simp [find?, same]
      · simp [find?, same, ih]

/-- Entries that agree under a change agree pair by pair. -/
theorem forall₂_of_mapValues_eq {change : α → β} {first second : Entries α}
    (same : first.mapValues change = second.mapValues change) :
    List.Forall₂ (fun one other => one.1 = other.1 ∧ change one.2 = change other.2)
      first second := by
  unfold mapValues at same
  rw [← List.forall₂_eq_eq_eq, List.forall₂_map_left_iff, List.forall₂_map_right_iff] at same
  exact same.imp fun _ _ => Prod.mk.inj

end Entries

end GraphBatch
