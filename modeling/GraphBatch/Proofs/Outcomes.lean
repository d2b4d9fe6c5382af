import GraphBatch.Error.Basic

/-!
# Outcomes

A step after another gives what it gives on what came before, and fails where either of
them fails. What fails exactly for certain errors succeeds in every other case.
-/

namespace GraphBatch.Outcome

variable {ε α β : Type} {outcome : Except ε α}

theorem bind_eq_ok {next : α → Except ε β} {result : β} :
    outcome >>= next = .ok result ↔
      ∃ value, outcome = .ok value ∧ next value = .ok result := by
  cases outcome with
  | error error =>
      constructor
      · intro impossible; cases impossible
      · rintro ⟨value, impossible, _⟩; cases impossible
  | ok value =>
      constructor
      · intro done
        exact ⟨value, rfl, done⟩
      · rintro ⟨_, same, done⟩
        cases same
        exact done

theorem bind_eq_error {next : α → Except ε β} {error : ε} :
    outcome >>= next = .error error ↔
      outcome = .error error ∨ ∃ value, outcome = .ok value ∧ next value = .error error := by
  cases outcome with
  | error fault =>
      constructor
      · intro failed
        cases failed
        exact Or.inl rfl
      · rintro (same | ⟨value, impossible, _⟩)
        · cases same
          rfl
        · cases impossible
  | ok value =>
      constructor
      · intro failed
        exact Or.inr ⟨value, rfl, failed⟩
      · rintro (impossible | ⟨_, same, failed⟩)
        · cases impossible
        · cases same
          exact failed

/-- What never fails succeeds. -/
theorem eq_ok_of_ne_error (fine : ∀ error, outcome ≠ .error error) :
    ∃ value, outcome = .ok value := by
  cases outcome with
  | error error => exact absurd rfl (fine error)
  | ok value => exact ⟨value, rfl⟩

/-- What is known to fail exactly for certain errors succeeds in every other case. -/
theorem exists_ok_iff {refused : ε → Prop}
    (fails : ∀ error, outcome = .error error ↔ refused error) :
    (∃ value, outcome = .ok value) ↔ ∀ error, ¬ refused error := by
  constructor
  · rintro ⟨value, made⟩ error fault
    cases made.symm.trans ((fails error).mpr fault)
  · intro fine
    exact eq_ok_of_ne_error fun error failed => fine error ((fails error).mp failed)

theorem eq_ok_iff {refused : ε → Prop} {value made : α}
    (fails : ∀ error, outcome = .error error ↔ refused error)
    (gives : ∀ value, outcome = .ok value → value = made) :
    outcome = .ok value ↔ (∀ error, ¬ refused error) ∧ value = made := by
  rw [← exists_ok_iff fails]
  constructor
  · intro done
    exact ⟨⟨value, done⟩, gives value done⟩
  · rintro ⟨⟨other, done⟩, rfl⟩
    rw [done, gives other done]

theorem map_eq_ok {change : α → β} {result : β} :
    outcome.map change = .ok result ↔ ∃ value, outcome = .ok value ∧ change value = result := by
  cases outcome with
  | error error =>
      constructor
      · intro impossible; cases impossible
      · rintro ⟨value, impossible, _⟩; cases impossible
  | ok value =>
      constructor
      · intro done
        cases done
        exact ⟨value, rfl, rfl⟩
      · rintro ⟨_, same, rfl⟩
        cases same
        rfl

theorem exists_map_eq_ok {change : α → β} :
    (∃ result, outcome.map change = .ok result) ↔ ∃ value, outcome = .ok value := by
  simp only [map_eq_ok]
  exact ⟨fun ⟨_, value, done, _⟩ => ⟨value, done⟩, fun ⟨value, done⟩ => ⟨_, value, done, rfl⟩⟩

end GraphBatch.Outcome
