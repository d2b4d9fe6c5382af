import GraphBatch.Proofs.VariableNames

/-!
# Names of fragments

A fragment's name fixes its table and its discriminator, whatever the table is
called: the digits in front say how many bytes belong to the table. So the
fragments of two reads have one name only if the reads are of one table with one
discriminator, and they agree if their fields have one text.
-/

namespace GraphBatch

namespace GeneratedName

/-- What stands after the table in the name of a fragment. -/
def fragmentEnd (discriminator : String) : String :=
  if discriminator.isEmpty then "_fields" else "_" ++ discriminator ++ "_fields"

theorem forFragment_eq (table discriminator : String) :
    forFragment table discriminator =
      "f" ++ toString table.utf8ByteSize ++ "_" ++ (table ++ fragmentEnd discriminator) := by
  unfold forFragment fragmentEnd
  split <;> simp [String.append_assoc]

theorem length_fragmentEnd_of_filled {discriminator : String}
    (filled : ¬ discriminator.isEmpty = true) : 7 < (fragmentEnd discriminator).length := by
  have some_char : discriminator.length ≠ 0 := by
    intro none_left
    exact filled (String.isEmpty_iff.mpr (String.length_eq_zero_iff.mp none_left))
  have length : (fragmentEnd discriminator).length = 1 + discriminator.length + 7 := by
    rw [fragmentEnd, if_neg filled, String.length_append, String.length_append]
    rfl
  omega

theorem fragmentEnd_inj {first second : String}
    (same : fragmentEnd first = fragmentEnd second) : first = second := by
  by_cases first_blank : first.isEmpty = true
  · by_cases second_blank : second.isEmpty = true
    · rw [String.isEmpty_iff.mp first_blank, String.isEmpty_iff.mp second_blank]
    · have longer := length_fragmentEnd_of_filled second_blank
      rw [← same, fragmentEnd, if_pos first_blank] at longer
      exact absurd longer (by decide)
  · have longer := length_fragmentEnd_of_filled first_blank
    by_cases second_blank : second.isEmpty = true
    · rw [same, fragmentEnd, if_pos second_blank] at longer
      exact absurd longer (by decide)
    · rw [fragmentEnd, if_neg first_blank, fragmentEnd, if_neg second_blank,
        String.append_left_inj, String.append_right_inj] at same
      exact same

/-- Texts that go on alike after equally many bytes begin alike. -/
theorem append_inj_of_size {first second rest other : String}
    (same : first ++ rest = second ++ other) (sizes : first.utf8ByteSize = second.utf8ByteSize) :
    first = second ∧ rest = other := by
  have bytes := congrArg String.toByteArray same
  rw [String.toByteArray_append, String.toByteArray_append] at bytes
  have fronts : first = second := String.toByteArray_inj.mp (ByteArray.append_inj_left bytes sizes)
  rw [fronts, String.append_right_inj] at same
  exact ⟨fronts, same⟩

theorem forFragment_inj {table other discriminator another : String}
    (same : forFragment table discriminator = forFragment other another) :
    table = other ∧ discriminator = another := by
  rw [forFragment_eq, forFragment_eq] at same
  obtain ⟨sizes, rests⟩ := numbered_inj same
  obtain ⟨tables, ends⟩ := append_inj_of_size rests sizes
  exact ⟨tables, fragmentEnd_inj ends⟩

end GeneratedName

theorem FragmentDefinition.render_inj {name table : String} {first second : Selection} :
    render ⟨name, table, first⟩ = render ⟨name, table, second⟩ ↔ first.render = second.render := by
  unfold render
  rw [String.append_right_inj]

namespace Reading

/-- The name and the text of the fragment, if the read asks for one. -/
def namedFragment? (reading : Reading) : Option NamedFragment :=
  reading.fragment?.map fun fragment => ⟨fragment.name, fragment.render⟩

/-- Two reads that ask for one fragment of one table ask for the same fields. Within
a catalog, tables are told apart by their names. -/
def Agrees (first second : Reading) : Prop :=
  ∀ discriminator, first.select.fragment = some discriminator →
    second.select.fragment = some discriminator → first.table.name = second.table.name →
      first.selection.render = second.selection.render

theorem namedFragment?_eq_some {reading : Reading} {fragment : NamedFragment} :
    reading.namedFragment? = some fragment ↔
      ∃ discriminator, reading.select.fragment = some discriminator ∧
        fragment = ⟨GeneratedName.forFragment reading.table.name discriminator,
          FragmentDefinition.render ⟨GeneratedName.forFragment reading.table.name discriminator,
            reading.table.name, reading.selection⟩⟩ := by
  unfold namedFragment? fragment?
  cases reading.select.fragment with
  | none => simp
  | some discriminator => simp [eq_comm]

theorem agrees_iff {first second : Reading} :
    (∀ one ∈ first.namedFragment?, ∀ two ∈ second.namedFragment?, one.Agrees two) ↔
      first.Agrees second := by
  constructor
  · intro agree discriminator first_asks second_asks tables
    have texts := agree _ (namedFragment?_eq_some.mpr ⟨discriminator, first_asks, rfl⟩)
      _ (namedFragment?_eq_some.mpr ⟨discriminator, second_asks, rfl⟩) (by rw [tables])
    dsimp only at texts
    rw [tables, FragmentDefinition.render_inj] at texts
    exact texts
  · intro agree one asked two too same
    obtain ⟨discriminator, first_asks, rfl⟩ := namedFragment?_eq_some.mp asked
    obtain ⟨other, second_asks, rfl⟩ := namedFragment?_eq_some.mp too
    obtain ⟨tables, rfl⟩ := GeneratedName.forFragment_inj same
    dsimp only
    rw [tables, FragmentDefinition.render_inj]
    exact agree discriminator first_asks second_asks tables

theorem fragments_drafts (items : List Reading) (index : Nat) :
    ((drafts items index).map Draft.build).filterMap Build.fragment =
      items.filterMap namedFragment? := by
  have own : ∀ (item : Reading) number,
      (Build.fragment ∘ Draft.build) (item.draft number) = item.namedFragment? := fun _ _ => rfl
  rw [List.filterMap_map]
  exact filterMap_numbered own items index

end Reading

end GraphBatch
