import GraphBatch.Proofs.AskedTree
import GraphBatch.Proofs.FragmentNames

/-!
# Parts of generated names

What a generated name tells. The name of a variable tells the number of its root
field, its table and its slot, because no slot ends in an underscore and another slot;
slots of which one did could not be told apart for some tables. The name of a fragment
tells its table and its discriminator; where the table is called by a name of the
syntax, so is the fragment exactly if the discriminator may stand in a name.
-/

namespace GraphBatch

open Syntax

namespace GeneratedName

/-! ## Variables -/

/-- No slot ends in an underscore and a slot. -/
def SlotsApart (slots : List String) : Prop :=
  ∀ slot ∈ slots, ∀ place ∈ slots, ¬ ('_' :: slot.toList) <:+ place.toList

instance decidableSlotsApart (slots : List String) : Decidable (SlotsApart slots) :=
  inferInstanceAs (Decidable
    (∀ slot ∈ slots, ∀ place ∈ slots, ¬ ('_' :: slot.toList) <:+ place.toList))

theorem suffix_of_tail {more slot place : List Char}
    (same : '_' :: slot = more ++ '_' :: place) :
    (more = [] ∧ slot = place) ∨ ('_' :: place) <:+ slot := by
  cases more with
  | nil => exact Or.inl ⟨rfl, (List.cons.inj same).2⟩
  | cons char more => exact Or.inr ⟨more, (List.cons.inj same).2.symm⟩

/-- Of two different texts that follow an underscore at the end of one name, the longer
one ends in an underscore and the other. -/
theorem suffix_of_tails {table other slot place : List Char}
    (same : table ++ '_' :: slot = other ++ '_' :: place) :
    (table = other ∧ slot = place) ∨ ('_' :: slot) <:+ place ∨ ('_' :: place) <:+ slot := by
  rcases List.append_eq_append_iff.mp same with ⟨more, longer, tail⟩ | ⟨more, longer, tail⟩
  · rcases suffix_of_tail tail with ⟨rfl, slots⟩ | ending
    · rw [List.append_nil] at longer
      exact Or.inl ⟨longer.symm, slots⟩
    · exact Or.inr (Or.inr ending)
  · rcases suffix_of_tail tail with ⟨rfl, slots⟩ | ending
    · rw [List.append_nil] at longer
      exact Or.inl ⟨longer, slots.symm⟩
    · exact Or.inr (Or.inl ending)

/-- The variables of slots tell their parts exactly if the slots are apart. -/
theorem slotsApart_iff {slots : List String} :
    SlotsApart slots ↔
      ∀ slot ∈ slots, ∀ place ∈ slots, ∀ first second table other,
        forVariable first table slot = forVariable second other place →
          first = second ∧ table = other ∧ slot = place := by
  constructor
  · intro apart slot inside place present first second table other same
    obtain ⟨numbers, tails⟩ := forVariable_inj same
    have chars : table.toList ++ '_' :: slot.toList = other.toList ++ '_' :: place.toList := by
      simpa using congrArg String.toList tails
    rcases suffix_of_tails chars with ⟨tables, texts⟩ | ending | ending
    · exact ⟨numbers, String.toList_inj.mp tables, String.toList_inj.mp texts⟩
    · exact absurd ending (apart slot inside place present)
    · exact absurd ending (apart place present slot inside)
  · rintro told slot inside place present ⟨more, ending⟩
    -- What the longer slot has before the shorter one may as well belong to the table.
    have spelled : "_" ++ place = "_" ++ String.ofList more ++ "_" ++ slot := by
      apply String.toList_inj.mp
      simp [← ending]
    have same : forVariable 0 ("_" ++ String.ofList more) slot = forVariable 0 "" place := by
      simp only [forVariable, String.append_assoc, String.empty_append] at spelled ⊢
      rw [spelled]
    have tables := (told slot inside place present 0 0 _ _ same).2.1
    exact absurd (congrArg String.toList tables) (by simp)

/-- A slot `by` could not be told from the slot `order_by` of a shorter table. -/
example : ¬ SlotsApart ["order_by", "by"] := by decide

end GeneratedName

theorem Slot.mem_all (slot : Slot) : slot ∈ Slot.all := by
  cases slot <;> decide

theorem Slot.texts_apart : GeneratedName.SlotsApart (Slot.all.map Slot.text) := by
  decide

namespace GeneratedName

/-- The name of a variable tells its number, its table and its slot. -/
theorem forVariable_eq_iff (first second : Nat) (table other : String) (slot place : Slot) :
    forVariable first table slot.text = forVariable second other place.text ↔
      first = second ∧ table = other ∧ slot = place := by
  constructor
  · intro same
    have inside := fun slot => List.mem_map_of_mem (f := Slot.text) (Slot.mem_all slot)
    obtain ⟨numbers, tables, texts⟩ := slotsApart_iff.mp Slot.texts_apart slot.text (inside slot)
      place.text (inside place) first second table other same
    exact ⟨numbers, tables, Slot.text_injective texts⟩
  · rintro ⟨rfl, rfl, rfl⟩
    rfl

/-! ## Fragments -/

/-- What stands after the table goes on with a name exactly if the discriminator does. -/
theorem continues_fragmentEnd (discriminator : String) :
    continues (fragmentEnd discriminator) = isDiscriminator discriminator := by
  unfold fragmentEnd
  split
  · next blank =>
      rw [String.isEmpty_iff.mp blank]
      rfl
  · have underscore : continues "_" = true := rfl
    have ending : continues "_fields" = true := rfl
    rw [continues_append, continues_append, underscore, ending, Bool.true_and, Bool.and_true]
    rfl

/-- On a table that is called by a name, the fragment is exactly if its discriminator may
stand in a name. -/
theorem isName_forFragment_iff {table discriminator : String} (named : isName table = true) :
    isName (forFragment table discriminator) = true ↔ isDiscriminator discriminator = true := by
  constructor
  · intro valid
    have parts := continues_of_isName valid
    rw [forFragment_eq, continues_append, continues_append table, continues_fragmentEnd] at parts
    obtain ⟨_, ending⟩ := Bool.and_eq_true_iff.mp parts
    exact (Bool.and_eq_true_iff.mp ending).2
  · exact isName_forFragment named

/-- The name of a fragment tells its table and its discriminator, whatever these are. On a
table that is called by a name, the fragment is exactly if its discriminator may stand in
a name. -/
theorem parts_of_forFragment (table other discriminator another : String) :
    (forFragment table discriminator = forFragment other another ↔
        table = other ∧ discriminator = another) ∧
      (isName table = true →
        (isName (forFragment table discriminator) = true ↔
          isDiscriminator discriminator = true)) := by
  refine ⟨⟨forFragment_inj, ?_⟩, isName_forFragment_iff⟩
  rintro ⟨rfl, rfl⟩
  rfl

/-- A table that is called as another table's fragment might be. -/
theorem parts_of_forFragment_lookalike :
    isName "user_fields" = true ∧
      isName (forFragment "user_fields" "2nd") = true ∧
      isName (forFragment "user_fields" "2-nd") = false ∧
      forFragment "user_fields" "" ≠ forFragment "user" "fields" := by
  have named : isName "user_fields" = true := by decide
  have valid := (parts_of_forFragment "user_fields" "user" "2nd" "fields").2 named
  have dashed := (parts_of_forFragment "user_fields" "user" "2-nd" "fields").2 named
  have told := (parts_of_forFragment "user_fields" "user" "" "fields").1
  refine ⟨named, valid.mpr (by decide), ?_, ?_⟩
  · exact Bool.eq_false_iff.mpr (mt dashed.mp (by decide))
  · exact mt told.mp (by decide)

end GeneratedName

end GraphBatch
