import Mathlib.Data.List.Flatten
import Mathlib.Data.List.Nodup
import Mathlib.Data.List.Perm.Subperm
import GraphBatch.Proofs.Composability

/-!
# Names of variables

No two variables that a drafter ever declares have the same name. The digits
before the first underscore of a name are the number of its draft, and numbers
only grow, whether or not the calls that take them succeed; within one draft the
slots differ. So any of the builds can be composed, in any order.
-/

namespace GraphBatch

namespace GeneratedName

/-- The digits of a number end at the first underscore. -/
theorem takeWhile_digits (index : Nat) (rest : List Char) :
    (Nat.toDigits 10 index ++ '_' :: rest).takeWhile (· != '_') = Nat.toDigits 10 index := by
  have digits : ∀ char ∈ Nat.toDigits 10 index, (char != '_') = true := by
    intro char inside
    refine bne_iff_ne.mpr ?_
    rintro rfl
    exact Nat.underscore_not_in_toDigits inside
  rw [List.takeWhile_append_of_pos digits, List.takeWhile_cons_of_neg (by decide),
    List.append_nil]

/-- A name that begins with a number fixes it, and the text after it. -/
theorem numbered_inj {letter rest other : String} {first second : Nat}
    (same : letter ++ toString first ++ "_" ++ rest = letter ++ toString second ++ "_" ++ other) :
    first = second ∧ rest = other := by
  simp only [String.append_assoc] at same
  have tails := congrArg String.toList ((String.append_right_inj letter).mp same)
  have texts : Nat.toDigits 10 first ++ '_' :: rest.toList =
      Nat.toDigits 10 second ++ '_' :: other.toList := by
    simpa [Nat.toString_eq_repr, Nat.toList_repr] using tails
  have digits := congrArg (List.takeWhile (· != '_')) texts
  rw [takeWhile_digits, takeWhile_digits] at digits
  rw [digits] at texts
  have rests := (List.cons.inj (List.append_cancel_left texts)).2
  refine ⟨?_, String.toList_inj.mp rests⟩
  calc
    first = Nat.ofDigitChars 10 (Nat.toDigits 10 first) 0 :=
      Nat.ofDigitChars_ten_toDigits.symm
    _ = Nat.ofDigitChars 10 (Nat.toDigits 10 second) 0 := by rw [digits]
    _ = second := Nat.ofDigitChars_ten_toDigits

/-- A variable's name fixes its number, and the text after it. -/
theorem forVariable_inj {first second : Nat} {table other slot place : String}
    (same : forVariable first table slot = forVariable second other place) :
    first = second ∧ table ++ "_" ++ slot = other ++ "_" ++ place := by
  have apart : ∀ (index : Nat) (table slot : String), forVariable index table slot =
      "v" ++ toString index ++ "_" ++ (table ++ "_" ++ slot) := by
    intro index table slot
    simp [forVariable, String.append_assoc]
  rw [apart, apart] at same
  exact numbered_inj same

end GeneratedName

theorem Slot.text_injective : Function.Injective Slot.text := by
  intro first second same
  cases first <;> cases second <;> first | rfl | exact absurd same (by decide)

/-! ## One draft -/

theorem Slot.nodup_all : Slot.all.Nodup := by decide

theorem Select.nodup_slots (select : Select) (table : Table) :
    ((select.passed table).map Passed.slot).Nodup := by
  rw [select.slots_passed table]
  exact Slot.nodup_all.filter _

theorem Write.nodup_slots (write : Write) (table : Table) (action : Action) :
    ((write.passed table action).map Passed.slot).Nodup := by
  cases present : write.has action with
  | true =>
      rw [Write.slots_passed table present]
      exact Slot.nodup_all.filter _
  | false =>
      rw [Write.passed_of_absent table present]
      exact List.nodup_nil

namespace Draft

def names (draft : Draft) : List String :=
  draft.passed.map fun passed => draft.variableName passed.slot

theorem names_eq_declared (draft : Draft) :
    draft.declared.map Variable.name = draft.names := by
  simp [declared, names]

theorem nodup_names {draft : Draft} (slots : (draft.passed.map Passed.slot).Nodup) :
    draft.names.Nodup := by
  have split : draft.names = (draft.passed.map Passed.slot).map draft.variableName := by
    simp [names]
  rw [split]
  refine slots.map ?_
  intro first second same
  have tails := (GeneratedName.forVariable_inj same).2
  have slots := congrArg String.toList tails
  simp only [String.toList_append] at slots
  exact Slot.text_injective (String.toList_inj.mp (List.append_cancel_left slots))

/-- A draft binds its variables to what it passes; no binding replaces another. -/
theorem bindings_eq {draft : Draft} (slots : (draft.passed.map Passed.slot).Nodup) :
    draft.bindings =
      draft.passed.map fun passed => (draft.variableName passed.slot, passed.value) := by
  refine Entries.ofPairs_of_distinct ?_
  have keys : Entries.keys (draft.passed.map fun passed =>
      (draft.variableName passed.slot, passed.value)) = draft.names := by
    simp [Entries.keys, names]
  rw [Entries.Distinct, keys]
  exact nodup_names slots

/-- A draft binds the variables that it declares, in the same order. -/
theorem keys_bindings {draft : Draft} (slots : (draft.passed.map Passed.slot).Nodup) :
    draft.bindings.keys = draft.names := by
  rw [bindings_eq slots]
  simp [Entries.keys, names]

/-- Drafts whose numbers ascend from one number up to another, and which pass
every slot at most once. -/
structure Ascending (first next : Nat) (drafts : List Draft) : Prop where
  bounded : ∀ draft ∈ drafts, first ≤ draft.index ∧ draft.index < next
  ordered : drafts.Pairwise fun earlier later => earlier.index < later.index
  slots : ∀ draft ∈ drafts, (draft.passed.map Passed.slot).Nodup

namespace Ascending

variable {first middle next : Nat} {drafts others : List Draft}

theorem nil : Ascending first next [] := ⟨by simp, .nil, by simp⟩

theorem single (draft : Draft) (slots : (draft.passed.map Passed.slot).Nodup) :
    Ascending draft.index (draft.index + 1) [draft] :=
  ⟨by simp, List.pairwise_singleton _ _, by simpa using slots⟩

theorem append (start : first ≤ middle) (stop : middle ≤ next)
    (before : Ascending first middle drafts) (after : Ascending middle next others) :
    Ascending first next (drafts ++ others) where
  bounded := by
    intro draft inside
    rcases List.mem_append.mp inside with early | late
    · have bound := before.bounded draft early
      exact ⟨bound.1, Nat.lt_of_lt_of_le bound.2 stop⟩
    · have bound := after.bounded draft late
      exact ⟨Nat.le_trans start bound.1, bound.2⟩
  ordered := by
    refine List.pairwise_append.mpr ⟨before.ordered, after.ordered, ?_⟩
    intro one early other late
    exact Nat.lt_of_lt_of_le (before.bounded one early).2 (after.bounded other late).1
  slots := by
    intro draft inside
    rcases List.mem_append.mp inside with early | late
    · exact before.slots draft early
    · exact after.slots draft late

/-- Ascending drafts declare no name twice. -/
theorem nodup_names (ascending : Ascending first next drafts) :
    (drafts.flatMap names).Nodup := by
  refine List.nodup_flatMap.mpr ⟨fun draft inside =>
    Draft.nodup_names (ascending.slots draft inside), ?_⟩
  refine ascending.ordered.imp ?_
  intro earlier later lower name early late
  obtain ⟨_, _, rfl⟩ := List.mem_map.mp early
  obtain ⟨_, _, same⟩ := List.mem_map.mp late
  have equal := (GeneratedName.forVariable_inj same).1
  omega

end Ascending

end Draft

/-! ## A run of calls -/

theorem Draft.ascending_numbered {α : Type} {draft : α → Nat → Draft}
    (numbered : ∀ item index, (draft item index).index = index)
    (slots : ∀ item index, ((draft item index).passed.map Passed.slot).Nodup)
    (items : List α) (index : Nat) :
    Draft.Ascending index (index + items.length)
      ((items.zipIdx index).map fun numbered => draft numbered.1 numbered.2) := by
  induction items generalizing index with
  | nil => exact .nil
  | cons item rest ih =>
      have first : Draft.Ascending index (index + 1) [draft item index] := by
        have alone := Draft.Ascending.single (draft item index) (slots item index)
        rw [numbered] at alone
        exact alone
      have later := ih (index + 1)
      rw [List.zipIdx_cons, List.map_cons, List.length_cons, ← Nat.add_assoc, Nat.add_right_comm]
      exact first.append (Nat.le_succ index) (Nat.le_add_right _ _) later

theorem Reading.drafts_ascending (items : List Reading) (index : Nat) :
    Draft.Ascending index (index + items.length) (Reading.drafts items index) :=
  Draft.ascending_numbered (fun _ _ => rfl)
    (fun reading _ => reading.select.nodup_slots reading.table) items index

theorem Writing.drafts_ascending (items : List Writing) (index : Nat) :
    Draft.Ascending index (index + items.length) (Writing.drafts items index) :=
  Draft.ascending_numbered (fun _ _ => rfl)
    (fun writing _ => writing.write.nodup_slots writing.table writing.action) items index

/-- A read never gives a number back. -/
theorem Select.le_draft (select : Select) (catalog : Catalog) (key : String) (index : Nat) :
    index ≤ (select.draft catalog key index).1 := by
  unfold Select.draft
  split
  · exact Nat.le_refl index
  · exact Nat.le_succ index

namespace Write

variable {write : Write} {key : String} {table : Table}

theorem le_draftOf {index next : Nat} {action : Action} {outcome : Outcome Draft}
    (tried : write.draftOf key table index action = some (next, outcome)) : index ≤ next := by
  rcases write.draftOf_cases key table index action with
    ⟨_, drafted⟩ | ⟨_, _, drafted⟩ | ⟨_, _, drafted⟩
  · cases tried.symm.trans drafted
  · cases tried.symm.trans drafted
    exact Nat.le_refl index
  · cases tried.symm.trans drafted
    exact Nat.le_succ index

theorem le_draftsOf (actions : List Action) (index : Nat) :
    index ≤ (write.draftsOf key table actions index).1 := by
  induction actions generalizing index with
  | nil => exact Nat.le_refl index
  | cons action rest ih =>
      unfold draftsOf
      split
      · exact ih index
      · rename_i next error tried
        exact le_draftOf tried
      · rename_i next draft tried
        have later := Nat.le_trans (le_draftOf tried) (ih next)
        split
        · rename_i last error stopped
          rw [stopped] at later
          exact later
        · rename_i last drafts made
          rw [made] at later
          exact later

/-- A write never gives numbers back, even if one of its actions is refused. -/
theorem le_drafts (write : Write) (catalog : Catalog) (key : String) (index : Nat) :
    index ≤ (write.drafts catalog key index).1 := by
  unfold drafts
  split
  · exact Nat.le_refl index
  · exact le_draftsOf Action.all index

end Write

namespace Drafter

/-- One call: numbers only grow, and what is built has numbers in between. -/
theorem call_ascending {drafter after : Drafter} {call : DraftCall}
    {outcome : Outcome (List Build)} (called : drafter.call call = (after, outcome)) :
    drafter.next ≤ after.next ∧ ∀ builds, outcome = .ok builds →
      ∃ drafts, builds = drafts.map Draft.build ∧
        Draft.Ascending drafter.next after.next drafts := by
  cases call with
  | read key select =>
      have grown := select.le_draft drafter.catalog key drafter.next
      simp only [Drafter.call] at called
      rcases tried : select.draft drafter.catalog key drafter.next with ⟨next, drafted⟩
      rw [tried] at called grown
      cases called
      refine ⟨grown, ?_⟩
      intro builds made
      cases drafted with
      | error error => cases made
      | ok draft =>
          cases made
          obtain ⟨_, table, _, numbered, rfl⟩ := Select.draft_eq_ok tried
          refine ⟨[_], rfl, ?_⟩
          rw [numbered]
          exact .single (Reading.draft ⟨key, table, select⟩ drafter.next)
            (select.nodup_slots table)
  | write key write =>
      have grown := write.le_drafts drafter.catalog key drafter.next
      simp only [Drafter.call] at called
      rcases tried : write.drafts drafter.catalog key drafter.next with ⟨next, drafted⟩
      rw [tried] at called grown
      cases called
      refine ⟨grown, ?_⟩
      intro builds made
      cases drafted with
      | error error => cases made
      | ok drafts =>
          cases made
          obtain ⟨table, _, numbered, rfl⟩ := Write.drafts_eq_ok tried
          refine ⟨_, rfl, ?_⟩
          rw [numbered]
          exact Writing.drafts_ascending _ _

/-- A run of calls: the builds of all calls together have ascending numbers. -/
theorem calls_ascending {drafter after : Drafter} {calls : List DraftCall}
    {builds : List Build} (called : drafter.calls calls = (after, builds)) :
    drafter.next ≤ after.next ∧ ∃ drafts, builds = drafts.map Draft.build ∧
      Draft.Ascending drafter.next after.next drafts := by
  induction calls generalizing drafter after builds with
  | nil =>
      cases called
      exact ⟨Nat.le_refl _, [], rfl, .nil⟩
  | cons first rest ih =>
      unfold Drafter.calls at called
      rcases one : drafter.call first with ⟨middle, outcome⟩
      rcases others : middle.calls rest with ⟨last, later⟩
      rw [one] at called
      dsimp only at called
      rw [others] at called
      obtain ⟨start, made⟩ := call_ascending one
      obtain ⟨stop, drafts, rfl, ascending⟩ := ih others
      cases outcome with
      | error error =>
          cases called
          have none_made : Draft.Ascending drafter.next middle.next [] := .nil
          exact ⟨Nat.le_trans start stop, drafts, rfl,
            none_made.append start stop ascending⟩
      | ok first_builds =>
          cases called
          obtain ⟨first_drafts, rfl, before⟩ := made first_builds rfl
          exact ⟨Nat.le_trans start stop, first_drafts ++ drafts, by rw [List.map_append],
            before.append start stop ascending⟩

end Drafter

namespace Document

theorem emptyBatch_ne_repeatedVariable (kind : OperationKind) (name : String) :
    emptyBatch kind ≠ repeatedVariable name := by
  intro same
  have texts := congrArg String.toList (Cause.invalidParams.inj (congrArg Error.outer same))
  cases kind <;> simp [OperationKind.keyword] at texts

theorem conflictingFragment_ne_repeatedVariable (fragment name : String) :
    conflictingFragment fragment ≠ repeatedVariable name := by
  intro same
  have texts := congrArg String.toList (Cause.invalidParams.inj (congrArg Error.outer same))
  simp at texts

/-- Drafts with ascending numbers bind no name twice. -/
theorem nodup_boundNames {first next : Nat} {drafts : List Draft}
    (ascending : Draft.Ascending first next drafts) :
    (boundNames (drafts.map Draft.build)).Nodup := by
  have keys : boundNames (drafts.map Draft.build) = drafts.flatMap Draft.names := by
    rw [boundNames, List.flatMap_map]
    exact List.flatMap_congr fun draft inside => Draft.keys_bindings (ascending.slots draft inside)
  rw [keys]
  exact ascending.nodup_names

/-- Drafts with ascending numbers compose in any choice and order without a
variable that is declared twice. -/
theorem compose_ne_repeatedVariable {first next : Nat} {drafts : List Draft}
    (ascending : Draft.Ascending first next drafts) (kind : OperationKind)
    {chosen : List Build} (from_drafts : chosen.Subperm (drafts.map Draft.build))
    (name : String) :
    compose kind chosen ≠ .error (repeatedVariable name) := by
  have apart : (boundNames chosen).Nodup := by
    obtain ⟨selected, reordered, inside⟩ := from_drafts
    have all_apart := nodup_boundNames ascending
    exact (reordered.flatMap_right _).nodup_iff.mp (all_apart.sublist (inside.flatMap _))
  intro failed
  rcases (compose_eq_error_iff_of_nodup apart).mp failed with ⟨_, same⟩ | ⟨fragment, _, same⟩
  · exact emptyBatch_ne_repeatedVariable kind name same.symm
  · exact conflictingFragment_ne_repeatedVariable fragment.name name same.symm

end Document

/-- Over any run of calls, failing ones included, no two variables of the builds
that are handed out have one name, every build binds what it declares, and no
choice of the builds fails to compose for a variable that is declared twice. -/
theorem variables_of_calls (catalog : Catalog) (calls : List DraftCall) :
    (((((Drafter.ofCatalog catalog).calls calls).2.flatMap Build.declared).map
      Variable.name).Nodup) ∧
    (∀ build ∈ ((Drafter.ofCatalog catalog).calls calls).2,
      build.bindings.keys = build.declared.map Variable.name) ∧
    ∀ (kind : OperationKind) (chosen : List Build),
      chosen.Subperm ((Drafter.ofCatalog catalog).calls calls).2 →
      ∀ name, Document.compose kind chosen ≠ .error (Document.repeatedVariable name) := by
  rcases called : (Drafter.ofCatalog catalog).calls calls with ⟨after, builds⟩
  obtain ⟨_, drafts, rfl, ascending⟩ := Drafter.calls_ascending called
  refine ⟨?_, ?_, ?_⟩
  · have names : ((drafts.map Draft.build).flatMap Build.declared).map Variable.name =
        drafts.flatMap Draft.names := by
      rw [List.map_flatMap, List.flatMap_map]
      exact List.flatMap_congr fun draft _ => draft.names_eq_declared
    rw [names]
    exact ascending.nodup_names
  · intro build inside
    obtain ⟨draft, made, rfl⟩ := List.mem_map.mp inside
    exact (Draft.keys_bindings (ascending.slots draft made)).trans
      draft.names_eq_declared.symm
  · intro kind chosen from_builds name
    exact Document.compose_ne_repeatedVariable ascending kind from_builds name

/-- Tables whose names look like parts of the names of variables. -/
def numberedCatalog : Catalog where
  tables := [
    ("a", ⟨"a", .baseTable, [], ["id"]⟩),
    ("1_a", ⟨"1_a", .baseTable, [("id", ⟨"id", "integer", "int4"⟩)], []⟩)]
  distinct := by decide
  named := by decide

/-- Calls of which the first fails with a number taken, and the third after its
insertion was drafted. -/
def interruptedCalls : List DraftCall := [
  .read "a" .empty,
  .write "a" ⟨none, none, some (.ofFilter .empty)⟩,
  .write "1_a" ⟨some (.ofObjects .empty), some (.ofFilter .empty), none⟩,
  .read "1_a" { Select.empty with filter := some .empty },
  .write "a" ⟨none, none, some (.ofFilter .empty)⟩]

/-- The three builds of an interrupted run compose backwards. -/
theorem variables_of_calls_interrupted :
    (((Drafter.ofCatalog numberedCatalog).calls interruptedCalls).2.flatMap
        Build.declared).map Variable.name = ["v1_a_where", "v3_1_a_where", "v4_a_where"] ∧
      ∀ name, Document.compose .query
        ((Drafter.ofCatalog numberedCatalog).calls interruptedCalls).2.reverse ≠
          .error (Document.repeatedVariable name) :=
  ⟨rfl, (variables_of_calls numberedCatalog interruptedCalls).2.2 .query _
    (List.reverse_perm _).subperm⟩

end GraphBatch
