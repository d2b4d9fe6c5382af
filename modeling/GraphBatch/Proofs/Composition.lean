import GraphBatch.Document.Basic
import GraphBatch.Proofs.Drafting

/-!
# Composition that succeeds

A document that was composed has the parts of its builds, in order. What decides
whether builds compose at all is `gather`, which sees their fragments and their
bindings and nothing else.
-/

namespace GraphBatch.Document

/-- A composed document has at least one build, and its parts are those of its
builds in order. -/
theorem compose_eq_ok {kind : OperationKind} {builds : List Build} {document : Document}
    (composed : compose kind builds = .ok document) :
    builds ≠ [] ∧ ∃ fragments values,
      gather [] [] builds = .ok (fragments, values) ∧
      document = {
        kind := kind
        operationName := GeneratedName.forOperation (builds.map Build.operationName)
        text := fragmentsText fragments
          ++ operationText kind (GeneratedName.forOperation (builds.map Build.operationName))
              (builds.flatMap Build.declared) (builds.map Build.selection)
        values := values
        flatPaths := builds.filterMap Build.flatPath } := by
  unfold compose at composed
  split at composed
  · cases composed
  · rename_i filled
    obtain ⟨⟨fragments, values⟩, gathered, made⟩ := Outcome.bind_eq_ok.mp composed
    cases made
    exact ⟨by simpa using filled, fragments, values, gathered, rfl⟩

/-- A compiled batch of reads has a root field for every read, in order, and every
read has a usable discriminator. -/
theorem ofReads_eq_ok {kind : OperationKind} {catalog : Catalog} {query : Query}
    {document : Document} (compiled : ofReads kind catalog query = .ok document) :
    (readings catalog query.tables).map Reading.key = query.tables.keys ∧
      (∀ entry ∈ query.tables, entry.2.hasDiscriminator = true) ∧
      compose kind ((Reading.drafts (readings catalog query.tables) 0).map Draft.build) =
        .ok document := by
  obtain ⟨drafts, drafted, composed⟩ := Outcome.bind_eq_ok.mp compiled
  obtain ⟨entries, valid, rfl⟩ := draftReads_eq_ok drafted
  have keys := congrArg (List.map Prod.fst) entries
  rw [List.map_map] at keys
  exact ⟨keys, valid, composed⟩

/-- A compiled batch of writes has a root field for every action that is present,
in order. -/
theorem ofMutation_eq_ok {catalog : Catalog} {mutation : Mutation} {document : Document}
    (compiled : ofMutation catalog mutation = .ok document) :
    (∀ entry ∈ mutation.tables, ∃ table, catalog.get? entry.1 = some table) ∧
      compose .mutation ((Writing.drafts (writings catalog mutation.tables) 0).map Draft.build) =
        .ok document := by
  obtain ⟨drafts, drafted, composed⟩ := Outcome.bind_eq_ok.mp compiled
  obtain ⟨known, rfl⟩ := draftWrites_eq_ok drafted
  exact ⟨known, composed⟩

/-! ## Bindings that do not meet -/

/-- Bindings of new names are added at the end. -/
theorem addBindings_of_nodup {values pairs : Entries Json}
    (apart : (values.keys ++ pairs.keys).Nodup) :
    addBindings values pairs = .ok (values ++ pairs) := by
  induction pairs generalizing values with
  | nil => simp [addBindings]
  | cons pair rest ih =>
      obtain ⟨name, value⟩ := pair
      have absent : name ∉ values.keys := by
        intro inside
        exact (List.nodup_append.mp apart).2.2 _ inside _ List.mem_cons_self rfl
      have longer : ((values ++ [(name, value)] : Entries Json).keys ++
          Entries.keys rest).Nodup := by
        simpa using apart
      rw [addBindings, (Entries.has_eq_false_iff values name).mpr absent,
        Entries.put_of_not_mem values value absent]
      simpa using ih longer

/-! ## Fragments that are used twice -/

def distinctFragments : List FragmentDefinition → List FragmentDefinition
  | [] => []
  | fragment :: rest =>
      fragment :: (distinctFragments rest).filter fun other => other.name ≠ fragment.name

theorem nodup_distinctFragments (fragments : List FragmentDefinition) :
    ((distinctFragments fragments).map FragmentDefinition.name).Nodup := by
  induction fragments with
  | nil => exact List.nodup_nil
  | cons fragment rest ih =>
      refine List.nodup_cons.mpr ⟨?_, ih.sublist (List.filter_sublist.map _)⟩
      intro again
      obtain ⟨other, kept, same⟩ := List.mem_map.mp again
      have apart := (List.mem_filter.mp kept).2
      rw [same] at apart
      simp at apart

theorem mem_of_mem_distinctFragments {fragments : List FragmentDefinition}
    {fragment : FragmentDefinition} (inside : fragment ∈ distinctFragments fragments) :
    fragment ∈ fragments := by
  induction fragments with
  | nil => exact inside
  | cons first rest ih =>
      cases inside with
      | head => exact List.mem_cons_self
      | tail _ later => exact List.mem_cons_of_mem _ (ih (List.mem_filter.mp later).1)

def fragmentTexts (fragments : List FragmentDefinition) : Entries String :=
  fragments.map fun fragment => (fragment.name, fragment.render)

/-- Adding the fragment of a draft: an unknown one is appended, and a known one has
the text that is known. -/
theorem addFragment_eq_ok {known added : Entries String} {fragment : FragmentDefinition}
    (joined : addFragment known (some ⟨fragment.name, fragment.render⟩) = .ok added) :
    (fragment.name ∉ known.keys ∧ added = known ++ fragmentTexts [fragment]) ∨
      ((fragment.name, fragment.render) ∈ known ∧ added = known) := by
  unfold addFragment at joined
  dsimp only at joined
  split at joined
  · rename_i unknown
    cases joined
    have absent := (Entries.find?_eq_none_iff known fragment.name).mp unknown
    exact Or.inl ⟨absent, Entries.put_of_not_mem known fragment.render absent⟩
  · rename_i text found
    split at joined
    · rename_i same
      cases joined
      refine Or.inr ⟨?_, rfl⟩
      rw [← same]
      exact Entries.mem_of_find? found
    · cases joined

theorem filter_distinctFragments_of_fresh {known : Entries String}
    {fragment : FragmentDefinition} (fresh : fragment.name ∉ known.keys)
    (rest : List FragmentDefinition) :
    (distinctFragments (fragment :: rest)).filter (fun other => other.name ∉ known.keys) =
      fragment :: (distinctFragments rest).filter fun other =>
        other.name ∉ (known ++ fragmentTexts [fragment] : Entries String).keys := by
  rw [distinctFragments, List.filter_cons_of_pos (by simpa using fresh), List.filter_filter]
  refine congrArg (List.cons fragment) (List.filter_congr ?_)
  intro other _
  simp [fragmentTexts]

theorem filter_distinctFragments_of_mem {known : Entries String}
    {fragment : FragmentDefinition} (present : fragment.name ∈ known.keys)
    (rest : List FragmentDefinition) :
    (distinctFragments (fragment :: rest)).filter (fun other => other.name ∉ known.keys) =
      (distinctFragments rest).filter fun other => other.name ∉ known.keys := by
  rw [distinctFragments, List.filter_cons_of_neg (by simpa using present), List.filter_filter]
  refine List.filter_congr ?_
  intro other _
  by_cases same : other.name = fragment.name
  · simp [same, present]
  · simp [same]

/-- The fragments of drafts that compose: those of new names are added once, in the
order of their first use, and no other has a text of its own. -/
theorem gather_fragments {known gathered : Entries String} {values bound : Entries Json}
    {drafts : List Draft}
    (composed : gather known values (drafts.map Draft.build) = .ok (gathered, bound)) :
    gathered = known ++ fragmentTexts ((distinctFragments (drafts.filterMap Draft.fragment)).filter
        fun fragment => fragment.name ∉ known.keys) ∧
      ∀ fragment ∈ drafts.filterMap Draft.fragment,
        (fragment.name, fragment.render) ∈ gathered := by
  induction drafts generalizing known values with
  | nil =>
      cases composed
      exact ⟨(List.append_nil _).symm, by simp⟩
  | cons draft drafts ih =>
      obtain ⟨added, joined, composed⟩ := Outcome.bind_eq_ok.mp composed
      obtain ⟨_, _, composed⟩ := Outcome.bind_eq_ok.mp composed
      obtain ⟨rfl, texts⟩ := ih composed
      cases asked : draft.fragment with
      | none =>
          have same : added = known := by
            simp only [Draft.build, asked] at joined
            cases joined
            rfl
          rw [List.filterMap_cons_none asked, ← same]
          exact ⟨rfl, texts⟩
      | some fragment =>
          simp only [Draft.build, asked, Option.map_some] at joined
          rw [List.filterMap_cons_some asked]
          rcases addFragment_eq_ok joined with ⟨fresh, rfl⟩ | ⟨present, rfl⟩
          · rw [filter_distinctFragments_of_fresh fresh]
            refine ⟨by simp [fragmentTexts], ?_⟩
            intro other inside
            cases inside with
            | head => simp [fragmentTexts]
            | tail _ later => exact texts other later
          · have named : fragment.name ∈ Entries.keys added := List.mem_map_of_mem present
            rw [filter_distinctFragments_of_mem named]
            refine ⟨rfl, ?_⟩
            intro other inside
            cases inside with
            | head => exact List.mem_append_left _ present
            | tail _ later => exact texts other later

end GraphBatch.Document
