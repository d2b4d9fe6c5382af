import Mathlib.Data.List.Pairwise
import GraphBatch.Proofs.Composability

/-!
# Documents as ordered merges

Whatever builds are given, a document that is composed of them holds all of them in
their order, and nothing else: every fragment once, where it is used first, then one
operation with all declarations and all root fields, and beside it all bindings and all
flat paths. Builds that cannot be held side by side are refused.
-/

namespace GraphBatch.Document

/-- Builds that can be held side by side: there are some, fragments of one name have one
text, and no name is bound by two of them. -/
structure Mergeable (builds : List Build) : Prop where
  filled : builds ≠ []
  agree : ∀ first ∈ builds, ∀ second ∈ builds, ∀ fragment ∈ first.fragment,
    ∀ other ∈ second.fragment, fragment.name = other.name → fragment.text = other.text
  apart : builds.Pairwise fun first second => first.bindings.keys.Disjoint second.bindings.keys

/-- The document that holds builds side by side, in their order. Of equal fragments the
first one is held. -/
def merged (kind : OperationKind) (builds : List Build) : Document :=
  let name := String.intercalate "_" (builds.map Build.operationName)
  { kind := kind
    operationName := name
    text := String.join ((builds.filterMap Build.fragment).eraseDups.map fun fragment =>
        fragment.text ++ "\n")
      ++ operationText kind name (builds.flatMap Build.declared) (builds.map Build.selection)
    values := builds.flatMap Build.bindings
    flatPaths := builds.filterMap Build.flatPath }

variable {kind : OperationKind} {builds : List Build}

/-! ## Builds that are side by side -/

instance : Std.Symm NamedFragment.Agrees where
  symm _ _ agrees same := (agrees same.symm).symm

/-- A fragment agrees with itself, so it does not matter which two are compared. -/
theorem pairwise_agrees_iff {fragments : List NamedFragment} :
    fragments.Pairwise NamedFragment.Agrees ↔
      ∀ first ∈ fragments, ∀ second ∈ fragments, first.Agrees second := by
  constructor
  · intro agree first inside second also
    exact agree.forall_of_forall (fun _ _ _ => rfl) inside also
  · exact fun agree => List.pairwise_of_forall_mem_list agree

/-- What composes is what can be held side by side, if no build binds a name twice. -/
theorem composable_iff :
    Composable builds ↔
      (∀ build ∈ builds, build.bindings.Distinct) ∧
      (∀ first ∈ builds, ∀ second ∈ builds, ∀ fragment ∈ first.fragment,
        ∀ other ∈ second.fragment, fragment.Agrees other) ∧
      builds.Pairwise fun first second =>
        first.bindings.keys.Disjoint second.bindings.keys := by
  have agree : (builds.filterMap Build.fragment).Pairwise NamedFragment.Agrees ↔
      ∀ first ∈ builds, ∀ second ∈ builds, ∀ fragment ∈ first.fragment,
        ∀ other ∈ second.fragment, fragment.Agrees other := by
    rw [pairwise_agrees_iff]
    constructor
    · intro agree first inside second also fragment given other too
      exact agree fragment (List.mem_filterMap.mpr ⟨first, inside, given⟩) other
        (List.mem_filterMap.mpr ⟨second, also, too⟩)
    · intro agree fragment inside other also
      obtain ⟨first, listed, given⟩ := List.mem_filterMap.mp inside
      obtain ⟨second, known, too⟩ := List.mem_filterMap.mp also
      exact agree first listed second known fragment given other too
  have bound : (boundNames builds).Nodup ↔
      (∀ build ∈ builds, build.bindings.Distinct) ∧
        builds.Pairwise fun first second =>
          first.bindings.keys.Disjoint second.bindings.keys := List.nodup_flatMap
  constructor
  · rintro ⟨names, fragments⟩
    exact ⟨(bound.mp names).1, agree.mp fragments, (bound.mp names).2⟩
  · rintro ⟨distinct, fragments, apart⟩
    exact ⟨bound.mpr ⟨distinct, apart⟩, agree.mpr fragments⟩

/-! ## Fragments by first use -/

def namedTexts (fragments : List NamedFragment) : Entries String :=
  fragments.map fun fragment => (fragment.name, fragment.text)

theorem mem_namedTexts {fragments : List NamedFragment} {fragment : NamedFragment} :
    (fragment.name, fragment.text) ∈ namedTexts fragments ↔ fragment ∈ fragments := by
  constructor
  · intro inside
    obtain ⟨held, listed, same⟩ := List.mem_map.mp inside
    cases held
    cases fragment
    cases same
    exact listed
  · exact fun listed => List.mem_map_of_mem listed

/-- What is known after one more fragment: it is held behind the others, unless it is
held already. -/
theorem addFragment_eraseDups {seen : List NamedFragment} {fragment : NamedFragment}
    {added : Entries String}
    (joined : addFragment (namedTexts seen.eraseDups) (some fragment) = .ok added) :
    added = namedTexts (seen ++ [fragment]).eraseDups := by
  unfold addFragment at joined
  dsimp only at joined
  rw [List.eraseDups_append]
  split at joined
  · rename_i unknown
    cases joined
    have absent := (Entries.find?_eq_none_iff _ _).mp unknown
    have fresh : fragment ∉ seen := by
      intro inside
      exact absent (List.mem_map_of_mem
        (mem_namedTexts.mpr (List.mem_eraseDups.mpr inside)))
    rw [Entries.put_of_not_mem _ _ absent]
    simp [namedTexts, List.removeAll, fresh, List.eraseDups_cons]
  · rename_i text found
    split at joined
    · rename_i same
      cases joined
      have held := Entries.mem_of_find? found
      rw [same, mem_namedTexts, List.mem_eraseDups] at held
      simp [List.removeAll, held]
    · cases joined

/-- Fragments are held in the order of their first use, those before the builds
included. -/
theorem fragments_of_gather {seen : List NamedFragment} {fragments : Entries String}
    {values bound : Entries Json}
    (done : gather (namedTexts seen.eraseDups) values builds = .ok (fragments, bound)) :
    fragments = namedTexts (seen ++ builds.filterMap Build.fragment).eraseDups := by
  induction builds generalizing seen values with
  | nil =>
      cases done
      rw [List.filterMap_nil, List.append_nil]
  | cons build rest ih =>
      obtain ⟨added, joined, done⟩ := Outcome.bind_eq_ok.mp done
      obtain ⟨_, _, done⟩ := Outcome.bind_eq_ok.mp done
      cases given : build.fragment with
      | none =>
          rw [given] at joined
          cases joined
          rw [List.filterMap_cons_none given]
          exact ih done
      | some fragment =>
          rw [given] at joined
          rw [addFragment_eraseDups joined] at done
          rw [List.filterMap_cons_some given, List.append_cons]
          exact ih done

/-! ## Merging -/

theorem merged_of_compose {document : Document} (composed : compose kind builds = .ok document) :
    document = merged kind builds := by
  have values := values_of_compose composed
  obtain ⟨_, fragments, _, gathered, rfl⟩ := compose_eq_ok composed
  have start : gather (namedTexts ([] : List NamedFragment).eraseDups) [] builds =
      .ok (fragments, _) := gathered
  have order := fragments_of_gather start
  rw [List.nil_append] at order
  dsimp only at values
  rw [values, order]
  simp only [merged, fragmentsText, namedTexts, Entries.values, List.map_map]
  rfl

/-- Builds that compose become the document that holds them side by side in their order,
and they can be held so. Builds that cannot be are refused as invalid: none at all, a
fragment name with two texts, or a name that two builds bind. All others compose, if
each build binds its own names once. -/
theorem merge_of_builds (kind : OperationKind) (builds : List Build) :
    (∀ document, compose kind builds = .ok document →
      Mergeable builds ∧ document = merged kind builds) ∧
    (¬ Mergeable builds →
      ∃ message, compose kind builds = .error (.invalidParams message)) ∧
    ((∀ build ∈ builds, build.bindings.Distinct) → Mergeable builds →
      compose kind builds = .ok (merged kind builds)) := by
  have mergeable : ∀ document, compose kind builds = .ok document → Mergeable builds := by
    intro document composed
    obtain ⟨_, agree, apart⟩ := composable_iff.mp (.of_compose composed)
    exact ⟨(compose_eq_ok composed).1, agree, apart⟩
  refine ⟨fun document composed => ⟨mergeable document composed, merged_of_compose composed⟩,
    ?_, ?_⟩
  · intro unfit
    cases composed : compose kind builds with
    | error error =>
        obtain ⟨message, rfl⟩ := invalidParams_of_compose composed
        exact ⟨message, rfl⟩
    | ok document => exact absurd (mergeable document composed) unfit
  · rintro distinct ⟨filled, agree, apart⟩
    have composable := composable_iff.mpr ⟨distinct, agree, apart⟩
    obtain ⟨document, composed⟩ := exists_compose_iff.mpr ⟨filled, composable⟩
    rw [composed, merged_of_compose composed]

/-- Three builds: the first and the last use one fragment, and one of them binds nothing. -/
def sharingBuilds : List Build := [
  ⟨"user", "user", [⟨"v0_user_limit", "Int"⟩], [("v0_user_limit", .int 1)],
    "user(limit: $v0_user_limit) \x7b ...f4_user_fields \x7d",
    some ⟨"f4_user_fields", "fragment f4_user_fields on user \x7b id \x7d"⟩, none⟩,
  ⟨"post", "post", [], [], "post \x7b ...f4_post_fields \x7d",
    some ⟨"f4_post_fields", "fragment f4_post_fields on post \x7b id \x7d"⟩,
    some ⟨⟨["post", "insert"]⟩, ⟨["insert_post", "returning"]⟩⟩⟩,
  ⟨"author", "author", [⟨"v2_user_where", "user_bool_exp"⟩, ⟨"v2_user_offset", "Int"⟩],
    [("v2_user_where", .obj []), ("v2_user_offset", .int 2)],
    "author: user(where: $v2_user_where, offset: $v2_user_offset) \x7b ...f4_user_fields \x7d",
    some ⟨"f4_user_fields", "fragment f4_user_fields on user \x7b id \x7d"⟩, none⟩]

/-- The shared fragment is written once, in front. Taken twice, the builds are refused. -/
theorem merge_of_builds_sharing :
    (∀ build ∈ sharingBuilds, build.bindings.Distinct) ∧ Mergeable sharingBuilds ∧
      compose .query sharingBuilds = .ok (merged .query sharingBuilds) ∧
      (merged .query sharingBuilds).text =
        "fragment f4_user_fields on user \x7b id \x7d\n" ++
        "fragment f4_post_fields on post \x7b id \x7d\n" ++
        "query user_post_author($v0_user_limit: Int, $v2_user_where: user_bool_exp, " ++
        "$v2_user_offset: Int) \x7b user(limit: $v0_user_limit) \x7b ...f4_user_fields \x7d " ++
        "post \x7b ...f4_post_fields \x7d author: user(where: $v2_user_where, " ++
        "offset: $v2_user_offset) \x7b ...f4_user_fields \x7d \x7d" ∧
      ¬ Mergeable (sharingBuilds ++ sharingBuilds) ∧
      ∃ message, compose .query (sharingBuilds ++ sharingBuilds) =
        .error (.invalidParams message) := by
  have distinct : ∀ build ∈ sharingBuilds, build.bindings.Distinct := by decide
  have mergeable : Mergeable sharingBuilds :=
    ⟨by decide, by decide, by simp [sharingBuilds, Entries.keys, List.Disjoint]⟩
  have twice : ¬ Mergeable (sharingBuilds ++ sharingBuilds) := by
    intro merging
    have apart := merging.apart
    simp [sharingBuilds, Entries.keys, List.Disjoint] at apart
  obtain ⟨_, _, composes⟩ := merge_of_builds .query sharingBuilds
  obtain ⟨_, refused, _⟩ := merge_of_builds .query (sharingBuilds ++ sharingBuilds)
  obtain ⟨both, _⟩ := (merge_of_builds .query sharingBuilds).1 _ (composes distinct mergeable)
  exact ⟨distinct, both, composes distinct mergeable, by decide +kernel, twice, refused twice⟩

end GraphBatch.Document
