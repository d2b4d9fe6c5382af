import Mathlib.Data.List.Induction
import Mathlib.Data.List.Nodup
import Mathlib.Data.List.Perm.Subperm
import GraphBatch.Proofs.Composition

/-!
# Builds that compose

Builds compose if there are any, if none of them gives a known fragment name
another text, and if no name is bound twice. Otherwise the first build that does
not go with those before it decides the error. What builds declare is not looked
at: a variable that is declared twice and bound once passes. If every build binds
what it declares, this cannot happen.
-/

namespace GraphBatch

/-- Two fragments of one name have one text. -/
def NamedFragment.Agrees (first second : NamedFragment) : Prop :=
  first.name = second.name → first.text = second.text

/-- The first item of a list that does not go with some item before it. -/
def FirstConflict {α : Type} (agrees : α → α → Prop) (items : List α) (item : α) : Prop :=
  ∃ before after, items = before ++ item :: after ∧ before.Pairwise agrees ∧
    ∃ earlier ∈ before, ¬ agrees earlier item

namespace FirstConflict

variable {α β : Type} {agrees : α → α → Prop} {items : List α} {item other : α}

theorem not_pairwise (conflict : FirstConflict agrees items item) : ¬ items.Pairwise agrees := by
  obtain ⟨before, after, rfl, _, earlier, inside, differ⟩ := conflict
  intro all
  exact differ ((List.pairwise_append.mp all).2.2 _ inside _ List.mem_cons_self)

/-- Of two places the earlier one would be inside what comes before the later one,
where all items go with each other. -/
theorem unique (conflict : FirstConflict agrees items item)
    (too : FirstConflict agrees items other) : item = other := by
  obtain ⟨before, after, rfl, fine, earlier, inside, differ⟩ := conflict
  obtain ⟨front, rest, split, front_fine, known, front_inside, front_differ⟩ := too
  rcases List.append_eq_append_iff.mp split with
    ⟨between, longer, rests⟩ | ⟨between, longer, rests⟩
  · cases between with
    | nil => exact (List.cons.inj rests).1
    | cons first between =>
        rw [List.cons_append] at rests
        rw [longer, ← (List.cons.inj rests).1] at front_fine
        exact absurd front_fine (not_pairwise ⟨before, between, rfl, fine, earlier, inside, differ⟩)
  · cases between with
    | nil => exact (List.cons.inj rests).1.symm
    | cons first between =>
        rw [List.cons_append] at rests
        rw [longer, ← (List.cons.inj rests).1] at fine
        exact absurd fine
          (not_pairwise ⟨front, between, rfl, front_fine, known, front_inside, front_differ⟩)

theorem exists_of_not_pairwise (clash : ¬ items.Pairwise agrees) :
    ∃ item, FirstConflict agrees items item := by
  induction items using List.reverseRecOn with
  | nil => exact absurd List.Pairwise.nil clash
  | append_singleton items last ih =>
      by_cases fine : items.Pairwise agrees
      · by_cases goes : ∀ earlier ∈ items, agrees earlier last
        · refine absurd (List.pairwise_append.mpr ⟨fine, List.pairwise_singleton _ _, ?_⟩) clash
          intro earlier inside other listed
          rw [List.mem_singleton.mp listed]
          exact goes earlier inside
        · obtain ⟨earlier, inside, differ⟩ : ∃ earlier ∈ items, ¬ agrees earlier last := by
            simpa using goes
          exact ⟨last, items, [], rfl, fine, earlier, inside, differ⟩
      · obtain ⟨item, before, after, rfl, first⟩ := ih fine
        exact ⟨item, before, after ++ [last], by simp, first⟩

theorem filterMap_iff {part : β → Option α} {list : List β} :
    FirstConflict agrees (list.filterMap part) item ↔
      ∃ giver, part giver = some item ∧
        FirstConflict (fun first second => ∀ one ∈ part first, ∀ two ∈ part second,
          agrees one two) list giver := by
  constructor
  · rintro ⟨before, after, split, fine, earlier, inside, differ⟩
    obtain ⟨front, rest, rfl, rfl, rests⟩ := List.filterMap_eq_append_iff.mp split
    obtain ⟨skipped, giver, back, rfl, silent, gives, _⟩ := List.filterMap_eq_cons_iff.mp rests
    have same : (front ++ skipped).filterMap part = front.filterMap part := by
      rw [List.filterMap_append, List.filterMap_eq_nil_iff.mpr silent, List.append_nil]
    rw [← same] at fine inside
    obtain ⟨source, listed, given⟩ := List.mem_filterMap.mp inside
    refine ⟨giver, gives, front ++ skipped, back, by simp, List.pairwise_filterMap.mp fine,
      source, listed, ?_⟩
    exact fun goes => differ (goes earlier given item gives)
  · rintro ⟨giver, gives, before, after, rfl, fine, source, listed, differ⟩
    refine ⟨before.filterMap part, after.filterMap part, ?_, List.pairwise_filterMap.mpr fine, ?_⟩
    · rw [List.filterMap_append, List.filterMap_cons_some gives]
    · by_contra none_found
      refine differ ?_
      intro one given two same
      rw [gives] at same
      cases same
      by_contra clash
      exact none_found ⟨one, List.mem_filterMap.mpr ⟨source, listed, given⟩, clash⟩

end FirstConflict

/-- The first name of a list that stands there for the second time. -/
abbrev FirstRepeat (names : List String) (name : String) : Prop :=
  FirstConflict (fun first second => first ≠ second) names name

namespace Document

def boundNames (builds : List Build) : List String :=
  builds.flatMap fun build => build.bindings.keys

def declaredNames (builds : List Build) : List String :=
  (builds.flatMap Build.declared).map Variable.name

/-- No name is bound twice, and no fragment name comes with two texts. -/
structure Composable (builds : List Build) : Prop where
  bound : (boundNames builds).Nodup
  agree : (builds.filterMap Build.fragment).Pairwise NamedFragment.Agrees

/-- What is wrong with a build that follows others. Its fragment is looked at
before its bindings. -/
inductive Clash (before : List Build) (build : Build) : Error → Prop where
  | fragment {known fragment : NamedFragment} (given : build.fragment = some fragment)
      (earlier : known ∈ before.filterMap Build.fragment) (differ : ¬ known.Agrees fragment) :
      Clash before build (conflictingFragment fragment.name)
  | binding {name : String}
      (agree : ∀ fragment ∈ build.fragment, ∀ known ∈ before.filterMap Build.fragment,
        known.Agrees fragment)
      (again : FirstRepeat (boundNames (before ++ [build])) name) :
      Clash before build (repeatedVariable name)

theorem boundNames_append (first second : List Build) :
    boundNames (first ++ second) = boundNames first ++ boundNames second :=
  List.flatMap_append

theorem boundNames_singleton (build : Build) : boundNames [build] = build.bindings.keys :=
  List.append_nil _

theorem Composable.left {first second : List Build} (composable : Composable (first ++ second)) :
    Composable first where
  bound := by
    have bound := composable.bound
    rw [boundNames_append] at bound
    exact (List.nodup_append.mp bound).1
  agree := by
    have agree := composable.agree
    rw [List.filterMap_append] at agree
    exact (List.pairwise_append.mp agree).1

/-- A build that clashes with those before it spoils every list that goes on with
it. -/
theorem Clash.not_composable {before after : List Build} {build : Build} {error : Error}
    (clash : Clash before build error) : ¬ Composable (before ++ build :: after) := by
  intro composable
  rw [List.append_cons] at composable
  have joined := composable.left
  cases clash with
  | fragment given earlier differ =>
      have agree := joined.agree
      rw [List.filterMap_append, List.filterMap_cons_some given] at agree
      exact differ ((List.pairwise_append.mp agree).2.2 _ earlier _ List.mem_cons_self)
  | binding agree again => exact again.not_pairwise joined.bound

theorem Clash.unique {before : List Build} {build : Build} {error other : Error}
    (clash : Clash before build error) (too : Clash before build other) : error = other := by
  cases clash with
  | fragment given earlier differ =>
      cases too with
      | fragment also _ _ =>
          rw [given] at also
          rw [Option.some.inj also]
      | binding agree _ => exact absurd (agree _ given _ earlier) differ
  | binding agree again =>
      cases too with
      | fragment given earlier differ => exact absurd (agree _ given _ earlier) differ
      | binding _ also => rw [again.unique also]

/-- Builds whose bindings do not meet can only disagree on a fragment. -/
theorem Clash.conflict_of_nodup {before after : List Build} {build : Build} {error : Error}
    (apart : (boundNames (before ++ build :: after)).Nodup) (clash : Clash before build error) :
    ∃ fragment known, build.fragment = some fragment ∧
      known ∈ before.filterMap Build.fragment ∧ ¬ known.Agrees fragment ∧
      error = conflictingFragment fragment.name := by
  cases clash with
  | @fragment known fragment given earlier differ =>
      exact ⟨fragment, known, given, earlier, differ, rfl⟩
  | binding _ again =>
      rw [List.append_cons, boundNames_append] at apart
      exact absurd (List.nodup_append.mp apart).1 again.not_pairwise

/-! ## Parts that are gathered -/

/-- If a name is bound for the second time, the first such name is refused. -/
theorem addBindings_of_firstRepeat {values pairs : Entries Json} {name : String}
    (distinct : values.Distinct) (again : FirstRepeat (values.keys ++ pairs.keys) name) :
    addBindings values pairs = .error (repeatedVariable name) := by
  induction pairs generalizing values with
  | nil =>
      rw [Entries.keys_nil, List.append_nil] at again
      exact absurd distinct again.not_pairwise
  | cons pair pairs ih =>
      obtain ⟨first, value⟩ := pair
      unfold addBindings
      by_cases bound : first ∈ values.keys
      · have held : values.has first = true := by
          simpa [bound] using Entries.has_eq_false_iff values first
        have repeated : FirstRepeat (values.keys ++ first :: Entries.keys pairs) first :=
          ⟨values.keys, Entries.keys pairs, rfl, distinct, first, bound, not_not.mpr rfl⟩
        rw [if_pos held, again.unique repeated]
      · have fresh : values.has first = false :=
          (Entries.has_eq_false_iff values first).mpr bound
        have longer : Entries.Distinct (values ++ [(first, value)]) := by
          rw [← Entries.put_of_not_mem values value bound]
          exact distinct.put first value
        rw [if_neg (by simp [fresh]), Entries.put_of_not_mem values value bound]
        refine ih longer ?_
        simpa using again

/-- What has been gathered from builds: the text of every fragment name, and every
binding. -/
structure Gathered (builds : List Build) (fragments : Entries String)
    (values : Entries Json) : Prop where
  texts : ∀ name text, fragments.find? name = some text ↔
    ⟨name, text⟩ ∈ builds.filterMap Build.fragment
  bindings : values = builds.flatMap Build.bindings
  distinct : values.Distinct

namespace Gathered

variable {builds : List Build} {fragments : Entries String} {values : Entries Json}
  {build : Build} {error : Error}

theorem nil : Gathered [] [] [] := ⟨by simp, rfl, List.nodup_nil⟩

theorem keys (gathered : Gathered builds fragments values) :
    values.keys = boundNames builds := by
  rw [gathered.bindings, Entries.keys, List.map_flatMap]
  rfl

theorem composable (gathered : Gathered builds fragments values) : Composable builds where
  bound := by
    rw [← gathered.keys]
    exact gathered.distinct
  agree := by
    refine List.pairwise_of_forall_mem_list ?_
    intro first inside second later same
    have one := (gathered.texts first.name first.text).mpr inside
    have other := (gathered.texts second.name second.text).mpr later
    rw [same, other] at one
    exact (Option.some.inj one).symm

/-- A fragment is added if the known ones of its name have its text, and is refused
otherwise. -/
theorem addFragment_some (gathered : Gathered builds fragments values)
    (fragment : NamedFragment) :
    ((∀ known ∈ builds.filterMap Build.fragment, known.Agrees fragment) ∧
      ∃ added, addFragment fragments (some fragment) = .ok added ∧
        ∀ name text, added.find? name = some text ↔
          fragments.find? name = some text ∨ (⟨name, text⟩ : NamedFragment) = fragment) ∨
    ∃ known ∈ builds.filterMap Build.fragment, ¬ known.Agrees fragment ∧
      addFragment fragments (some fragment) = .error (conflictingFragment fragment.name) := by
  obtain ⟨wanted, given⟩ := fragment
  unfold addFragment
  cases found : fragments.find? wanted with
  | none =>
      refine Or.inl ⟨?_, fragments.put wanted given, by simp [found], ?_⟩
      · intro known earlier named
        have held := (gathered.texts known.name known.text).mpr earlier
        rw [named, found] at held
        cases held
      · intro name text
        by_cases same : wanted = name
        · subst same
          simp [found, eq_comm]
        · rw [Entries.find?_put_ne fragments given same]
          simp [Ne.symm same]
  | some held =>
      have earlier := (gathered.texts wanted held).mp found
      by_cases same : held = given
      · subst same
        refine Or.inl ⟨?_, fragments, by simp [found], ?_⟩
        · intro known inside named
          have other := (gathered.texts known.name known.text).mpr inside
          rw [named, found] at other
          exact (Option.some.inj other).symm
        · intro name text
          refine ⟨Or.inl, ?_⟩
          rintro (known | new)
          · exact known
          · cases new
            exact found
      · exact Or.inr ⟨⟨wanted, held⟩, earlier, fun agrees => same (agrees rfl),
          by simp [found, same]⟩

theorem addFragment (gathered : Gathered builds fragments values) (build : Build) :
    ((∀ fragment ∈ build.fragment, ∀ known ∈ builds.filterMap Build.fragment,
        known.Agrees fragment) ∧
      ∃ added, Document.addFragment fragments build.fragment = .ok added ∧
        ∀ name text, added.find? name = some text ↔
          ⟨name, text⟩ ∈ (builds ++ [build]).filterMap Build.fragment) ∨
    ∃ error, Clash builds build error ∧
      Document.addFragment fragments build.fragment = .error error := by
  cases given : build.fragment with
  | none =>
      refine Or.inl ⟨by simp, fragments, rfl, ?_⟩
      intro name text
      simp [given, gathered.texts name text]
  | some fragment =>
      rcases gathered.addFragment_some fragment with ⟨agree, added, joined, texts⟩ |
        ⟨known, earlier, differ, refused⟩
      · refine Or.inl ⟨by simpa using agree, added, joined, ?_⟩
        intro name text
        rw [List.filterMap_append, List.filterMap_cons_some given, List.filterMap_nil,
          List.mem_append, List.mem_singleton, ← gathered.texts name text]
        exact texts name text
      · exact Or.inr ⟨_, .fragment given earlier differ, refused⟩

/-- One build: what it adds has been gathered too, or it clashes. -/
theorem step (gathered : Gathered builds fragments values) (build : Build) :
    (∃ added bound, Gathered (builds ++ [build]) added bound ∧
      ∀ rest, gather fragments values (build :: rest) = gather added bound rest) ∨
    ∃ error, Clash builds build error ∧
      ∀ rest, gather fragments values (build :: rest) = .error error := by
  -- The fragment is looked at before the bindings, as `Clash` says.
  rcases gathered.addFragment build with ⟨agree, added, joined, texts⟩ | ⟨error, clash, refused⟩
  · have both : ∀ rest, gather fragments values (build :: rest) =
        addBindings values build.bindings >>= fun bound => gather added bound rest := by
      intro rest
      rw [gather, joined]
      rfl
    have names : values.keys ++ build.bindings.keys = boundNames (builds ++ [build]) := by
      rw [gathered.keys, boundNames_append, boundNames_singleton]
    by_cases apart : (boundNames (builds ++ [build])).Nodup
    · rw [← names] at apart
      refine Or.inl ⟨added, values ++ build.bindings, ⟨texts, ?_, ?_⟩, ?_⟩
      · rw [List.flatMap_append, ← gathered.bindings, List.flatMap_singleton]
      · rw [Entries.Distinct, Entries.keys_append]
        exact apart
      · intro rest
        rw [both, addBindings_of_nodup apart]
        rfl
    · obtain ⟨name, again⟩ := FirstConflict.exists_of_not_pairwise apart
      refine Or.inr ⟨_, .binding agree again, ?_⟩
      rw [← names] at again
      intro rest
      rw [both, addBindings_of_firstRepeat gathered.distinct again]
      rfl
  · refine Or.inr ⟨error, clash, ?_⟩
    intro rest
    rw [gather, refused]
    rfl

/-- A run over builds: what they add has been gathered too, or the first one that
clashes stops it. -/
theorem run (gathered : Gathered builds fragments values) (items : List Build) :
    (∃ added bound, Gathered (builds ++ items) added bound ∧
      ∀ rest, gather fragments values (items ++ rest) = gather added bound rest) ∨
    ∃ before build after error, items = before ++ build :: after ∧
      Composable (builds ++ before) ∧ Clash (builds ++ before) build error ∧
      ∀ rest, gather fragments values (items ++ rest) = .error error := by
  induction items generalizing builds fragments values with
  | nil =>
      rw [List.append_nil]
      exact Or.inl ⟨fragments, values, gathered, fun _ => rfl⟩
  | cons build items ih =>
      rcases gathered.step build with ⟨added, bound, next, same⟩ | ⟨error, clash, stopped⟩
      · rcases ih next with ⟨last, all, complete, done⟩ |
          ⟨before, later, after, error, rfl, composable, clash, stopped⟩
        · rw [← List.append_cons] at complete
          exact Or.inl ⟨last, all, complete, fun rest => (same _).trans (done rest)⟩
        · rw [← List.append_cons] at composable clash
          exact Or.inr ⟨build :: before, later, after, error, rfl, composable, clash,
            fun rest => (same _).trans (stopped rest)⟩
      · refine Or.inr ⟨[], build, items, error, rfl, ?_, ?_, fun rest => stopped _⟩
        · rw [List.append_nil]
          exact gathered.composable
        · rw [List.append_nil]
          exact clash

end Gathered

/-! ## Documents -/

theorem gather_cases (builds : List Build) :
    (∃ fragments values, gather [] [] builds = .ok (fragments, values) ∧
      Gathered builds fragments values) ∨
    ∃ before build after error, builds = before ++ build :: after ∧ Composable before ∧
      Clash before build error ∧ gather [] [] builds = .error error := by
  rcases Gathered.nil.run builds with ⟨fragments, values, gathered, done⟩ |
    ⟨before, build, after, error, split, composable, clash, stopped⟩
  · have all := done []
    rw [List.append_nil] at all
    exact Or.inl ⟨fragments, values, all, gathered⟩
  · have all := stopped []
    rw [List.append_nil] at all
    exact Or.inr ⟨before, build, after, error, split, composable, clash, all⟩

section Compose

variable {kind : OperationKind} {builds : List Build}

theorem Gathered.of_gather {fragments : Entries String} {values : Entries Json}
    (done : gather [] [] builds = .ok (fragments, values)) :
    Gathered builds fragments values := by
  rcases gather_cases builds with ⟨_, _, same, gathered⟩ | ⟨_, _, _, _, _, _, _, stopped⟩
  · rw [done] at same
    cases same
    exact gathered
  · rw [done] at stopped
    cases stopped

theorem values_of_compose {document : Document} (composed : compose kind builds = .ok document) :
    document.values = builds.flatMap Build.bindings := by
  obtain ⟨_, fragments, values, done, rfl⟩ := compose_eq_ok composed
  exact (Gathered.of_gather done).bindings

theorem Composable.of_compose {document : Document}
    (composed : compose kind builds = .ok document) : Composable builds := by
  obtain ⟨_, fragments, values, done, _⟩ := compose_eq_ok composed
  exact (Gathered.of_gather done).composable

theorem compose_of_gather_eq_error {error : Error} (filled : builds ≠ [])
    (stopped : gather [] [] builds = .error error) : compose kind builds = .error error := by
  have some_build : builds.isEmpty = false := by simpa using filled
  rw [compose, some_build, stopped]
  rfl

/-- Composition fails because there are no builds, or because of the first build that
clashes with those before it. -/
theorem compose_eq_error_iff {error : Error} :
    compose kind builds = .error error ↔
      (builds = [] ∧ error = emptyBatch kind) ∨
      ∃ before build after, builds = before ++ build :: after ∧ Composable before ∧
        Clash before build error := by
  constructor
  · intro failed
    by_cases blank : builds = []
    · subst blank
      cases failed
      exact Or.inl ⟨rfl, rfl⟩
    · rcases gather_cases builds with ⟨fragments, values, done, _⟩ |
        ⟨before, build, after, fault, split, composable, clash, stopped⟩
      · rw [compose, if_neg (by simpa using blank), done] at failed
        cases failed
      · rw [compose_of_gather_eq_error blank stopped] at failed
        cases failed
        exact Or.inr ⟨before, build, after, split, composable, clash⟩
  · rintro (⟨rfl, rfl⟩ | ⟨before, build, after, rfl, composable, clash⟩)
    · rfl
    · refine compose_of_gather_eq_error (by simp) ?_
      -- What comes before composes, so the run reaches the build that clashes.
      rcases Gathered.nil.run before with ⟨fragments, values, gathered, done⟩ |
        ⟨_, _, _, _, rfl, _, earlier, _⟩
      · rw [List.nil_append] at gathered
        rw [done]
        rcases gathered.step build with ⟨_, _, next, _⟩ | ⟨fault, same, stopped⟩
        · exact absurd next.composable clash.not_composable
        · rw [stopped, same.unique clash]
      · exact absurd composable earlier.not_composable

theorem exists_compose_iff :
    (∃ document, compose kind builds = .ok document) ↔ builds ≠ [] ∧ Composable builds := by
  constructor
  · rintro ⟨document, composed⟩
    exact ⟨(compose_eq_ok composed).1, .of_compose composed⟩
  · rintro ⟨filled, composable⟩
    refine Outcome.eq_ok_of_ne_error ?_
    intro error failed
    rcases compose_eq_error_iff.mp failed with ⟨blank, _⟩ | ⟨before, build, after, rfl, _, clash⟩
    · exact filled blank
    · exact clash.not_composable composable

/-- Builds whose bindings do not meet can only be missing, or disagree on a fragment. -/
theorem compose_eq_error_iff_of_nodup {error : Error} (apart : (boundNames builds).Nodup) :
    compose kind builds = .error error ↔
      (builds = [] ∧ error = emptyBatch kind) ∨
      ∃ fragment, FirstConflict NamedFragment.Agrees (builds.filterMap Build.fragment) fragment ∧
        error = conflictingFragment fragment.name := by
  rw [compose_eq_error_iff]
  refine or_congr_right ?_
  constructor
  · rintro ⟨before, build, after, rfl, composable, clash⟩
    obtain ⟨fragment, known, given, earlier, differ, rfl⟩ := clash.conflict_of_nodup apart
    refine ⟨fragment, ⟨before.filterMap Build.fragment, after.filterMap Build.fragment, ?_,
      composable.agree, known, earlier, differ⟩, rfl⟩
    rw [List.filterMap_append, List.filterMap_cons_some given]
  · rintro ⟨fragment, first, rfl⟩
    obtain ⟨build, given, before, after, rfl, fine, source, inside, differ⟩ :=
      FirstConflict.filterMap_iff.mp first
    have composable : Composable before := by
      rw [boundNames_append] at apart
      exact ⟨(List.nodup_append.mp apart).1, List.pairwise_filterMap.mpr fine⟩
    obtain ⟨known, held, clash⟩ : ∃ known ∈ source.fragment, ¬ known.Agrees fragment := by
      simpa [given] using differ
    exact ⟨before, build, after, rfl, composable,
      .fragment given (List.mem_filterMap.mpr ⟨source, inside, held⟩) clash⟩

end Compose

/-! ## Drafts -/

/-- What drafts are composed to, part by part. -/
structure ComposedOf (kind : OperationKind) (drafts : List Draft) (document : Document) :
    Prop where
  filled : drafts ≠ []
  operationName : document.operationName =
    GeneratedName.forOperation (drafts.map Draft.operationName)
  text : document.text =
    String.join ((distinctFragments (drafts.filterMap Draft.fragment)).map fun fragment =>
        fragment.render ++ "\n") ++
      operationText kind document.operationName (drafts.flatMap Draft.declared)
        ((drafts.map Draft.rootField).map RootField.render)
  /-- No fragment is lost: the one that is kept under its name has its text. -/
  kept : ∀ fragment ∈ drafts.filterMap Draft.fragment, (fragment.name, fragment.render) ∈
    fragmentTexts (distinctFragments (drafts.filterMap Draft.fragment))
  values : document.values = drafts.flatMap Draft.bindings
  flatPaths : document.flatPaths = drafts.filterMap Draft.flatPath

theorem fragmentsText_fragmentTexts (fragments : List FragmentDefinition) :
    fragmentsText (fragmentTexts fragments) =
      String.join (fragments.map fun fragment => fragment.render ++ "\n") := by
  simp [fragmentsText, fragmentTexts, Entries.values, Function.comp_def]

theorem composedOf {kind : OperationKind} {drafts : List Draft} {document : Document}
    (composed : compose kind (drafts.map Draft.build) = .ok document) :
    ComposedOf kind drafts document := by
  have values := values_of_compose composed
  obtain ⟨filled, fragments, _, gathered, rfl⟩ := compose_eq_ok composed
  obtain ⟨added, kept⟩ := gather_fragments gathered
  rw [List.nil_append, List.filter_eq_self.mpr (by simp)] at added
  have declared : (drafts.map Draft.build).flatMap Build.declared =
      drafts.flatMap Draft.declared := List.flatMap_map _ _ _
  have selections : (drafts.map Draft.build).map Build.selection =
      (drafts.map Draft.rootField).map RootField.render := by
    rw [List.map_map, List.map_map]
    rfl
  refine ⟨by simpa using filled, ?_, ?_, ?_, ?_, ?_⟩
  · exact congrArg GeneratedName.forOperation List.map_map
  · dsimp only
    rw [added, fragmentsText_fragmentTexts, declared, selections]
  · rw [← added]
    exact kept
  · rw [values, List.flatMap_map]
    rfl
  · exact List.filterMap_map

/-! ## Declarations -/

theorem Clash.invalidParams {before : List Build} {build : Build} {error : Error}
    (clash : Clash before build error) : ∃ message, error = .invalidParams message := by
  cases clash with
  | fragment _ _ _ => exact ⟨_, rfl⟩
  | binding _ _ => exact ⟨_, rfl⟩

theorem invalidParams_of_compose {kind : OperationKind} {builds : List Build} {error : Error}
    (failed : compose kind builds = .error error) : ∃ message, error = .invalidParams message := by
  rcases compose_eq_error_iff.mp failed with ⟨_, rfl⟩ | ⟨_, _, _, _, _, clash⟩
  · exact ⟨_, rfl⟩
  · exact clash.invalidParams

/-- If every build binds what it declares, the declared names are among the bound
ones, as often as they are declared. -/
theorem declaredNames_subperm {builds : List Build}
    (bound : ∀ build ∈ builds, (build.declared.map Variable.name).Subperm build.bindings.keys) :
    (declaredNames builds).Subperm (boundNames builds) := by
  unfold declaredNames
  rw [List.map_flatMap]
  induction builds with
  | nil => exact List.Subperm.refl _
  | cons build rest ih =>
      have first := bound build List.mem_cons_self
      have others := ih fun other inside => bound other (List.mem_cons_of_mem _ inside)
      exact first.append others

/-- Composition succeeds exactly for builds that bind no name twice and agree on their
fragments, and refuses all others as invalid; it does not look at declarations. If
every build binds what it declares, then no variable of a document is declared twice,
and builds that declare one twice are refused. -/
theorem declaredNames_of_compose (kind : OperationKind) (builds : List Build) :
    ((∃ document, compose kind builds = .ok document) ↔ builds ≠ [] ∧ Composable builds) ∧
    (∀ error, compose kind builds = .error error → ∃ message, error = .invalidParams message) ∧
    ((∀ build ∈ builds,
        (build.declared.map Variable.name).Subperm build.bindings.keys) →
      (∀ document, compose kind builds = .ok document → (declaredNames builds).Nodup) ∧
      (¬ (declaredNames builds).Nodup →
        ∃ message, compose kind builds = .error (.invalidParams message))) := by
  refine ⟨exists_compose_iff, fun error => invalidParams_of_compose, ?_⟩
  intro bound
  have apart : Composable builds → (declaredNames builds).Nodup := by
    intro composable
    obtain ⟨names, reordered, inside⟩ := declaredNames_subperm bound
    exact reordered.nodup_iff.mp (composable.bound.sublist inside)
  refine ⟨fun document composed => apart (.of_compose composed), ?_⟩
  intro repeated
  cases composed : compose kind builds with
  | error error =>
      obtain ⟨message, rfl⟩ := invalidParams_of_compose composed
      exact ⟨message, rfl⟩
  | ok document => exact absurd (apart (.of_compose composed)) repeated

/-- One build twice, which binds the variable that it declares. -/
def repeatedBuilds : List Build :=
  List.replicate 2 ⟨"user", "user", [⟨"v0_user_limit", "Int"⟩], [("v0_user_limit", .int 1)],
    "user(limit: $v0_user_limit) \x7b id \x7d", none, none⟩

/-- A variable that is declared twice and bound as often is refused. -/
theorem declaredNames_of_compose_repeated :
    (∀ build ∈ repeatedBuilds,
      (build.declared.map Variable.name).Subperm build.bindings.keys) ∧
      ∃ message, compose .subscription repeatedBuilds = .error (.invalidParams message) := by
  have bound : ∀ build ∈ repeatedBuilds,
      (build.declared.map Variable.name).Subperm build.bindings.keys := by
    intro build inside
    rw [List.eq_of_mem_replicate inside]
    exact List.Subperm.refl _
  obtain ⟨_, _, complete⟩ := declaredNames_of_compose .subscription repeatedBuilds
  exact ⟨bound, (complete bound).2 (by decide)⟩

/-- Two builds that declare one variable, which only the first of them binds. -/
def redeclaringBuilds : List Build := [
  ⟨"user", "user", [⟨"v0_user_limit", "Int"⟩], [("v0_user_limit", .int 1)],
    "user(limit: $v0_user_limit) \x7b id \x7d", none, none⟩,
  ⟨"post", "post", [⟨"v0_user_limit", "Int"⟩], [],
    "post(limit: $v0_user_limit) \x7b id \x7d", none, none⟩]

/-- A variable that is declared twice and bound once passes. -/
theorem compose_redeclaring :
    ¬ (declaredNames redeclaringBuilds).Nodup ∧
      (compose .query redeclaringBuilds).map Document.text = .ok
        ("query user_post($v0_user_limit: Int, $v0_user_limit: Int) \x7b user(limit: " ++
          "$v0_user_limit) \x7b id \x7d post(limit: $v0_user_limit) \x7b id \x7d \x7d") :=
  ⟨by decide, rfl⟩

end Document

end GraphBatch
