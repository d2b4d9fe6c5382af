import GraphBatch.Proofs.Places
import GraphBatch.Proofs.Refusal
import GraphBatch.Proofs.Remapping

/-!
# Rearranging values

Results are moved from where the endpoint puts them to where the caller expects
them. If the places of the caller are apart from one another, moving fails exactly
for the first result that is missing. Otherwise every result is found at its place,
nothing else is made but the objects on the way, and the order of the paths decides
nothing but the order of names in these objects.
-/

namespace GraphBatch

/-! ## The order of names -/

namespace Json

/-- Two values differ at most in the order of names, in objects at any depth of
objects. -/
inductive Reordered : Json → Json → Prop
  | refl (value : Json) : Reordered value value
  | swap (before : Entries Json) {first second : String × Json} (after : Entries Json)
      (differ : first.1 ≠ second.1) :
      Reordered (.obj (before ++ first :: second :: after))
        (.obj (before ++ second :: first :: after))
  | member (before : Entries Json) (name : String) {first second : Json} (after : Entries Json)
      (inner : Reordered first second) :
      Reordered (.obj (before ++ (name, first) :: after))
        (.obj (before ++ (name, second) :: after))
  | trans {first second third : Json} (front : Reordered first second)
      (back : Reordered second third) : Reordered first third

namespace Reordered

theorem put {first second : Json} (inner : Reordered first second) (members : Entries Json)
    (name : String) : Reordered (.obj (members.put name first)) (.obj (members.put name second)) := by
  obtain ⟨before, after, placed⟩ := members.exists_put_eq name
  rw [placed first, placed second]
  exact member before name after inner

/-- Writing under two names in either order, behind any members. -/
theorem put_comm_behind {name other : String} (differ : name ≠ other) (value last : Json)
    (before members : Entries Json) :
    Reordered (.obj (before ++ (members.put name value).put other last))
      (.obj (before ++ (members.put other last).put name value)) := by
  induction members generalizing before with
  | nil =>
      simp only [Entries.put, differ, Ne.symm differ, if_false]
      exact swap before [] differ
  | cons pair rest ih =>
      by_cases first : pair.1 = name
      · subst first
        simp only [Entries.put, differ, if_true, if_false]
        exact refl _
      · by_cases second : pair.1 = other
        · subst second
          simp only [Entries.put, first, if_true, if_false]
          exact refl _
        · simp only [Entries.put, first, second, if_false]
          simpa using ih (before ++ [pair])

theorem put_comm {name other : String} (differ : name ≠ other) (value last : Json)
    (members : Entries Json) :
    Reordered (.obj ((members.put name value).put other last))
      (.obj ((members.put other last).put name value)) :=
  put_comm_behind differ value last [] members

theorem find?_swap (before : Entries Json) {first second : String × Json} (after : Entries Json)
    (differ : first.1 ≠ second.1) (name : String) :
    Entries.find? (before ++ first :: second :: after) name =
      Entries.find? (before ++ second :: first :: after) name := by
  by_cases present : name ∈ before.keys
  · rw [Entries.find?_append_of_mem _ _ present, Entries.find?_append_of_mem _ _ present]
  · rw [Entries.find?_append_of_not_mem _ _ present, Entries.find?_append_of_not_mem _ _ present]
    by_cases here : first.1 = name
    · subst here
      simp [Entries.find?, Ne.symm differ]
    · simp [Entries.find?, here]

theorem put_swap (before : Entries Json) {first second : String × Json} (after : Entries Json)
    (differ : first.1 ≠ second.1) (name : String) (value : Json) :
    Reordered (.obj (Entries.put (before ++ first :: second :: after) name value))
      (.obj (Entries.put (before ++ second :: first :: after) name value)) := by
  by_cases present : name ∈ before.keys
  · rw [Entries.put_append_of_mem _ _ _ present, Entries.put_append_of_mem _ _ _ present]
    exact swap _ after differ
  · rw [Entries.put_append_of_not_mem _ _ _ present, Entries.put_append_of_not_mem _ _ _ present]
    by_cases here : first.1 = name
    · subst here
      simp only [Entries.put, Ne.symm differ, if_true, if_false]
      exact swap before after differ
    · by_cases next : second.1 = name
      · subst next
        simp only [Entries.put, here, if_true, if_false]
        exact swap before after differ
      · simp only [Entries.put, here, next, if_false]
        exact swap before _ differ

/-- Values that differ in the order of names still do after a write. -/
theorem writtenAt {first second : Json} (alike : Reordered first second) (written : Json)
    (place : List String) :
    Reordered (Json.writtenAt written place first) (Json.writtenAt written place second) := by
  induction alike generalizing place with
  | refl value => exact refl _
  | trans front back ih_front ih_back => exact (ih_front place).trans (ih_back place)
  | swap before after differ =>
      cases place with
      | nil => exact refl _
      | cons name rest =>
          simp only [Json.writtenAt, members?_obj, member?_obj, Option.getD_some,
            find?_swap before after differ name]
          exact put_swap before after differ name _
  | member before held after inner ih =>
      cases place with
      | nil => exact refl _
      | cons name rest =>
          simp only [Json.writtenAt, members?_obj, member?_obj, Option.getD_some]
          by_cases present : name ∈ before.keys
          · rw [Entries.find?_append_of_mem _ _ present, Entries.find?_append_of_mem _ _ present,
              Entries.put_append_of_mem _ _ _ present, Entries.put_append_of_mem _ _ _ present]
            exact member _ held after inner
          · rw [Entries.find?_append_of_not_mem _ _ present,
              Entries.find?_append_of_not_mem _ _ present,
              Entries.put_append_of_not_mem _ _ _ present,
              Entries.put_append_of_not_mem _ _ _ present]
            by_cases here : held = name
            · subst here
              simp only [Entries.find?, Entries.put, if_true, Option.getD_some]
              exact member before held after (ih rest)
            · simp only [Entries.find?, Entries.put, here, if_false]
              exact member before held _ inner

end Reordered

/-- Writes at places that are apart may change their order. -/
theorem writtenAt_comm {place other : List String} (apart : Apart place other)
    (written last target : Json) :
    Reordered (writtenAt last other (writtenAt written place target))
      (writtenAt written place (writtenAt last other target)) := by
  induction place generalizing other target with
  | nil => exact absurd apart Apart.not_nil_left
  | cons name rest ih =>
      cases other with
      | nil => exact absurd apart Apart.not_nil_right
      | cons first others =>
          -- Below one name the writes meet in the same object; below two they meet only in
          -- the order in which the names were added.
          by_cases same : name = first
          · subst same
            have apart : Apart rest others := Apart.cons_cons_iff.mp apart rfl
            have inner := ih apart ((target.member? name).getD .empty)
            simp only [writtenAt, members?_obj, member?_obj, Option.getD_some,
              Entries.find?_put_self, Entries.put_put]
            exact inner.put _ name
          · simp only [writtenAt, members?_obj, member?_obj, Option.getD_some,
              Entries.find?_put_ne _ _ same, Entries.find?_put_ne _ _ (Ne.symm same)]
            have inner : ∀ wanted, (target.members?.getD []).find? wanted =
                target.member? wanted := by
              intro wanted
              cases held : target.members? <;> simp [member?, held]
            rw [inner, inner]
            exact Reordered.put_comm same _ _ _

end Json

namespace Response

variable {data : Json}

/-! ## Following and writing -/

/-- A result is not where the endpoint should put it: the error gives its path and
the first segment of it that is missing. -/
def Missing (data : Json) (flatPath : FlatPath) (error : Error) : Prop :=
  ∃ way segment rest held, flatPath.endpoint.segments = way ++ segment :: rest ∧
    data.valueAt? way = some held ∧ held.member? segment = none ∧
    error = .malformedResponse flatPath.endpoint.text segment

theorem follow_append {data held : Json} {way : List String}
    (found : data.valueAt? way = some held) (rest : List String) :
    follow data (way ++ rest) = follow held rest := by
  induction way generalizing data with
  | nil =>
      cases found
      rfl
  | cons name way ih =>
      rw [Json.valueAt?_cons] at found
      obtain ⟨inner, here, found⟩ := Option.bind_eq_some_iff.mp found
      rw [List.cons_append, follow, here]
      exact ih found

theorem follow_cases (data : Json) (segments : List String) :
    (∃ value, data.valueAt? segments = some value ∧ follow data segments = .ok value) ∨
      ∃ way segment rest held, segments = way ++ segment :: rest ∧
        data.valueAt? way = some held ∧ held.member? segment = none ∧
        follow data segments = .error segment := by
  induction segments generalizing data with
  | nil => exact Or.inl ⟨data, rfl, rfl⟩
  | cons name rest ih =>
      rw [follow, Json.valueAt?_cons]
      cases here : data.member? name with
      | none => exact Or.inr ⟨[], name, rest, data, rfl, rfl, here, rfl⟩
      | some inner =>
          rcases ih inner with ⟨value, found, followed⟩ | ⟨way, segment, after, held, rest⟩
          · exact Or.inl ⟨value, found, followed⟩
          · obtain ⟨rfl, found, missing, followed⟩ := rest
            refine Or.inr ⟨name :: way, segment, after, held, rfl, ?_, missing, followed⟩
            rw [Json.valueAt?_cons, here]
            exact found

theorem resolve_eq_ok_iff {path : Path} {value : Json} :
    resolve data path = .ok value ↔ data.valueAt? path.segments = some value := by
  unfold resolve
  rcases follow_cases data path.segments with
    ⟨found, held, followed⟩ | ⟨way, segment, rest, held, split, found, missing, followed⟩
  · simp [held, followed]
  · have absent : data.valueAt? path.segments = none := by
      rw [split, Json.valueAt?_append, found, Option.bind_some, Json.valueAt?_cons, missing]
      rfl
    simp [followed, absent]

theorem resolve_eq_error_iff {flatPath : FlatPath} {error : Error} :
    resolve data flatPath.endpoint = .error error ↔ Missing data flatPath error := by
  unfold resolve
  constructor
  · intro failed
    rcases follow_cases data flatPath.endpoint.segments with
      ⟨found, held, followed⟩ | ⟨way, segment, rest, held, split, found, missing, followed⟩
    · rw [followed] at failed
      cases failed
    · rw [followed] at failed
      exact ⟨way, segment, rest, held, split, found, missing, (Except.error.inj failed).symm⟩
  · rintro ⟨way, segment, rest, held, split, found, missing, rfl⟩
    rw [split, follow_append found, follow, missing]

/-- Writing succeeds if nothing but objects is on the way. -/
theorem writeAt_eq_ok (path : Path) (value : Json) {place : List String} {target : Json}
    (filled : place ≠ []) (free : target.Open place) :
    writeAt path value place target = .ok (Json.writtenAt value place target) := by
  induction place generalizing target with
  | nil => exact absurd rfl filled
  | cons name rest ih =>
      obtain ⟨members, rfl⟩ := free [] name rest target rfl rfl
      cases rest with
      | nil => rfl
      | cons next rest =>
          have written := ih (List.cons_ne_nil next rest) free.inner
          rw [Json.member?_obj] at written
          simp only [writeAt, Json.members?_obj, written]
          rfl

/-! ## Moving results one after the other -/

/-- The target after a result was moved to its place; a result that is missing
counts as `null`. -/
def moved (data target : Json) (flatPath : FlatPath) : Json :=
  Json.writtenAt ((data.valueAt? flatPath.endpoint.segments).getD .null)
    flatPath.caller.segments target

/-- The places where the caller expects results. -/
def callers (flatPaths : List FlatPath) : List (List String) :=
  flatPaths.map fun flatPath => flatPath.caller.segments

/-- The places of the caller are apart from one another, and none is empty. -/
structure PlacedApart (flatPaths : List FlatPath) : Prop where
  filled : ∀ flatPath ∈ flatPaths, flatPath.caller.segments ≠ []
  apart : (callers flatPaths).Pairwise Apart

variable {flatPath : FlatPath} {flatPaths : List FlatPath} {places : List (List String)}
  {target : Json}

namespace PlacedApart

theorem tail (placed : PlacedApart (flatPath :: flatPaths)) : PlacedApart flatPaths :=
  ⟨fun later inside => placed.filled later (List.mem_cons_of_mem _ inside),
    (List.pairwise_cons.mp placed.apart).2⟩

theorem of_perm {other : List FlatPath} (placed : PlacedApart flatPaths)
    (same : other.Perm flatPaths) : PlacedApart other where
  filled flatPath inside := placed.filled flatPath (same.mem_iff.mp inside)
  apart := ((same.map _).pairwise_iff Apart.symm).mpr placed.apart

end PlacedApart

/-- A target that is filled at some places, and paths whose places are apart from
these and from one another. -/
structure Ready (places : List (List String)) (target : Json) (flatPaths : List FlatPath) :
    Prop where
  grown : target.GrownAt places
  placed : PlacedApart flatPaths
  apart : ∀ place ∈ places, ∀ later ∈ callers flatPaths, Apart place later

namespace Ready

theorem start (placed : PlacedApart flatPaths) : Ready [] .empty flatPaths :=
  ⟨.empty, placed, by simp⟩

/-- After a result was moved, its place is filled too. -/
theorem moved (ready : Ready places target (flatPath :: flatPaths)) (data : Json) :
    Ready (places ++ [flatPath.caller.segments]) (moved data target flatPath) flatPaths where
  grown := ready.grown.writtenAt
    (fun place filled => ready.apart place filled _ List.mem_cons_self) _
  placed := ready.placed.tail
  apart := by
    intro place inside later listed
    rcases List.mem_append.mp inside with filled | here
    · exact ready.apart place filled later (List.mem_cons_of_mem _ listed)
    · rw [List.mem_singleton.mp here]
      exact (List.pairwise_cons.mp ready.placed.apart).1 later listed

/-- A result that is there is moved without fail. -/
theorem remapInto_cons (ready : Ready places target (flatPath :: flatPaths)) {value : Json}
    (found : resolve data flatPath.endpoint = .ok value) :
    remapInto data (flatPath :: flatPaths) target =
      remapInto data flatPaths (Response.moved data target flatPath) := by
  have free : target.Open flatPath.caller.segments :=
    ready.grown.isOpen fun place filled => ready.apart place filled _ List.mem_cons_self
  have filled := ready.placed.filled flatPath List.mem_cons_self
  refine remapInto_cons_of_written found ?_
  rw [writeAt_eq_ok flatPath.caller value filled free, Response.moved,
    resolve_eq_ok_iff.mp found, Option.getD_some]

/-- The run fails for the first result that is missing, and for nothing else. -/
theorem remapInto_eq_error_iff (ready : Ready places target flatPaths) {error : Error} :
    remapInto data flatPaths target = .error error ↔
      FirstRefusal (Missing data) flatPaths error := by
  induction flatPaths generalizing target places with
  | nil => exact iff_of_false (fun failed => nomatch failed) FirstRefusal.not_nil
  | cons flatPath rest ih =>
      cases found : resolve data flatPath.endpoint with
      | error fault =>
          have missing := resolve_eq_error_iff.mp found
          have stops : remapInto data (flatPath :: rest) target = .error fault := by
            rw [remapInto, found]
            rfl
          rw [FirstRefusal.cons_iff, stops]
          constructor
          · intro same
            exact Or.inl (Except.error.inj same ▸ missing)
          · rintro (missing_too | ⟨fine, _⟩)
            · exact found.symm.trans (resolve_eq_error_iff.mpr missing_too)
            · exact absurd missing (fine fault)
      | ok value =>
          have fine : ∀ other, ¬ Missing data flatPath other := by
            intro other missing
            cases found.symm.trans (resolve_eq_error_iff.mpr missing)
          rw [ready.remapInto_cons found]
          exact (ih (ready.moved data)).trans (FirstRefusal.cons_of_fine fine).symm

/-- A run in which every result is there moves them all. -/
theorem remapInto_eq_ok (ready : Ready places target flatPaths)
    (found : ∀ flatPath ∈ flatPaths, ∃ value, resolve data flatPath.endpoint = .ok value) :
    remapInto data flatPaths target = .ok (flatPaths.foldl (Response.moved data) target) := by
  induction flatPaths generalizing target places with
  | nil => rfl
  | cons flatPath rest ih =>
      obtain ⟨value, here⟩ := found flatPath List.mem_cons_self
      rw [ready.remapInto_cons here, List.foldl_cons]
      exact ih (ready.moved data) fun later inside => found later (List.mem_cons_of_mem _ inside)

theorem grownAt_foldl (ready : Ready places target flatPaths) (data : Json) :
    (flatPaths.foldl (Response.moved data) target).GrownAt (places ++ callers flatPaths) := by
  induction flatPaths generalizing target places with
  | nil => simpa [callers] using ready.grown
  | cons flatPath rest ih => simpa [callers] using ih (ready.moved data)

end Ready

/-! ## What a run leaves behind -/

theorem valueAt?_foldl_of_apart {place : List String}
    (apart : ∀ other ∈ callers flatPaths, Apart other place) :
    (flatPaths.foldl (moved data) target).valueAt? place = target.valueAt? place := by
  induction flatPaths generalizing target with
  | nil => rfl
  | cons flatPath rest ih =>
      rw [List.foldl_cons, ih fun other inside => apart other (List.mem_cons_of_mem _ inside)]
      exact Json.valueAt?_writtenAt_apart (apart _ List.mem_cons_self) _ target

/-- Every result is found at its place. -/
theorem valueAt?_foldl (apart : (callers flatPaths).Pairwise Apart) :
    ∀ flatPath ∈ flatPaths,
      (flatPaths.foldl (moved data) target).valueAt? flatPath.caller.segments =
        some ((data.valueAt? flatPath.endpoint.segments).getD .null) := by
  induction flatPaths generalizing target with
  | nil => simp
  | cons flatPath rest ih =>
      obtain ⟨first, others⟩ := List.pairwise_cons.mp apart
      intro wanted inside
      cases inside with
      | head =>
          have fresh : ∀ other ∈ callers rest, Apart other flatPath.caller.segments :=
            fun other listed => (first other listed).symm
          rw [List.foldl_cons, valueAt?_foldl_of_apart fresh, moved]
          simpa using Json.valueAt?_writtenAt_inside
            ((data.valueAt? flatPath.endpoint.segments).getD .null)
            flatPath.caller.segments [] target
      | tail _ inside => exact ih others wanted inside

theorem reordered_foldl {first second : Json} (alike : Json.Reordered first second)
    (flatPaths : List FlatPath) :
    Json.Reordered (flatPaths.foldl (moved data) first) (flatPaths.foldl (moved data) second) := by
  induction flatPaths generalizing first second with
  | nil => exact alike
  | cons flatPath rest ih => exact ih (alike.writtenAt _ _)

/-- The order of the paths decides nothing but the order of names. -/
theorem reordered_of_perm {first second : List FlatPath} (same : first.Perm second)
    (apart : (callers first).Pairwise Apart) (target : Json) :
    Json.Reordered (first.foldl (moved data) target) (second.foldl (moved data) target) := by
  induction same generalizing target with
  | nil => exact .refl _
  | cons flatPath same ih => exact ih (List.pairwise_cons.mp apart).2 _
  | swap one other rest =>
      have separate := (List.pairwise_cons.mp apart).1 _ List.mem_cons_self
      exact reordered_foldl (Json.writtenAt_comm separate _ _ target) rest
  | trans front back ih_front ih_back =>
      have apart_too := ((front.map _).pairwise_iff Apart.symm).mp apart
      exact (ih_front apart target).trans (ih_back apart_too target)

/-- Moving results to places that are apart from one another: it fails exactly with
the error of the first result that is missing. If it succeeds, each place of the
caller holds the value at its place in the response; whatever else there is stands on
the way to such a place, in an object that has every name once; and the same paths in
another order give the same up to the order of names. -/
theorem remap_of_placedApart {flatPaths : List FlatPath} (placed : PlacedApart flatPaths)
    (data : Json) :
    ((∃ result, remap flatPaths data = .ok result) ↔
      ∀ flatPath ∈ flatPaths, ∃ value, data.valueAt? flatPath.endpoint.segments = some value) ∧
    (∀ error, remap flatPaths data = .error error ↔
      FirstRefusal (Missing data) flatPaths error) ∧
    ∀ result, remap flatPaths data = .ok result →
      (∀ flatPath ∈ flatPaths, result.valueAt? flatPath.caller.segments =
        data.valueAt? flatPath.endpoint.segments) ∧
      (∀ place value, result.valueAt? place = some value →
        (∃ flatPath ∈ flatPaths, flatPath.caller.segments <+: place) ∨
          (place = [] ∨ ∃ flatPath ∈ flatPaths, place <+: flatPath.caller.segments) ∧
            ∃ members : Entries Json, value = .obj members ∧ members.Distinct) ∧
      ∀ other : List FlatPath, other.Perm flatPaths →
        ∃ reordered, remap other data = .ok reordered ∧ Json.Reordered result reordered := by
  have ready := Ready.start placed
  have fails : ∀ error, remap flatPaths data = .error error ↔
      FirstRefusal (Missing data) flatPaths error :=
    fun error => ready.remapInto_eq_error_iff
  have succeeds : (∃ result, remap flatPaths data = .ok result) ↔
      ∀ flatPath ∈ flatPaths, ∃ value, resolve data flatPath.endpoint = .ok value := by
    rw [Outcome.exists_ok_iff fails, FirstRefusal.none_iff]
    refine forall₂_congr fun flatPath _ => ?_
    exact (Outcome.exists_ok_iff fun error => resolve_eq_error_iff).symm
  refine ⟨succeeds.trans ?_, fails, ?_⟩
  · simp only [resolve_eq_ok_iff]
  intro result done
  have found := succeeds.mp ⟨result, done⟩
  have made := ready.remapInto_eq_ok found
  cases Except.ok.inj (done.symm.trans made)
  refine ⟨?_, ?_, ?_⟩
  · intro flatPath inside
    obtain ⟨value, resolved⟩ := found flatPath inside
    rw [valueAt?_foldl placed.apart flatPath inside, resolve_eq_ok_iff.mp resolved,
      Option.getD_some]
  · intro place value held
    have grown := ready.grownAt_foldl data place value held
    simpa [callers] using grown
  · intro other same
    have found_too : ∀ flatPath ∈ other, ∃ value, resolve data flatPath.endpoint = .ok value :=
      fun flatPath inside => found flatPath (same.mem_iff.mp inside)
    exact ⟨_, (Ready.start (placed.of_perm same)).remapInto_eq_ok found_too,
      reordered_of_perm same.symm placed.apart .empty⟩

/-- Paths that share an object on their way, beside one that is longer. -/
def sharingPaths : List FlatPath := [
  ⟨⟨["user", "insert"]⟩, ⟨["insert_user", "returning"]⟩⟩,
  ⟨⟨["log.entry"]⟩, ⟨["insert_user"]⟩⟩,
  ⟨⟨["user", "old", ""]⟩, ⟨["delete_user", "returning", "x"]⟩⟩]

/-- A result that is missing below one that is there is named; results that are all
there are found at their places. -/
theorem remap_of_placedApart_sharing :
    remap sharingPaths (.obj [
        ("insert_user", .obj [("returning", .arr [])]),
        ("delete_user", .obj [("returning", .arr [.null])])]) =
      .error (.malformedResponse "delete_user.returning.x" "x") ∧
    ∃ result, remap sharingPaths (.obj [
        ("delete_user", .obj [("returning", .obj [("x", .null)])]),
        ("insert_user", .obj [("returning", .bool true)])]) = .ok result ∧
      result.valueAt? ["user", "insert"] = some (.bool true) ∧
      result.valueAt? ["user", "old", ""] = some .null := by
  have placed : PlacedApart sharingPaths := ⟨by decide, by decide⟩
  constructor
  · refine ((remap_of_placedApart placed _).2.1 _).mpr ⟨sharingPaths.take 2, _, [], rfl, ?_, ?_⟩
    · intro earlier inside other missing
      simp only [sharingPaths, List.take, List.mem_cons, List.not_mem_nil, or_false] at inside
      rcases inside with rfl | rfl <;> cases resolve_eq_error_iff.mpr missing
    · exact ⟨["delete_user", "returning"], "x", [], _, rfl, rfl, rfl, rfl⟩
  · obtain ⟨succeeds, _, gives⟩ := remap_of_placedApart placed (.obj [
      ("delete_user", .obj [("returning", .obj [("x", .null)])]),
      ("insert_user", .obj [("returning", .bool true)])])
    obtain ⟨result, done⟩ := succeeds.mpr (by
      intro flatPath inside
      simp only [sharingPaths, List.mem_cons, List.not_mem_nil, or_false] at inside
      rcases inside with rfl | rfl | rfl <;> exact ⟨_, rfl⟩)
    have values := (gives result done).1
    refine ⟨result, done, ?_, ?_⟩
    · exact values ⟨⟨["user", "insert"]⟩, ⟨["insert_user", "returning"]⟩⟩ (by decide)
    · exact values ⟨⟨["user", "old", ""]⟩, ⟨["delete_user", "returning", "x"]⟩⟩ (by decide)

end Response

end GraphBatch
