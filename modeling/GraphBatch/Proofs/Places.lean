import GraphBatch.Response.Reshape

/-!
# Places inside values

A place is a list of names that are followed into nested objects. Writing at a
place makes the objects on the way that are not there. Two places are apart if
neither is on the way to the other. The main statements say what is found after a
write: at the place and below it the value that was written, on the way to it an
object, and at places apart from it what was found before. So values that are
written at places apart from one another never meet anything but objects on their
way.
-/

namespace GraphBatch

/-- Neither of two places is on the way to the other. -/
def Apart (first second : List String) : Prop :=
  ¬ first <+: second ∧ ¬ second <+: first

instance (first second : List String) : Decidable (Apart first second) :=
  inferInstanceAs (Decidable (_ ∧ _))

namespace Apart

variable {name other : String} {first second : List String}

theorem symm (apart : Apart first second) : Apart second first :=
  ⟨apart.2, apart.1⟩

theorem not_nil_left : ¬ Apart [] second :=
  fun apart => apart.1 List.nil_prefix

theorem not_nil_right : ¬ Apart first [] :=
  fun apart => apart.2 List.nil_prefix

theorem cons_cons_iff : Apart (name :: first) (other :: second) ↔
    (name = other → Apart first second) := by
  by_cases same : name = other
  · simp [Apart, List.cons_prefix_cons, same]
  · simp [Apart, List.cons_prefix_cons, same, Ne.symm same]

end Apart

namespace Json

def valueAt? : Json → List String → Option Json
  | value, [] => some value
  | value, name :: rest => (value.member? name).bind fun inner => inner.valueAt? rest

/-- A value with another one written at a place; whatever is on the way and is no
object gives way to one. -/
def writtenAt (written : Json) : List String → Json → Json
  | [], _ => written
  | name :: rest, target =>
      .obj (Entries.put (target.members?.getD []) name
        (writtenAt written rest ((target.member? name).getD .empty)))

variable {written target : Json} {name : String} {place : List String}

@[simp] theorem valueAt?_nil (value : Json) : value.valueAt? [] = some value := rfl

theorem valueAt?_cons (value : Json) (name : String) (rest : List String) :
    value.valueAt? (name :: rest) =
      (value.member? name).bind fun inner => inner.valueAt? rest := rfl

theorem valueAt?_append (value : Json) (first second : List String) :
    value.valueAt? (first ++ second) =
      (value.valueAt? first).bind fun inner => inner.valueAt? second := by
  induction first generalizing value with
  | nil => rfl
  | cons name first ih =>
      rw [List.cons_append, valueAt?_cons, valueAt?_cons, Option.bind_assoc]
      exact Option.bind_congr fun inner _ => ih inner

theorem valueAt?_empty_of_ne_nil (some_name : place ≠ []) : empty.valueAt? place = none := by
  cases place with
  | nil => exact absurd rfl some_name
  | cons name rest => rfl

/-- Below a name that is missing nothing is found, as in an empty object. -/
theorem valueAt?_inner (target : Json) (name : String) (some_name : place ≠ []) :
    ((target.member? name).getD .empty).valueAt? place = target.valueAt? (name :: place) := by
  rw [valueAt?_cons]
  cases target.member? name with
  | none => exact valueAt?_empty_of_ne_nil some_name
  | some inner => rfl

/-- The members of an object at a place; none if there is no object. -/
def membersAt (value : Json) (place : List String) : Entries Json :=
  ((value.valueAt? place).bind members?).getD []

theorem membersAt_inner (target : Json) (name : String) (place : List String) :
    ((target.member? name).getD .empty).membersAt place = target.membersAt (name :: place) := by
  unfold membersAt
  rw [valueAt?_cons]
  cases target.member? name with
  | none =>
      cases place with
      | nil => rfl
      | cons name rest => rfl
  | some inner => rfl

theorem member?_writtenAt_self (written : Json) (name : String) (rest : List String)
    (target : Json) :
    (writtenAt written (name :: rest) target).member? name =
      some (writtenAt written rest ((target.member? name).getD .empty)) := by
  rw [writtenAt, member?_obj, Entries.find?_put_self]

theorem member?_writtenAt_ne (written : Json) {name other : String} (rest : List String)
    (target : Json) (differ : name ≠ other) :
    (writtenAt written (name :: rest) target).member? other = target.member? other := by
  rw [writtenAt, member?_obj, Entries.find?_put_ne _ _ differ]
  cases held : target.members? <;> simp [member?, held]

/-! ## What is found after a write -/

theorem valueAt?_writtenAt_inside (written : Json) (place below : List String) (target : Json) :
    (writtenAt written place target).valueAt? (place ++ below) = written.valueAt? below := by
  induction place generalizing target with
  | nil => rfl
  | cons name rest ih =>
      rw [List.cons_append, valueAt?_cons, member?_writtenAt_self]
      exact ih _

/-- On the way to a place stands an object, with one name more at most. -/
theorem valueAt?_writtenAt_on_way (written : Json) (way : List String) (name : String)
    (rest : List String) (target : Json) :
    ∃ child, (writtenAt written (way ++ name :: rest) target).valueAt? way =
      some (.obj ((target.membersAt way).put name child)) := by
  induction way generalizing target with
  | nil => exact ⟨_, rfl⟩
  | cons first way ih =>
      obtain ⟨child, found⟩ := ih ((target.member? first).getD .empty)
      rw [membersAt_inner] at found
      refine ⟨child, ?_⟩
      rw [List.cons_append, valueAt?_cons, member?_writtenAt_self]
      exact found

theorem valueAt?_writtenAt_apart {other : List String} (apart : Apart place other)
    (written target : Json) :
    (writtenAt written place target).valueAt? other = target.valueAt? other := by
  induction place generalizing other target with
  | nil => exact absurd apart Apart.not_nil_left
  | cons name rest ih =>
      cases other with
      | nil => exact absurd apart Apart.not_nil_right
      | cons first others =>
          by_cases same : name = first
          · subst same
            have apart : Apart rest others := Apart.cons_cons_iff.mp apart rfl
            have some_name : others ≠ [] := by
              rintro rfl
              exact Apart.not_nil_right apart
            rw [valueAt?_cons, member?_writtenAt_self]
            exact (ih apart _).trans (valueAt?_inner target name some_name)
          · rw [valueAt?_cons, member?_writtenAt_ne written rest target same, valueAt?_cons]

/-! ## Values that grow by writing -/

/-- On the way to a place there are only objects, as far as there is anything. -/
def Open (value : Json) (place : List String) : Prop :=
  ∀ way name rest found, place = way ++ name :: rest → value.valueAt? way = some found →
    ∃ members, found = .obj members

/-- A value holds only what stands at some places and the objects on the way to them,
with every name once. -/
def GrownAt (places : List (List String)) (value : Json) : Prop :=
  ∀ place found, value.valueAt? place = some found →
    (∃ target ∈ places, target <+: place) ∨
      (place = [] ∨ ∃ target ∈ places, place <+: target) ∧
        ∃ members : Entries Json, found = .obj members ∧ members.Distinct

theorem Open.inner {value : Json} {name : String} {place : List String}
    (free : Open value (name :: place)) : Open ((value.member? name).getD .empty) place := by
  intro way next rest found split held
  cases way with
  | nil =>
      cases inner : value.member? name with
      | none =>
          rw [inner] at held
          cases held
          exact ⟨[], rfl⟩
      | some inside =>
          rw [inner] at held
          refine free [name] next rest found (by rw [split]; rfl) ?_
          rw [valueAt?_cons, inner]
          exact held
  | cons first way =>
      refine free (name :: first :: way) next rest found (by rw [split]; rfl) ?_
      rw [← valueAt?_inner value name (List.cons_ne_nil first way)]
      exact held

namespace GrownAt

variable {places : List (List String)} {value : Json}

theorem empty : GrownAt [] Json.empty := by
  intro place found held
  cases place with
  | nil =>
      cases held
      exact Or.inr ⟨Or.inl rfl, [], rfl, List.nodup_nil⟩
  | cons name rest => cases held

/-- What is found on the way to a new place that is apart from all others. -/
theorem on_way (grown : GrownAt places value) {way rest : List String}
    (apart : ∀ other ∈ places, Apart other (way ++ rest)) {found : Json}
    (held : value.valueAt? way = some found) :
    ∃ members : Entries Json, found = .obj members ∧ members.Distinct := by
  rcases grown way found held with ⟨target, inside, above⟩ | ⟨_, object⟩
  · exact absurd (above.trans (List.prefix_append way rest)) (apart target inside).1
  · exact object

theorem isOpen (grown : GrownAt places value) {place : List String}
    (apart : ∀ other ∈ places, Apart other place) : Open value place := by
  rintro way name rest found rfl held
  obtain ⟨members, object, _⟩ := grown.on_way apart held
  exact ⟨members, object⟩

theorem distinct_membersAt (grown : GrownAt places value) {way rest : List String}
    (apart : ∀ other ∈ places, Apart other (way ++ rest)) :
    (value.membersAt way).Distinct := by
  unfold membersAt
  cases held : value.valueAt? way with
  | none => exact List.nodup_nil
  | some found =>
      obtain ⟨members, rfl, distinct⟩ := grown.on_way apart held
      exact distinct

theorem writtenAt (grown : GrownAt places value) {place : List String}
    (apart : ∀ other ∈ places, Apart other place) (written : Json) :
    GrownAt (places ++ [place]) (Json.writtenAt written place value) := by
  intro reached found held
  by_cases inside : place <+: reached
  · exact Or.inl ⟨place, by simp, inside⟩
  by_cases above : reached <+: place
  · obtain ⟨rest, rfl⟩ := above
    cases rest with
    | nil => exact absurd (by simp) inside
    | cons name rest =>
        obtain ⟨child, object⟩ :=
          valueAt?_writtenAt_on_way written reached name rest value
        rw [object] at held
        cases held
        refine Or.inr ⟨Or.inr ⟨reached ++ name :: rest, by simp, List.prefix_append _ _⟩, ?_⟩
        exact ⟨_, rfl, (grown.distinct_membersAt apart).put name child⟩
  · rw [valueAt?_writtenAt_apart ⟨inside, above⟩] at held
    rcases grown reached found held with ⟨target, listed, below⟩ | ⟨way, object⟩
    · exact Or.inl ⟨target, List.mem_append_left _ listed, below⟩
    · refine Or.inr ⟨way.imp_right ?_, object⟩
      rintro ⟨target, listed, below⟩
      exact ⟨target, List.mem_append_left _ listed, below⟩

end GrownAt

end Json

end GraphBatch
