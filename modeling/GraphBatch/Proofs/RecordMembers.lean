import Mathlib.Data.List.Nodup
import Mathlib.Data.List.Pairwise
import GraphBatch.Proofs.Decoding

/-!
# Records from their members

A record that refuses unknown members is decoded from an object exactly if every member
is known and decodes, no two of them are spellings of one, and every required member is
given. What each member leaves true of the record while the members are read is true of
the record that is decoded.
-/

namespace GraphBatch.Json

def IsList (value : Json) : Prop := ∃ items, value = .arr items

/-- A value that is an object whose members a result holds. -/
def Given {α : Type} (holds : Entries Json → α → Prop) (value : Json) (result : α) : Prop :=
  ∃ members : Entries Json, value = .obj members ∧ holds members result

/-- A source whose members, if it is an object, are all as they should be. -/
def Source.EachMember (sound : String × Source → Prop) (source : Source) : Prop :=
  ∀ members ending, source = .object members ending → ∀ member ∈ members, sound member

theorem Source.IsPlain.eachMember {source : Source} (plain : source.IsPlain) :
    source.EachMember fun member => member.2.IsPlain := by
  rintro members ending rfl
  exact (Source.isPlain_object.mp plain).1

namespace RecordField

variable {σ α : Type}

/-- A member, by one of its spellings, whose value decodes. -/
def Takes (field : RecordField σ) (member : String × Source) : Prop :=
  (∃ change, field.decode member.2 = .ok change) ∧ member.1 ∈ field.spellings

theorem takes_iff {name : String} {spellings : List String} {required : Bool}
    {decode : Source → Decoded α} {write : α → σ → σ} {member : String × Source} :
    Takes ⟨name, spellings, required, fun source => (decode source).map write⟩ member ↔
      (∃ value, decode member.2 = .ok value) ∧ member.1 ∈ spellings := by
  exact and_congr_left fun _ => Outcome.exists_map_eq_ok

theorem takes_given {name : String} {decode : Source → Decoded α} {write : α → σ → σ}
    {member : String × Source} :
    (given name decode write).Takes member ↔
      (∃ value, decode member.2 = .ok value) ∧ member.1 = name := by
  rw [given, takes_iff, List.mem_singleton]

theorem takes_defaulted {name : String} {decode : Source → Decoded α} {write : α → σ → σ}
    {member : String × Source} :
    (defaulted name decode write).Takes member ↔
      (∃ value, decode member.2 = .ok value) ∧ member.1 = name := by
  rw [defaulted, takes_iff, List.mem_singleton]

end RecordField

namespace RecordType

variable {σ : Type} {type : RecordType σ}

/-- The name of the member that a spelling gives; an unknown one stands for itself. -/
def nameOf (type : RecordType σ) (spelling : String) : String :=
  ((type.field? spelling).map RecordField.name).getD spelling

def names (type : RecordType σ) (members : Entries Source) : List String :=
  members.keys.map type.nameOf

def Decodes (type : RecordType σ) (member : String × Source) : Prop :=
  ∃ field change, type.field? member.1 = some field ∧ field.decode member.2 = .ok change

theorem nameOf_eq {spelling : String} {field : RecordField σ}
    (known : type.field? spelling = some field) : type.nameOf spelling = field.name := by
  rw [nameOf, known]
  rfl

theorem mem_of_field? {spelling : String} {field : RecordField σ}
    (known : type.field? spelling = some field) :
    field ∈ type.fields ∧ spelling ∈ field.spellings := by
  rw [field?] at known
  have spelled := List.find?_some known
  exact ⟨List.mem_of_find?_eq_some known, List.contains_iff_mem.mp spelled⟩

/-- A member whose spellings belong to no other is found by each of them. -/
theorem field?_of_mem (apart : type.spellings.Nodup) {spelling : String}
    {field : RecordField σ} (inside : field ∈ type.fields) (spelled : spelling ∈ field.spellings) :
    type.field? spelling = some field := by
  have found : (type.field? spelling).isSome := by
    rw [field?, List.find?_isSome]
    exact ⟨field, inside, List.contains_iff_mem.mpr spelled⟩
  obtain ⟨other, known⟩ := Option.isSome_iff_exists.mp found
  obtain ⟨also_inside, also_spelled⟩ := mem_of_field? known
  have same : other = field := by
    by_contra differ
    have symmetric : Std.Symm (Function.onFun List.Disjoint (RecordField.spellings (σ := σ))) :=
      ⟨fun _ _ => List.disjoint_symm⟩
    exact (List.nodup_flatMap.mp apart).2.forall also_inside inside differ also_spelled spelled
  rw [known, same]

theorem nameOf_of_single (single : ∀ field ∈ type.fields, field.spellings = [field.name]) :
    type.nameOf = id := by
  funext spelling
  cases known : type.field? spelling with
  | none =>
      rw [nameOf, known]
      rfl
  | some field =>
      obtain ⟨inside, spelled⟩ := mem_of_field? known
      rw [single field inside, List.mem_singleton] at spelled
      rw [nameOf_eq known, spelled]
      rfl

/-- Where no two members share a spelling, what decodes is taken by one of the members. -/
theorem decodes_iff (apart : type.spellings.Nodup) {member : String × Source} :
    type.Decodes member ↔ ∃ field ∈ type.fields, field.Takes member := by
  constructor
  · rintro ⟨field, change, known, decoded⟩
    obtain ⟨inside, spelled⟩ := mem_of_field? known
    exact ⟨field, inside, ⟨change, decoded⟩, spelled⟩
  · rintro ⟨field, inside, ⟨change, decoded⟩, spelled⟩
    exact ⟨field, change, field?_of_mem apart inside spelled, decoded⟩

/-! ## One member and the members after it -/

/-- A member is read if it is known, not given before, and decodes. -/
theorem decodeMembers_cons_eq_ok (strict : type.strict = true) {spelling : String}
    {item : Source} {rest : List (String × Source)} {seen : List String} {record : σ}
    {result : List String × σ} :
    type.decodeMembers ((spelling, item) :: rest) seen record = .ok result ↔
      ∃ field change, type.field? spelling = some field ∧ field.name ∉ seen ∧
        field.decode item = .ok change ∧
        type.decodeMembers rest (field.name :: seen) (change record) = .ok result := by
  rw [decodeMembers]
  cases known : type.field? spelling with
  | none =>
      simp only [strict, if_true]
      constructor
      · intro impossible
        cases impossible
      · rintro ⟨_, _, impossible, _⟩
        cases impossible
  | some field =>
      simp only [List.contains_iff_mem]
      constructor
      · intro done
        split at done
        · cases done
        · rename_i fresh
          obtain ⟨change, decoded, done⟩ := Outcome.bind_eq_ok.mp done
          exact ⟨field, change, rfl, fresh, decoded, done⟩
      · rintro ⟨_, change, same, fresh, decoded, done⟩
        cases same
        rw [if_neg fresh, Outcome.bind_eq_ok]
        exact ⟨change, decoded, done⟩

/-- Every member that was read was seen. -/
theorem seen_of_decodeMembers (strict : type.strict = true) {members : Entries Source}
    {seen after : List String} {record last : σ}
    (done : type.decodeMembers members seen record = .ok (after, last)) :
    after = (type.names members).reverse ++ seen := by
  induction members generalizing seen record with
  | nil =>
      cases done
      rfl
  | cons member rest ih =>
      obtain ⟨field, change, known, _, _, done⟩ := (decodeMembers_cons_eq_ok strict).mp done
      rw [ih done, names, names, Entries.keys_cons, List.map_cons, nameOf_eq known,
        List.reverse_cons, List.append_assoc, List.singleton_append]

/-- Members are read if each of them decodes and none of them is given twice. -/
theorem exists_decodeMembers_iff (strict : type.strict = true) (members : Entries Source)
    (seen : List String) (record : σ) :
    (∃ result, type.decodeMembers members seen record = .ok result) ↔
      (∀ member ∈ members, type.Decodes member) ∧ (type.names members).Nodup ∧
        ∀ name ∈ type.names members, name ∉ seen := by
  induction members generalizing seen record with
  | nil => exact iff_of_true ⟨_, rfl⟩ ⟨List.forall_mem_nil _, List.nodup_nil, List.forall_mem_nil _⟩
  | cons member rest ih =>
      rw [List.forall_mem_cons, names, Entries.keys_cons, List.map_cons, List.nodup_cons,
        List.forall_mem_cons]
      constructor
      · rintro ⟨result, done⟩
        obtain ⟨field, change, known, fresh, decoded, done⟩ :=
          (decodeMembers_cons_eq_ok strict).mp done
        obtain ⟨each, once, unseen⟩ := (ih _ _).mp ⟨result, done⟩
        rw [nameOf_eq known]
        refine ⟨⟨⟨field, change, known, decoded⟩, each⟩, ⟨fun again => ?_, once⟩, fresh, ?_⟩
        · exact unseen _ again List.mem_cons_self
        · exact fun name inside before => unseen name inside (List.mem_cons_of_mem _ before)
      · rintro ⟨⟨⟨field, change, known, decoded⟩, each⟩, ⟨single, once⟩, fresh, unseen⟩
        rw [nameOf_eq known] at single fresh
        have later : ∀ name ∈ type.names rest, name ∉ field.name :: seen := by
          intro name inside before
          rcases List.mem_cons.mp before with rfl | before
          · exact single inside
          · exact unseen name inside before
        obtain ⟨result, done⟩ := (ih (field.name :: seen) (change record)).mpr ⟨each, once, later⟩
        exact ⟨result, (decodeMembers_cons_eq_ok strict).mpr
          ⟨field, change, known, fresh, decoded, done⟩⟩

/-! ## Whole records -/

theorem missing?_eq_none_iff {seen : List String} :
    type.missing? seen = none ↔
      ∀ field ∈ type.fields, field.required = true → field.name ∈ seen := by
  rw [missing?, Option.map_eq_none_iff, List.find?_eq_none]
  refine forall₂_congr fun field _ => ?_
  rw [Bool.and_eq_true, Bool.not_eq_true', ← Bool.not_eq_true, List.contains_iff_mem, not_and,
    not_not]

theorem decode_object_eq_ok {members : Entries Source} {ending : Ending} (closed : ending ≠ .cut)
    {record : σ} :
    type.decode (.object members ending) = .ok record ↔
      ∃ seen, type.decodeMembers members [] type.blank = .ok (seen, record) ∧
        type.missing? seen = none := by
  rw [decode, Outcome.bind_eq_ok]
  constructor
  · rintro ⟨⟨seen, last⟩, done, given⟩
    obtain ⟨_, _, given⟩ := Outcome.bind_eq_ok.mp given
    cases lacking : type.missing? seen with
    | some name =>
        rw [lacking] at given
        cases given
    | none =>
        rw [lacking] at given
        cases given
        exact ⟨seen, done, lacking⟩
  · rintro ⟨seen, done, lacking⟩
    have ended := Source.decodeEnd_eq_ok.mpr closed
    refine ⟨(seen, record), done, Outcome.bind_eq_ok.mpr ⟨(), ended, ?_⟩⟩
    rw [lacking]

/-- A record is decoded from an object exactly if every member is known and decodes, no
two of them are spellings of one, and every required member is given. -/
theorem exists_decode_iff (strict : type.strict = true) (members : Entries Source)
    {ending : Ending} (closed : ending ≠ .cut) :
    (∃ record, type.decode (.object members ending) = .ok record) ↔
      (∀ member ∈ members, type.Decodes member) ∧ (type.names members).Nodup ∧
        ∀ field ∈ type.fields, field.required = true → field.name ∈ type.names members := by
  have reads := exists_decodeMembers_iff strict members [] type.blank
  constructor
  · rintro ⟨record, decoded⟩
    obtain ⟨seen, done, lacking⟩ := (decode_object_eq_ok closed).mp decoded
    obtain ⟨each, once, _⟩ := reads.mp ⟨_, done⟩
    refine ⟨each, once, fun field inside needed => ?_⟩
    have given := missing?_eq_none_iff.mp lacking field inside needed
    rw [seen_of_decodeMembers strict done, List.append_nil, List.mem_reverse] at given
    exact given
  · rintro ⟨each, once, given⟩
    obtain ⟨⟨seen, record⟩, done⟩ := reads.mpr ⟨each, once, fun _ _ => List.not_mem_nil⟩
    refine ⟨record, (decode_object_eq_ok closed).mpr
      ⟨seen, done, missing?_eq_none_iff.mpr fun field inside needed => ?_⟩⟩
    rw [seen_of_decodeMembers strict done, List.append_nil, List.mem_reverse]
    exact given field inside needed

/-- A record that is not given as a list is decoded exactly from an object of params that
it takes, each given once and none of the required ones left out. -/
theorem exists_decode_iff_written {sound : String × Source → Prop}
    {param : String → Json → Prop} (strict : type.strict = true)
    (reads : ∀ member, sound member →
      (type.Decodes member ↔ param member.1 member.2.written))
    {source : Source} (plain : source.IsPlain) (unlisted : ¬ source.written.IsList)
    (fits : source.EachMember sound) :
    (∃ record, type.decode source = .ok record) ↔
      ∃ members : Entries Json, source.written = .obj members ∧
        (∀ member ∈ members, param member.1 member.2) ∧ (members.keys.map type.nameOf).Nodup ∧
        ∀ field ∈ type.fields, field.required = true →
          field.name ∈ members.keys.map type.nameOf := by
  cases source with
  | object members ending =>
      obtain ⟨_, _, closed⟩ := Source.isPlain_object.mp plain
      have shaped : (∀ member ∈ members, type.Decodes member) ↔
          ∀ member ∈ Entries.mapValues Source.written members, param member.1 member.2 := by
        rw [Entries.mapValues, List.forall_mem_map]
        exact forall₂_congr fun member inside =>
          reads member (fits members ending rfl member inside)
      rw [exists_decode_iff strict members closed, Source.written_object, shaped, names]
      constructor
      · rintro ⟨each, once, given⟩
        refine ⟨_, rfl, each, ?_⟩
        rw [Entries.keys_mapValues]
        exact ⟨once, given⟩
      · rintro ⟨_, same, each, once, given⟩
        cases same
        rw [Entries.keys_mapValues] at once given
        exact ⟨each, once, given⟩
  | list items ending => exact absurd ⟨_, Source.written_list items ending⟩ unlisted
  | null | bool | int | float | str | malformed =>
      constructor
      · rintro ⟨_, impossible⟩
        cases impossible
      · rintro ⟨_, impossible, _⟩
        cases impossible

theorem exists_decode_iff_single {sound : String × Source → Prop}
    {param : String → Json → Prop} (strict : type.strict = true)
    (single : ∀ field ∈ type.fields, field.spellings = [field.name])
    (reads : ∀ member, sound member →
      (type.Decodes member ↔ param member.1 member.2.written))
    {source : Source} (plain : source.IsPlain) (unlisted : ¬ source.written.IsList)
    (fits : source.EachMember sound) :
    (∃ record, type.decode source = .ok record) ↔
      ∃ members : Entries Json, source.written = .obj members ∧
        (∀ member ∈ members, param member.1 member.2) ∧
        ∀ field ∈ type.fields, field.required = true → field.name ∈ members.keys := by
  rw [exists_decode_iff_written strict reads plain unlisted fits, nameOf_of_single single]
  refine exists_congr fun members => and_congr_right fun writes => and_congr_right fun _ => ?_
  rw [List.map_id]
  exact and_iff_right (plain.distinct writes)

/-! ## What the members leave true -/

/-- What is true of a record and of the members that were given so far: of the blank
record before any member, and after a member if it was before it. Members are `sound` if
what is known about their sources lets the step go through. -/
structure Carries (type : RecordType σ) (sound : String × Source → Prop)
    (holds : Entries Json → σ → Prop) : Prop where
  blank : holds [] type.blank
  step {prior : Entries Json} {spelling : String} {item : Source} {field : RecordField σ}
    {change : σ → σ} {record : σ} (inside : field ∈ type.fields)
    (spelled : spelling ∈ field.spellings) (fit : sound (spelling, item))
    (decoded : field.decode item = .ok change)
    (fresh : ∀ other ∈ field.spellings, prior.find? other = none)
    (held : holds prior record) : holds (prior ++ [(spelling, item.written)]) (change record)

namespace Carries

variable {sound : String × Source → Prop} {holds : Entries Json → σ → Prop}

theorem run (carries : type.Carries sound holds) (strict : type.strict = true)
    (apart : type.spellings.Nodup) {members : Entries Source}
    (fits : ∀ member ∈ members, sound member) {prior : Entries Json}
    {seen after : List String} {record last : σ}
    (covered : ∀ other ∈ prior.keys, type.nameOf other ∈ seen) (held : holds prior record)
    (done : type.decodeMembers members seen record = .ok (after, last)) :
    holds (prior ++ members.mapValues Source.written) last := by
  induction members generalizing prior seen record with
  | nil =>
      cases done
      rw [Entries.mapValues_nil, List.append_nil]
      exact held
  | cons member rest ih =>
      obtain ⟨spelling, item⟩ := member
      obtain ⟨fit, fits⟩ := List.forall_mem_cons.mp fits
      obtain ⟨field, change, known, unseen, decoded, done⟩ :=
        (decodeMembers_cons_eq_ok strict).mp done
      obtain ⟨inside, spelled⟩ := mem_of_field? known
      have fresh : ∀ other ∈ field.spellings, prior.find? other = none := by
        intro other also
        rw [Entries.find?_eq_none_iff]
        intro given
        have again := covered other given
        rw [nameOf_eq (field?_of_mem apart inside also)] at again
        exact unseen again
      have covers : ∀ other ∈ Entries.keys (prior ++ [(spelling, item.written)]),
          type.nameOf other ∈ field.name :: seen := by
        intro other given
        rw [Entries.keys_append, List.mem_append] at given
        rcases given with before | here
        · exact List.mem_cons_of_mem _ (covered other before)
        · rw [List.mem_singleton.mp here, nameOf_eq known]
          exact List.mem_cons_self
      have next := ih fits covers (carries.step inside spelled fit decoded fresh held) done
      rwa [List.append_assoc, List.singleton_append] at next

theorem given_of_decode (carries : type.Carries sound holds) (strict : type.strict = true)
    (apart : type.spellings.Nodup) {source : Source} (plain : source.IsPlain)
    (unlisted : ¬ source.written.IsList) (fits : source.EachMember sound) {record : σ}
    (decoded : type.decode source = .ok record) : Given holds source.written record := by
  cases source with
  | object members ending =>
      obtain ⟨_, _, closed⟩ := Source.isPlain_object.mp plain
      obtain ⟨seen, done, _⟩ := (decode_object_eq_ok closed).mp decoded
      exact ⟨_, Source.written_object members ending,
        carries.run strict apart (fits members ending rfl) (List.forall_mem_nil _) carries.blank
          done⟩
  | list items ending => exact absurd ⟨_, Source.written_list items ending⟩ unlisted
  | null | bool | int | float | str | malformed => cases decoded

end Carries

end RecordType

end GraphBatch.Json
