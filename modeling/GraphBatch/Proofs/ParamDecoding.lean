import GraphBatch.Params.Decode
import GraphBatch.Proofs.ParamShapes

/-!
# Decoding params

Reads and writes are decoded exactly from the values that have their shape, and hold
exactly what is given: every param that is not `null`, and nothing that is not there.
-/

namespace GraphBatch

open Json Source RecordType

namespace Json.Source

variable {α : Type} {decode : Source → Decoded α}

/-! ## Values that may be `null` -/

/-- What may be `null` holds what is given, if anything is. -/
theorem decodeOption_present {gives : Json → α → Prop} {source : Source}
    (plain : source.IsPlain)
    (reads : ∀ value, decode source = .ok value → gives source.written value)
    {value? : Option α} (decoded : decodeOption decode source = .ok value?) :
    Option.Rel gives (present? (some source.written)) value? := by
  rcases (decodeOption_eq_ok plain.1).mp decoded with ⟨absent, rfl⟩ | ⟨differ, value, read, rfl⟩
  · rw [absent]
    exact .none
  · rw [present?_some differ]
    exact .some (reads value read)

theorem map_eq_of_rel (encode : α → Json) {given : Option Json} {value? : Option α}
    (same : Option.Rel (fun given value => given = encode value) given value?) :
    value?.map encode = given := by
  cases same with
  | none => rfl
  | some same => exact congrArg some same.symm

variable {source : Source} (plain : source.IsPlain)

include plain

theorem decodeOption_json {value? : Option Json}
    (decoded : decodeOption decodeJson source = .ok value?) :
    value? = present? (some source.written) := by
  have same := map_eq_of_rel id (decodeOption_present plain
    (fun _ read => ((decodeJson_of_plain plain).mp read).symm) decoded)
  rwa [Option.map_id] at same

theorem decodeOption_text {text? : Option String}
    (decoded : decodeOption decodeString source = .ok text?) :
    text?.map .str = present? (some source.written) :=
  map_eq_of_rel .str (decodeOption_present plain (fun _ read => decodeString_eq_ok.mp read) decoded)

theorem decodeOption_texts {texts? : Option (List String)}
    (decoded : decodeOption (decodeList decodeString) source = .ok texts?) :
    texts?.map .ofStrings = present? (some source.written) :=
  map_eq_of_rel .ofStrings
    (decodeOption_present plain (fun _ read => (decodeTexts_eq_ok plain.1).mp read) decoded)

theorem decodeOption_count {count? : Option Nat}
    (decoded : decodeOption (decodeNat 64) source = .ok count?) :
    count?.map .ofNat = present? (some source.written) :=
  map_eq_of_rel .ofNat
    (decodeOption_present plain (fun _ read => (decodeNat_eq_ok.mp read).2) decoded)

theorem decode_selection {selection : Selection}
    (decoded : Selection.decode source = .ok selection) :
    selection = Selection.ofJson source.written := by
  rw [((Selection.decode_eq_ok source plain.1 selection).mp decoded).2,
    merged_of_unrepeated _ plain.2]

theorem exists_json_iff : (∃ value, decodeJson source = .ok value) ↔ True :=
  iff_of_true ⟨_, (decodeJson_of_plain plain).mpr rfl⟩ trivial

theorem exists_selection_iff :
    (∃ selection, Selection.decode source = .ok selection) ↔
      Selection.Accepts source.written := by
  simp only [Selection.decode_eq_ok source plain.1, exists_and_left, exists_eq, and_true]

theorem exists_orNull_iff {fits : Json → Prop}
    (reads : (∃ value, decode source = .ok value) ↔ fits source.written) :
    (∃ value?, decodeOption decode source = .ok value?) ↔ source.written.OrNull fits := by
  rw [exists_decodeOption_iff plain.1, reads, OrNull]

theorem exists_json?_iff : (∃ value?, decodeOption decodeJson source = .ok value?) ↔ True := by
  rw [exists_decodeOption_iff plain.1, exists_json_iff plain, or_true]

theorem exists_text?_iff :
    (∃ text?, decodeOption decodeString source = .ok text?) ↔ source.written.OrNull IsText :=
  exists_orNull_iff plain (exists_congr fun _ => decodeString_eq_ok)

theorem exists_texts?_iff :
    (∃ texts?, decodeOption (decodeList decodeString) source = .ok texts?) ↔
      source.written.OrNull IsTexts :=
  exists_orNull_iff plain (exists_congr fun _ => decodeTexts_eq_ok plain.1)

theorem exists_count?_iff :
    (∃ count?, decodeOption (decodeNat 64) source = .ok count?) ↔
      source.written.OrNull IsCount :=
  exists_orNull_iff plain (exists_congr fun _ => decodeNat_eq_ok)

end Json.Source

/-! ## Reads -/

namespace Select

theorem spellings_apart : Select.record.spellings.Nodup := by decide

/-- Every member that is read leaves a read that holds what was given. -/
theorem carries : Select.record.Carries (fun member => member.2.IsPlain) Holds where
  blank := ⟨rfl, rfl, rfl, rfl, rfl, rfl, rfl, rfl⟩
  step := by
    intro prior spelling item field change select inside spelled plain decoded fresh held
    obtain ⟨table, filter, order, limit, offset, distinct, fields, fragment⟩ := held
    simp only [Select.record, List.mem_cons, List.not_mem_nil, or_false] at inside
    rcases inside with rfl | rfl | rfl | rfl | rfl | rfl | rfl | rfl
    all_goals
      obtain ⟨value, read, rfl⟩ := Outcome.map_eq_ok.mp decoded
      obtain rfl := List.mem_singleton.mp spelled
      have absent := fresh _ spelled
    · have own := decodeOption_text plain read
      constructor <;> simp [Entries.find?_concat, *]
    · have own := decodeOption_json plain read
      constructor <;> simp [Entries.find?_concat, *]
    · have own := decodeOption_json plain read
      constructor <;> simp [Entries.find?_concat, *]
    · have own := decodeOption_count plain read
      constructor <;> simp [Entries.find?_concat, *]
    · have own := decodeOption_count plain read
      constructor <;> simp [Entries.find?_concat, *]
    · have own := decodeOption_texts plain read
      constructor <;> simp [Entries.find?_concat, *]
    · have own := decode_selection plain read
      constructor <;> simp [Entries.find?_concat, *]
    · have own := decodeOption_text plain read
      constructor <;> simp [Entries.find?_concat, *]

theorem decodes_iff_param (member : String × Source) (plain : member.2.IsPlain) :
    Select.record.Decodes member ↔ Param member.1 member.2.written := by
  rw [decodes_iff spellings_apart, param_iff]
  simp only [Select.record, List.exists_mem_cons_iff, List.not_mem_nil, false_and, exists_false,
    or_false, RecordField.takes_defaulted, exists_json?_iff plain, exists_text?_iff plain,
    exists_texts?_iff plain, exists_count?_iff plain, exists_selection_iff plain, true_and]

/-- A read is decoded exactly from an object of the params of a read. -/
theorem exists_decode_iff {source : Source} (plain : source.IsPlain)
    (unlisted : ¬ source.written.IsList) :
    (∃ select, Select.record.decode source = .ok select) ↔ Accepts source.written := by
  rw [exists_decode_iff_single rfl (by decide) decodes_iff_param plain unlisted
    plain.eachMember]
  simp only [Select.record, List.forall_mem_cons, List.not_mem_nil, RecordField.defaulted,
    Bool.false_eq_true, false_implies, implies_true, and_true]
  rfl

theorem given_of_decode {source : Source} (plain : source.IsPlain)
    (unlisted : ¬ source.written.IsList) {select : Select}
    (decoded : Select.record.decode source = .ok select) : Given Holds source.written select :=
  carries.given_of_decode rfl spellings_apart plain unlisted plain.eachMember decoded

end Select

/-! ## Writes -/

namespace Insert

theorem spellings_apart : Insert.record.spellings.Nodup := by decide

theorem carries : Insert.record.Carries (fun member => member.2.IsPlain) Holds where
  blank := ⟨rfl, rfl, rfl⟩
  step := by
    intro prior spelling item field change insert inside spelled plain decoded fresh held
    obtain ⟨objects, onConflict, returning⟩ := held
    simp only [Insert.record, List.mem_cons, List.not_mem_nil, or_false] at inside
    rcases inside with rfl | rfl | rfl
    all_goals
      obtain ⟨value, read, rfl⟩ := Outcome.map_eq_ok.mp decoded
      obtain rfl := List.mem_singleton.mp spelled
      have absent := fresh _ spelled
    · have own := (decodeJson_of_plain plain).mp read
      constructor <;> simp [Entries.find?_concat, ofOption, *]
    · have own := decodeOption_json plain read
      constructor <;> simp [Entries.find?_concat, *]
    · have own := decode_selection plain read
      constructor <;> simp [Entries.find?_concat, *]

theorem decodes_iff_param (member : String × Source) (plain : member.2.IsPlain) :
    Insert.record.Decodes member ↔ Param member.1 member.2.written := by
  rw [decodes_iff spellings_apart, param_iff]
  simp only [Insert.record, List.exists_mem_cons_iff, List.not_mem_nil, false_and, exists_false,
    or_false, RecordField.takes_given, RecordField.takes_defaulted, exists_json_iff plain,
    exists_json?_iff plain, exists_selection_iff plain, true_and]

/-- An insert is decoded exactly from an object of its params that has the objects. -/
theorem exists_decode_iff {source : Source} (plain : source.IsPlain)
    (unlisted : ¬ source.written.IsList) :
    (∃ insert, Insert.record.decode source = .ok insert) ↔ Accepts source.written := by
  rw [exists_decode_iff_single rfl (by decide) decodes_iff_param plain unlisted
    plain.eachMember]
  simp only [Insert.record, List.forall_mem_cons, List.not_mem_nil, RecordField.given,
    RecordField.defaulted, Bool.false_eq_true, false_implies, implies_true, forall_true_left,
    and_true]
  rfl

theorem given_of_decode {source : Source} (plain : source.IsPlain)
    (unlisted : ¬ source.written.IsList) {insert : Insert}
    (decoded : Insert.record.decode source = .ok insert) : Given Holds source.written insert :=
  carries.given_of_decode rfl spellings_apart plain unlisted plain.eachMember decoded

end Insert

namespace Update

theorem spellings_apart : Update.record.spellings.Nodup := by decide

theorem carries : Update.record.Carries (fun member => member.2.IsPlain) Holds where
  blank := ⟨rfl, rfl, rfl, rfl⟩
  step := by
    intro prior spelling item field change update inside spelled plain decoded fresh held
    obtain ⟨filter, set, increment, returning⟩ := held
    simp only [Update.record, List.mem_cons, List.not_mem_nil, or_false] at inside
    rcases inside with rfl | rfl | rfl | rfl
    all_goals
      obtain ⟨value, read, rfl⟩ := Outcome.map_eq_ok.mp decoded
    · obtain rfl := List.mem_singleton.mp spelled
      have absent := fresh _ spelled
      have own := (decodeJson_of_plain plain).mp read
      constructor <;> simp [Entries.find?_concat, ofOption, *]
    · have own := decodeOption_json plain read
      simp only [List.forall_mem_cons] at fresh
      simp only [List.mem_cons, List.not_mem_nil, or_false] at spelled
      rcases spelled with rfl | rfl <;> constructor <;> simp [Entries.find?_concat, *]
    · have own := decodeOption_json plain read
      simp only [List.forall_mem_cons] at fresh
      simp only [List.mem_cons, List.not_mem_nil, or_false] at spelled
      rcases spelled with rfl | rfl <;> constructor <;> simp [Entries.find?_concat, *]
    · obtain rfl := List.mem_singleton.mp spelled
      have absent := fresh _ spelled
      have own := decode_selection plain read
      constructor <;> simp [Entries.find?_concat, *]

theorem decodes_iff_param (member : String × Source) (plain : member.2.IsPlain) :
    Update.record.Decodes member ↔ Param member.1 member.2.written := by
  rw [decodes_iff spellings_apart, param_iff]
  simp only [Update.record, List.exists_mem_cons_iff, List.not_mem_nil, false_and, exists_false,
    or_false, RecordField.takes_given, RecordField.takes_defaulted, RecordField.takes_iff,
    exists_json_iff plain, exists_json?_iff plain, exists_selection_iff plain, true_and]
  simp only [List.mem_cons, List.not_mem_nil, or_false, or_assoc]

/-- The spellings with a mark are those of the same members without it. -/
theorem nameOf_eq (spelling : String) : Update.record.nameOf spelling =
    if spelling = "_set" then "set" else if spelling = "_inc" then "inc" else spelling := by
  by_cases set : spelling = "_set"
  · subst set
    decide
  by_cases inc : spelling = "_inc"
  · subst inc
    decide
  rw [if_neg set, if_neg inc]
  cases known : Update.record.field? spelling with
  | none =>
      rw [nameOf, known]
      rfl
  | some field =>
      obtain ⟨inside, spelled⟩ := mem_of_field? known
      rw [RecordType.nameOf_eq known]
      simp only [Update.record, List.mem_cons, List.not_mem_nil, or_false] at inside
      rcases inside with rfl | rfl | rfl | rfl <;>
        simp_all [RecordField.given, RecordField.defaulted]

/-- Names are given once exactly if no member is given in two spellings. -/
theorem names_nodup_iff {keys : List String} (distinct : keys.Nodup) :
    (keys.map Update.record.nameOf).Nodup ↔
      ¬ ("set" ∈ keys ∧ "_set" ∈ keys) ∧ ¬ ("inc" ∈ keys ∧ "_inc" ∈ keys) := by
  rw [List.nodup_map_iff_inj_on distinct]
  simp only [nameOf_eq]
  constructor
  · intro apart
    refine ⟨fun ⟨plain, marked⟩ => ?_, fun ⟨plain, marked⟩ => ?_⟩
    · have := apart _ plain _ marked (by decide)
      revert this
      decide
    · have := apart _ plain _ marked (by decide)
      revert this
      decide
  · rintro ⟨set, inc⟩ first first_given second second_given same
    grind

theorem filter_mem_names_iff {keys : List String} :
    "where" ∈ keys.map Update.record.nameOf ↔ "where" ∈ keys := by
  rw [List.mem_map]
  constructor
  · rintro ⟨spelling, given, named⟩
    rw [nameOf_eq] at named
    grind
  · intro given
    exact ⟨"where", given, by rw [nameOf_eq]; decide⟩

/-- An update is decoded exactly from an object of its params that has the filter and no
member in two spellings. -/
theorem exists_decode_iff {source : Source} (plain : source.IsPlain)
    (unlisted : ¬ source.written.IsList) :
    (∃ update, Update.record.decode source = .ok update) ↔ Accepts source.written := by
  rw [exists_decode_iff_written rfl decodes_iff_param plain unlisted plain.eachMember]
  refine exists_congr fun members => and_congr_right fun writes => and_congr_right fun _ => ?_
  rw [names_nodup_iff (plain.distinct writes), and_comm]
  refine and_congr_left fun _ => ?_
  simp only [Update.record, List.forall_mem_cons, List.not_mem_nil, RecordField.given,
    RecordField.defaulted, Bool.false_eq_true, false_implies, implies_true, forall_true_left,
    and_true]
  exact filter_mem_names_iff

theorem given_of_decode {source : Source} (plain : source.IsPlain)
    (unlisted : ¬ source.written.IsList) {update : Update}
    (decoded : Update.record.decode source = .ok update) : Given Holds source.written update :=
  carries.given_of_decode rfl spellings_apart plain unlisted plain.eachMember decoded

end Update

namespace Delete

theorem spellings_apart : Delete.record.spellings.Nodup := by decide

theorem carries : Delete.record.Carries (fun member => member.2.IsPlain) Holds where
  blank := ⟨rfl, rfl⟩
  step := by
    intro prior spelling item field change delete inside spelled plain decoded fresh held
    obtain ⟨filter, returning⟩ := held
    simp only [Delete.record, List.mem_cons, List.not_mem_nil, or_false] at inside
    rcases inside with rfl | rfl
    all_goals
      obtain ⟨value, read, rfl⟩ := Outcome.map_eq_ok.mp decoded
      obtain rfl := List.mem_singleton.mp spelled
      have absent := fresh _ spelled
    · have own := (decodeJson_of_plain plain).mp read
      constructor <;> simp [Entries.find?_concat, ofOption, *]
    · have own := decode_selection plain read
      constructor <;> simp [Entries.find?_concat, *]

theorem decodes_iff_param (member : String × Source) (plain : member.2.IsPlain) :
    Delete.record.Decodes member ↔ Param member.1 member.2.written := by
  rw [decodes_iff spellings_apart, param_iff]
  simp only [Delete.record, List.exists_mem_cons_iff, List.not_mem_nil, false_and, exists_false,
    or_false, RecordField.takes_given, RecordField.takes_defaulted, exists_json_iff plain,
    exists_selection_iff plain, true_and]

/-- A deletion is decoded exactly from an object of its params that has the filter. -/
theorem exists_decode_iff {source : Source} (plain : source.IsPlain)
    (unlisted : ¬ source.written.IsList) :
    (∃ delete, Delete.record.decode source = .ok delete) ↔ Accepts source.written := by
  rw [exists_decode_iff_single rfl (by decide) decodes_iff_param plain unlisted
    plain.eachMember]
  simp only [Delete.record, List.forall_mem_cons, List.not_mem_nil, RecordField.given,
    RecordField.defaulted, Bool.false_eq_true, false_implies, implies_true, forall_true_left,
    and_true]
  rfl

theorem given_of_decode {source : Source} (plain : source.IsPlain)
    (unlisted : ¬ source.written.IsList) {delete : Delete}
    (decoded : Delete.record.decode source = .ok delete) : Given Holds source.written delete :=
  carries.given_of_decode rfl spellings_apart plain unlisted plain.eachMember decoded

end Delete

namespace Write

theorem spellings_apart : Write.record.spellings.Nodup := by decide

/-- A plain member that is not a write given as a list. -/
def Sound (member : String × Source) : Prop :=
  member.2.IsPlain ∧ ∀ action : Action, member.1 = action.text → ¬ member.2.written.IsList

theorem eachMember_sound {source : Source} (plain : source.IsPlain)
    (unlisted : Unlisted source.written) : source.EachMember Sound := by
  rintro members ending rfl member inside
  refine ⟨(isPlain_object.mp plain).1 member inside, fun action named => ?_⟩
  refine unlisted _ (written_object members ending) action _ ?_
  exact named ▸ List.mem_map_of_mem inside

/-- Every member that is read leaves writes that hold what was given. -/
theorem carries : Write.record.Carries Sound Holds where
  blank := ⟨.none, .none, .none⟩
  step := by
    intro prior spelling item field change write inside spelled sound decoded fresh held
    obtain ⟨plain, listed⟩ := sound
    obtain ⟨insert, update, delete⟩ := held
    simp only [Write.record, List.mem_cons, List.not_mem_nil, or_false] at inside
    rcases inside with rfl | rfl | rfl
    all_goals
      obtain ⟨value, read, rfl⟩ := Outcome.map_eq_ok.mp decoded
      obtain rfl := List.mem_singleton.mp spelled
      have absent := fresh _ spelled
    · have own := decodeOption_present plain
        (fun _ decoded => Insert.given_of_decode plain (listed .insert rfl) decoded) read
      constructor <;> simp [Entries.find?_concat, *]
    · have own := decodeOption_present plain
        (fun _ decoded => Update.given_of_decode plain (listed .update rfl) decoded) read
      constructor <;> simp [Entries.find?_concat, *]
    · have own := decodeOption_present plain
        (fun _ decoded => Delete.given_of_decode plain (listed .delete rfl) decoded) read
      constructor <;> simp [Entries.find?_concat, *]

theorem decodes_iff_param (member : String × Source) (sound : Sound member) :
    Write.record.Decodes member ↔ Param member.1 member.2.written := by
  obtain ⟨plain, listed⟩ := sound
  rw [decodes_iff spellings_apart, param_iff]
  simp only [Write.record, List.exists_mem_cons_iff, List.not_mem_nil, false_and, exists_false,
    or_false, RecordField.takes_defaulted]
  refine or_congr (and_congr_left fun named => ?_)
    (or_congr (and_congr_left fun named => ?_) (and_congr_left fun named => ?_))
  · exact exists_orNull_iff plain (Insert.exists_decode_iff plain (listed .insert named))
  · exact exists_orNull_iff plain (Update.exists_decode_iff plain (listed .update named))
  · exact exists_orNull_iff plain (Delete.exists_decode_iff plain (listed .delete named))

/-- Writes are decoded exactly from an object of writes that are each `null` or decoded. -/
theorem exists_decode_iff {source : Source} (plain : source.IsPlain)
    (unlisted : ¬ source.written.IsList) (writes_unlisted : Unlisted source.written) :
    (∃ write, Write.record.decode source = .ok write) ↔ Accepts source.written := by
  rw [exists_decode_iff_single rfl (by decide) decodes_iff_param plain unlisted
    (eachMember_sound plain writes_unlisted)]
  simp only [Write.record, List.forall_mem_cons, List.not_mem_nil, RecordField.defaulted,
    Bool.false_eq_true, false_implies, implies_true, and_true]
  rfl

theorem given_of_decode {source : Source} (plain : source.IsPlain)
    (unlisted : ¬ source.written.IsList) (writes_unlisted : Unlisted source.written)
    {write : Write} (decoded : Write.record.decode source = .ok write) :
    Given Holds source.written write :=
  carries.given_of_decode rfl spellings_apart plain unlisted
    (eachMember_sound plain writes_unlisted) decoded

end Write

/-! ## Batches -/

namespace Json.Source

/-- An object with one value for every name is decoded as a map exactly if each value
decodes; the map keeps the names in their places. -/
theorem decodeMap_of_plain {α : Type} (decode : Source → Decoded α) {accepts : Json → Prop}
    (gives : Json → α → Prop) {source : Source} (plain : source.IsPlain)
    {entries : Entries Json} (writes : source.written = .obj entries)
    (reads : ∀ item : Source, item.IsPlain → (∃ name, (name, item.written) ∈ entries) →
      ((∃ value, decode item = .ok value) ↔ accepts item.written) ∧
        ∀ value, decode item = .ok value → gives item.written value) :
    ((∃ decoded, source.decodeMap decode = .ok decoded) ↔ ∀ entry ∈ entries, accepts entry.2) ∧
      ∀ decoded, source.decodeMap decode = .ok decoded → decoded.Distinct ∧
        List.Forall₂ (fun entry made => made.1 = entry.1 ∧ gives entry.2 made.2)
          entries decoded := by
  cases source with
  | object members ending =>
      obtain ⟨each_plain, distinct, closed⟩ := isPlain_object.mp plain
      rw [written_object, Json.obj.injEq] at writes
      subst writes
      have each : ∀ member ∈ members,
          ((∃ value, decode member.2 = .ok value) ↔ accepts member.2.written) ∧
            ∀ value, decode member.2 = .ok value → gives member.2.written value :=
        fun member inside => reads member.2 (each_plain member inside)
          ⟨member.1, List.mem_map_of_mem inside⟩
      simp only [decodeMap_eq_ok distinct closed]
      constructor
      · rw [exists_reads_iff, Entries.mapValues, List.forall_mem_map]
        exact forall₂_congr fun member inside => (each member inside).1
      · intro decoded read
        refine ⟨?_, ?_⟩
        · rw [Entries.Distinct, keys_of_reads read]
          exact distinct
        · rw [Entries.mapValues, List.forall₂_map_left_iff]
          exact values_of_reads read fun member inside => (each member inside).2
  | null | bool | int | float | str | list | malformed => cases writes

end Json.Source

namespace Params

/-- An entry of a batch that was decoded from an entry of an object: it is under the same
key and holds what is given there. -/
def DecodedFrom {α : Type} (holds : Entries Json → α → Prop) (entry : String × Json)
    (made : String × α) : Prop :=
  made.1 = entry.1 ∧ Given holds entry.2 made.2

/-- An object whose names are not repeated, and whose entries are not lists, is decoded as
reads exactly if every entry has the shape of a read; and as writes exactly if every entry
has the shape of writes, if these are not lists either. The batch has the entries in their
order, each holding every param that is given and not `null` as it is given, and nothing
else. -/
theorem decode_of_entries (source : Source) (plain : source.IsPlain) (entries : Entries Json)
    (writes : source.written = .obj entries) (unlisted : ∀ entry ∈ entries, ¬ entry.2.IsList) :
    (((∃ query, Query.decode source = .ok query) ↔ ∀ entry ∈ entries, Select.Accepts entry.2) ∧
      ∀ query, Query.decode source = .ok query → query.flattenSingle = true ∧
        List.Forall₂ (DecodedFrom Select.Holds) entries query.tables) ∧
    ((∀ entry ∈ entries, Write.Unlisted entry.2) →
      ((∃ mutation, Mutation.decode source = .ok mutation) ↔
        ∀ entry ∈ entries, Write.Accepts entry.2) ∧
      ∀ mutation, Mutation.decode source = .ok mutation →
        List.Forall₂ (DecodedFrom Write.Holds) entries mutation.tables) := by
  constructor
  · obtain ⟨reads, gives⟩ := decodeMap_of_plain Select.record.decode (Given Select.Holds)
      plain writes
      fun item item_plain ⟨name, inside⟩ =>
        ⟨Select.exists_decode_iff item_plain (unlisted _ inside),
          fun _ => Select.given_of_decode item_plain (unlisted _ inside)⟩
    refine ⟨Outcome.exists_map_eq_ok.trans reads, fun query decoded => ?_⟩
    obtain ⟨tables, read, rfl⟩ := Outcome.map_eq_ok.mp decoded
    obtain ⟨distinct, given⟩ := gives tables read
    have same : (Query.ofTables tables).tables = tables := Entries.ofPairs_of_distinct distinct
    refine ⟨rfl, ?_⟩
    rw [same]
    exact given
  · intro writes_unlisted
    obtain ⟨reads, gives⟩ := decodeMap_of_plain Write.record.decode (Given Write.Holds)
      plain writes
      fun item item_plain ⟨name, inside⟩ =>
        ⟨Write.exists_decode_iff item_plain (unlisted _ inside) (writes_unlisted _ inside),
          fun _ => Write.given_of_decode item_plain (unlisted _ inside) (writes_unlisted _ inside)⟩
    refine ⟨Outcome.exists_map_eq_ok.trans reads, fun mutation decoded => ?_⟩
    obtain ⟨tables, read, rfl⟩ := Outcome.map_eq_ok.mp decoded
    obtain ⟨distinct, given⟩ := gives tables read
    have same : (Mutation.ofTables tables).tables = tables := Entries.ofPairs_of_distinct distinct
    rw [same]
    exact given

/-- What a text gives that updates a table and deletes nothing from it. -/
def updateSource : Source :=
  (readText ("\x7b\"users\": \x7b\"update\": \x7b\"where\": \x7b\x7d, \"_inc\": 1\x7d, " ++
    "\"delete\": null\x7d\x7d")).source

def updateEntries : Entries Json :=
  [("users", .obj [("update", .obj [("where", .obj []), ("_inc", .int 1)]), ("delete", .null)])]

/-- The text is decoded as writes, with the increment that is given and no deletion; it is
not decoded as reads, since these have no update. -/
theorem decode_of_entries_update :
    updateSource.IsPlain ∧ updateSource.written = .obj updateEntries ∧
      (¬ ∃ query, Query.decode updateSource = .ok query) ∧
      ∃ mutation write, Mutation.decode updateSource = .ok mutation ∧
        mutation.tables = [("users", write)] ∧ write.insert.isNone ∧ write.delete.isNone ∧
        write.update.map Update.increment = some (some (.int 1)) := by
  have writes : updateSource.written = .obj updateEntries := by cbv
  have plain : updateSource.IsPlain := by
    refine ⟨by decide +kernel, ?_⟩
    rw [writes]
    decide +kernel
  have unlisted : ∀ entry ∈ updateEntries, ¬ entry.2.IsList := by
    simp [updateEntries, IsList]
  have writes_unlisted : ∀ entry ∈ updateEntries, Write.Unlisted entry.2 := by
    rw [updateEntries, List.forall_mem_singleton]
    rintro members same action given inside ⟨items, rfl⟩
    cases same
    simp at inside
  obtain ⟨⟨reads, _⟩, of_writes⟩ :=
    decode_of_entries updateSource plain updateEntries writes unlisted
  obtain ⟨accepts, gives⟩ := of_writes writes_unlisted
  have accepted : ∀ entry ∈ updateEntries, Write.Accepts entry.2 := by
    rw [updateEntries, List.forall_mem_singleton]
    refine ⟨_, rfl, List.forall_mem_cons.mpr
      ⟨.update (Or.inr ⟨_, rfl, ?_, ?_⟩), List.forall_mem_singleton.mpr (.delete (Or.inl rfl))⟩⟩
    · exact List.forall_mem_cons.mpr ⟨.filter, List.forall_mem_singleton.mpr .incrementMarked⟩
    · simp
  refine ⟨plain, writes, ?_, ?_⟩
  · rw [reads]
    intro all
    obtain ⟨members, same, params⟩ := all _ List.mem_cons_self
    cases same
    have impossible := params _ List.mem_cons_self
    simp [Select.param_iff] at impossible
  · obtain ⟨mutation, decoded⟩ := accepts.mpr accepted
    refine ⟨mutation, ?_⟩
    cases mutation with
    | mk tables distinct =>
        cases gives _ decoded with
        | @cons _ made _ _ first rest =>
            cases rest
            obtain ⟨key, inserted, updated, deleted⟩ := made
            obtain ⟨named, _, same, insert, update, delete⟩ := first
            cases same
            cases named
            simp only [Entries.find?, String.reduceEq, if_true, if_false, present?]
              at insert update delete
            cases insert
            cases delete
            cases update with
            | some given =>
                obtain ⟨_, same, _, _, increment, _⟩ := given
                cases same
                refine ⟨_, decoded, rfl, rfl, rfl, ?_⟩
                rw [Option.map_some, increment]
                simp [Entries.find?, present?]

end Params

end GraphBatch
