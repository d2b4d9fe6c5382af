import Mathlib.Data.List.Permutation
import GraphBatch.Json.Reader
import GraphBatch.Selection
import GraphBatch.Proofs.Decoding

/-!
# The grammar of selections

A selection is given as a list of texts and of objects whose members are selections
themselves. Exactly these values are decoded, at every depth; a text gives a column and
a member a relation, and all of them keep their order. Every selection is given by some
value, in which each relation has an object of its own.
-/

namespace GraphBatch

open Json (Source)

namespace Selection

/-! ## Values that give selections -/

mutual

/-- A value that gives a selection: a list of entries. -/
inductive Accepts : Json → Prop where
  | list {items : List Json} (entries : ∀ item ∈ items, AcceptsEntry item) :
      Accepts (.arr items)

/-- A list item that gives fields: a text, or an object of selections. -/
inductive AcceptsEntry : Json → Prop where
  | column (name : String) : AcceptsEntry (.str name)
  | relations {members : List (String × Json)}
      (selections : ∀ member ∈ members, Accepts member.2) : AcceptsEntry (.obj members)

end

mutual

/-- The fields that a value gives: those of its items, in order. -/
def ofJson : Json → Selection
  | .arr items => ofItems items
  | _ => []

def ofItems : List Json → Selection
  | [] => []
  | item :: rest => ofEntry item ++ ofItems rest

/-- The fields that a list item gives: a column, or a relation for every member. -/
def ofEntry : Json → Selection
  | .str name => [.column name]
  | .obj members => ofMembers members
  | _ => []

def ofMembers : List (String × Json) → Selection
  | [] => []
  | (name, value) :: rest => .relation name (ofJson value) :: ofMembers rest

end

theorem accepts_arr {items : List Json} :
    Accepts (.arr items) ↔ ∀ item ∈ items, AcceptsEntry item := by
  constructor
  · rintro (⟨entries⟩)
    exact entries
  · exact .list

theorem acceptsEntry_obj {members : List (String × Json)} :
    AcceptsEntry (.obj members) ↔ ∀ member ∈ members, Accepts member.2 := by
  constructor
  · rintro (_ | ⟨selections⟩)
    exact selections
  · exact .relations

theorem ofItems_eq (items : List Json) : ofItems items = items.flatMap ofEntry := by
  induction items with
  | nil => rfl
  | cons item rest ih => rw [ofItems, ih, List.flatMap_cons]

def relationOf (entry : String × Selection) : Field := .relation entry.1 entry.2

theorem ofMembers_eq (members : Entries Json) :
    ofMembers members = (members.mapValues ofJson).map relationOf := by
  induction members with
  | nil => rfl
  | cons member rest ih => rw [ofMembers, ih]; rfl

/-! ## Decoding -/

/-- What an object gives after its repeated names were merged. -/
theorem ofEntry_merged_obj (members : Entries Json) :
    ofEntry (Json.merged (.obj members)) =
      (Entries.ofPairs ((members.mapValues Json.merged).mapValues ofJson)).map relationOf := by
  rw [Json.merged_obj, ofEntry, ofMembers_eq, Entries.mapValues_ofPairs]

mutual

theorem ofBuffered?_eq_some (source : Source) (whole : source.isWhole = true)
    (selection : Selection) :
    ofBuffered? source = some selection ↔
      Accepts source.written ∧ selection = ofJson source.written.merged := by
  cases source with
  | list items ending =>
      rw [Source.isWhole, Bool.and_eq_true] at whole
      rw [ofBuffered?, ofBufferedItems?_eq_some items whole.1, Source.written, accepts_arr,
        Json.merged, Json.mergedItems_eq, ofJson, ofItems_eq]
  | malformed => cases whole
  | null | bool | int | float | str | object =>
      refine iff_of_false (fun impossible => by cases impossible) ?_
      rintro ⟨impossible, _⟩
      cases impossible

theorem ofBufferedItems?_eq_some (items : List Source) (whole : Source.isWholeItems items = true)
    (selection : Selection) :
    ofBufferedItems? items = some selection ↔
      (∀ item ∈ Source.writtenItems items, AcceptsEntry item) ∧
        selection = ((Source.writtenItems items).map Json.merged).flatMap ofEntry := by
  cases items with
  | nil =>
      rw [ofBufferedItems?, Source.writtenItems, Option.some.injEq]
      exact ⟨fun same => ⟨List.forall_mem_nil _, same.symm⟩, fun given => given.2.symm⟩
  | cons item rest =>
      rw [Source.isWholeItems, Bool.and_eq_true] at whole
      have later := ofBufferedItems?_eq_some rest whole.2
      rw [Source.writtenItems, List.forall_mem_cons, List.map_cons, List.flatMap_cons]
      cases item with
      | str name =>
          rw [ofBufferedItems?]
          constructor
          · intro given
            obtain ⟨fields, found, same⟩ := Option.bind_eq_some_iff.mp given
            obtain ⟨accepted, rfl⟩ := (later fields).mp found
            cases same
            exact ⟨⟨.column name, accepted⟩, rfl⟩
          · rintro ⟨⟨_, accepted⟩, rfl⟩
            exact Option.bind_eq_some_iff.mpr ⟨_, (later _).mpr ⟨accepted, rfl⟩, rfl⟩
      | object members ending =>
          rw [Source.isWhole, Bool.and_eq_true] at whole
          have inner := ofBufferedMembers?_eq_some members whole.1.1
          rw [ofBufferedItems?, Source.written, acceptsEntry_obj, ofEntry_merged_obj]
          constructor
          · intro given
            obtain ⟨relations, read, given⟩ := Option.bind_eq_some_iff.mp given
            obtain ⟨fields, found, same⟩ := Option.bind_eq_some_iff.mp given
            obtain ⟨selections, rfl⟩ := (inner relations).mp read
            obtain ⟨accepted, rfl⟩ := (later fields).mp found
            cases same
            exact ⟨⟨selections, accepted⟩, rfl⟩
          · rintro ⟨⟨selections, accepted⟩, rfl⟩
            exact Option.bind_eq_some_iff.mpr ⟨_, (inner _).mpr ⟨selections, rfl⟩,
              Option.bind_eq_some_iff.mpr ⟨_, (later _).mpr ⟨accepted, rfl⟩, rfl⟩⟩
      | malformed => cases whole.1
      | null | bool | int | float | list =>
          refine iff_of_false (fun impossible => by cases impossible) ?_
          rintro ⟨⟨impossible, _⟩, _⟩
          cases impossible

theorem ofBufferedMembers?_eq_some (members : List (String × Source))
    (whole : Source.isWholeMembers members = true) (relations : List (String × Selection)) :
    ofBufferedMembers? members = some relations ↔
      (∀ member ∈ Source.writtenMembers members, Accepts member.2) ∧
        relations = Entries.mapValues ofJson
          (Entries.mapValues Json.merged (Source.writtenMembers members)) := by
  cases members with
  | nil =>
      rw [ofBufferedMembers?, Source.writtenMembers, Option.some.injEq]
      exact ⟨fun same => ⟨List.forall_mem_nil _, same.symm⟩, fun given => given.2.symm⟩
  | cons member rest =>
      rw [Source.isWholeMembers, Bool.and_eq_true] at whole
      have first := ofBuffered?_eq_some member.2 whole.1
      have later := ofBufferedMembers?_eq_some rest whole.2
      rw [ofBufferedMembers?, Source.writtenMembers, List.forall_mem_cons]
      constructor
      · intro given
        obtain ⟨fields, read, given⟩ := Option.bind_eq_some_iff.mp given
        obtain ⟨others, found, same⟩ := Option.bind_eq_some_iff.mp given
        obtain ⟨accepted, rfl⟩ := (first fields).mp read
        obtain ⟨all_accepted, rfl⟩ := (later others).mp found
        cases same
        exact ⟨⟨accepted, all_accepted⟩, rfl⟩
      · rintro ⟨⟨accepted, all_accepted⟩, rfl⟩
        exact Option.bind_eq_some_iff.mpr ⟨_, (first _).mpr ⟨accepted, rfl⟩,
          Option.bind_eq_some_iff.mpr ⟨_, (later _).mpr ⟨all_accepted, rfl⟩, rfl⟩⟩

end

/-- An item of a selection's list is decoded exactly if it gives fields. -/
theorem decodeEntry_eq_ok (source : Source) (whole : source.isWhole = true)
    (selection : Selection) :
    decodeEntry source = .ok selection ↔
      AcceptsEntry source.written ∧ selection = ofEntry source.written.merged := by
  obtain ⟨buffered, aside, sound, same⟩ := Source.exists_buffered source whole
  have read := ofBufferedItems?_eq_some [buffered] (by rw [Source.isWholeItems, sound]; rfl)
  simp only [Source.writtenItems, same, List.forall_mem_singleton, List.map_cons, List.map_nil,
    List.flatMap_singleton] at read
  unfold decodeEntry
  rw [aside, ← read selection]
  dsimp only
  cases ofBufferedItems? [buffered] with
  | none =>
      constructor
      · intro impossible
        cases impossible
      · intro impossible
        cases impossible
  | some fields =>
      constructor
      · intro same
        cases same
        rfl
      · intro same
        cases same
        rfl

theorem decode_eq_ok (source : Source) (whole : source.isWhole = true)
    (selection : Selection) :
    decode source = .ok selection ↔
      Accepts source.written ∧ selection = ofJson source.written.merged := by
  unfold decode
  rw [Outcome.map_eq_ok]
  cases source with
  | list items ending =>
      obtain ⟨all_whole, closed⟩ := Source.isWhole_list.mp whole
      have reads := Source.decodes_map_iff fun item inside =>
        decodeEntry_eq_ok item (all_whole item inside)
      rw [Source.written_list, accepts_arr, Json.merged_arr, ofJson, ofItems_eq,
        List.forall_mem_map, List.map_map, List.flatMap_map]
      constructor
      · rintro ⟨fields, decoded, rfl⟩
        obtain ⟨_, _, same, _, each⟩ := Source.decodeList_eq_ok.mp decoded
        cases same
        obtain ⟨accepted, rfl⟩ := (reads _).mp each
        exact ⟨accepted, List.flatMap_def.symm⟩
      · rintro ⟨accepted, rfl⟩
        exact ⟨_, Source.decodeList_eq_ok.mpr
          ⟨items, ending, rfl, closed, (reads _).mpr ⟨accepted, rfl⟩⟩, List.flatMap_def.symm⟩
  | malformed => cases whole
  | null | bool | int | float | str | object =>
      constructor
      · rintro ⟨_, impossible, _⟩
        cases impossible
      · rintro ⟨impossible, _⟩
        cases impossible

/-! ## Values that selections are given by -/

mutual

def entryOf : Field → Json
  | .column name => .str name
  | .relation name fields => .obj [(name, .arr (entriesOf fields))]

/-- List items that give fields, one for each. -/
def entriesOf : List Field → List Json
  | [] => []
  | field :: rest => entryOf field :: entriesOf rest

end

/-- A value that gives a selection, with an object for every relation. -/
def toJson (selection : Selection) : Json := .arr (entriesOf selection)

mutual

theorem ofEntry_entryOf (field : Field) :
    AcceptsEntry (entryOf field) ∧ (entryOf field).unrepeated = true ∧
      ofEntry (entryOf field) = [field] := by
  cases field with
  | column name => exact ⟨.column name, rfl, rfl⟩
  | relation name fields =>
      obtain ⟨accepted, once, same⟩ := ofItems_entriesOf fields
      refine ⟨?_, ?_, ?_⟩
      · rw [entryOf, acceptsEntry_obj, List.forall_mem_singleton]
        exact .list accepted
      · rw [entryOf, Json.unrepeated_obj, List.forall_mem_singleton, Json.unrepeated]
        exact ⟨List.pairwise_singleton _ _, once⟩
      · rw [entryOf, ofEntry, ofMembers, ofJson, same, ofMembers]

theorem ofItems_entriesOf (fields : List Field) :
    (∀ item ∈ entriesOf fields, AcceptsEntry item) ∧
      Json.unrepeatedItems (entriesOf fields) = true ∧ ofItems (entriesOf fields) = fields := by
  cases fields with
  | nil => exact ⟨List.forall_mem_nil _, rfl, rfl⟩
  | cons field rest =>
      obtain ⟨accepted, once, same⟩ := ofEntry_entryOf field
      obtain ⟨all_accepted, all_once, all_same⟩ := ofItems_entriesOf rest
      refine ⟨List.forall_mem_cons.mpr ⟨accepted, all_accepted⟩, ?_, ?_⟩
      · rw [entriesOf, Json.unrepeatedItems, once, all_once]
        rfl
      · rw [entriesOf, ofItems, same, all_same]
        rfl

end

/-- Every selection is decoded from the value that gives it. -/
theorem decode_toJson (selection : Selection) :
    decode (toJson selection).toSource = .ok selection := by
  obtain ⟨whole, same⟩ := Json.toSource_whole (toJson selection)
  obtain ⟨accepted, once, given⟩ := ofItems_entriesOf selection
  refine (decode_eq_ok _ whole selection).mpr ?_
  rw [same, Json.merged_of_unrepeated (toJson selection) once]
  exact ⟨.list accepted, given.symm⟩

/-- However a value is given, in memory or as a whole text, it is decoded exactly if it
is a list of texts and of objects of such lists, at every depth. It gives one column for
a text and one relation for a member, in order; of a repeated name the first place and
the last value count. Every selection is decoded from some value. -/
theorem decode_of_value (value : Json) (source : Source) (whole : source.isWhole = true)
    (writes : source.written = value) :
    ((∃ selection, decode source = .ok selection) ↔ Accepts value) ∧
      (∀ selection, decode source = .ok selection →
        selection = ofJson value.merged ∧
          (value.unrepeated = true → selection = ofJson value)) ∧
      ∀ selection, ∃ given : Json, given.unrepeated = true ∧
        decode given.toSource = .ok selection := by
  have read := decode_eq_ok source whole
  rw [writes] at read
  refine ⟨?_, ?_, ?_⟩
  · constructor
    · rintro ⟨selection, decoded⟩
      exact ((read selection).mp decoded).1
    · intro accepted
      exact ⟨_, (read _).mpr ⟨accepted, rfl⟩⟩
  · intro selection decoded
    have made := ((read selection).mp decoded).2
    refine ⟨made, fun once => ?_⟩
    rw [made, value.merged_of_unrepeated once]
  · intro selection
    exact ⟨toJson selection, (ofItems_entriesOf selection).2.1, decode_toJson selection⟩

/-- What a text gives that asks for a column twice and for two relations, one of them
without fields. -/
def nestedSource : Source :=
  (Json.readText "[\"id\", \x7b\"posts\": [], \"tags\": [\"name\"]\x7d, \"id\"]").source

def nestedValue : Json :=
  .arr [.str "id", .obj [("posts", .arr []), ("tags", .arr [.str "name"])], .str "id"]

/-- The text is decoded to its two columns and the two relations between them. -/
theorem decode_of_value_nested :
    nestedSource.isWhole = true ∧ nestedSource.written = nestedValue ∧
      decode nestedSource = .ok [.column "id", .relation "posts" [],
        .relation "tags" [.column "name"], .column "id"] := by
  have whole : nestedSource.isWhole = true := by decide +kernel
  have writes : nestedSource.written = nestedValue := by cbv
  have accepted : Accepts nestedValue := by
    refine accepts_arr.mpr fun item inside => ?_
    simp only [List.mem_cons, List.not_mem_nil, or_false] at inside
    rcases inside with rfl | rfl | rfl
    · exact .column "id"
    · refine acceptsEntry_obj.mpr fun member inside => ?_
      simp only [List.mem_cons, List.not_mem_nil, or_false] at inside
      rcases inside with rfl | rfl
      · exact accepts_arr.mpr (List.forall_mem_nil _)
      · exact accepts_arr.mpr (List.forall_mem_singleton.mpr (.column "name"))
    · exact .column "id"
  obtain ⟨accepts, gives, _⟩ := decode_of_value nestedValue nestedSource whole writes
  obtain ⟨selection, decoded⟩ := accepts.mpr accepted
  have once : nestedValue.unrepeated = true := by decide +kernel
  refine ⟨whole, writes, ?_⟩
  rw [decoded, (gives selection decoded).2 once]
  rfl

end Selection

end GraphBatch
