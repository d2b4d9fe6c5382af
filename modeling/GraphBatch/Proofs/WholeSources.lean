import GraphBatch.Json.Decode
import GraphBatch.Proofs.MappedEntries

/-!
# Whole sources

A source is whole if nothing in it is malformed or cut off, be it a value held in memory
or a text that was read to its end. What a whole source writes is a value whose objects
may name a member more than once; the value it has is that one with repeated names
merged: of a repeated name the first place and the last value count. Where no name is
repeated, at any depth, the two are the same.
-/

namespace GraphBatch.Json

/-! ## Repeated names -/

mutual

/-- The value with repeated member names merged, at every depth. -/
def merged : Json → Json
  | .arr items => .arr (mergedItems items)
  | .obj members => .obj (Entries.ofPairs (mergedMembers members))
  | other => other

def mergedItems : List Json → List Json
  | [] => []
  | item :: rest => merged item :: mergedItems rest

/-- Object members with repeated names merged in them. -/
def mergedMembers : List (String × Json) → List (String × Json)
  | [] => []
  | (name, value) :: rest => (name, merged value) :: mergedMembers rest

end

mutual

/-- Whether no object names a member twice, at any depth. -/
def unrepeated : Json → Bool
  | .arr items => unrepeatedItems items
  | .obj members => decide (members.map Prod.fst).Nodup && unrepeatedMembers members
  | _ => true

/-- Whether no object in list items names a member twice. -/
def unrepeatedItems : List Json → Bool
  | [] => true
  | item :: rest => unrepeated item && unrepeatedItems rest

/-- Whether no object in the values of members names a member twice. -/
def unrepeatedMembers : List (String × Json) → Bool
  | [] => true
  | (_, value) :: rest => unrepeated value && unrepeatedMembers rest

end

theorem mergedItems_eq (items : List Json) : mergedItems items = items.map merged := by
  induction items with
  | nil => rfl
  | cons item rest ih => rw [mergedItems, ih, List.map_cons]

theorem mergedMembers_eq (members : Entries Json) :
    mergedMembers members = members.mapValues merged := by
  induction members with
  | nil => rfl
  | cons member rest ih => rw [mergedMembers, ih, Entries.mapValues_cons]

theorem merged_arr (items : List Json) : merged (.arr items) = .arr (items.map merged) := by
  rw [merged, mergedItems_eq]

theorem merged_obj (members : Entries Json) :
    merged (.obj members) = .obj (Entries.ofPairs (members.mapValues merged)) := by
  rw [merged, mergedMembers_eq]

theorem unrepeatedMembers_iff (members : List (String × Json)) :
    unrepeatedMembers members = true ↔ ∀ member ∈ members, member.2.unrepeated = true := by
  induction members with
  | nil => exact iff_of_true rfl (List.forall_mem_nil _)
  | cons member rest ih =>
      rw [unrepeatedMembers, Bool.and_eq_true, ih, List.forall_mem_cons]

theorem unrepeated_obj {members : Entries Json} :
    (Json.obj members).unrepeated = true ↔
      members.Distinct ∧ ∀ member ∈ members, member.2.unrepeated = true := by
  rw [unrepeated, Bool.and_eq_true, decide_eq_true_iff, unrepeatedMembers_iff]
  rfl

mutual

/-- Where no name is repeated there is nothing to merge. -/
theorem merged_of_unrepeated (value : Json) (once : value.unrepeated = true) :
    value.merged = value := by
  cases value with
  | null => rfl
  | bool value => rfl
  | int value => rfl
  | float value => rfl
  | str value => rfl
  | arr items =>
      rw [unrepeated] at once
      rw [merged, mergedItems_of_unrepeated items once]
  | obj members =>
      rw [unrepeated, Bool.and_eq_true, decide_eq_true_iff] at once
      rw [merged, mergedMembers_of_unrepeated members once.2,
        Entries.ofPairs_of_distinct once.1]

theorem mergedItems_of_unrepeated (items : List Json) (once : unrepeatedItems items = true) :
    mergedItems items = items := by
  cases items with
  | nil => rfl
  | cons item rest =>
      rw [unrepeatedItems, Bool.and_eq_true] at once
      rw [mergedItems, merged_of_unrepeated item once.1, mergedItems_of_unrepeated rest once.2]

theorem mergedMembers_of_unrepeated (members : List (String × Json))
    (once : unrepeatedMembers members = true) : mergedMembers members = members := by
  cases members with
  | nil => rfl
  | cons member rest =>
      rw [unrepeatedMembers, Bool.and_eq_true] at once
      rw [mergedMembers, merged_of_unrepeated member.2 once.1,
        mergedMembers_of_unrepeated rest once.2]

end

/-! ## What a source writes -/

namespace Source

mutual

def isWhole : Source → Bool
  | .list items ending => isWholeItems items && decide (ending ≠ .cut)
  | .object members ending => isWholeMembers members && decide (ending ≠ .cut)
  | .malformed => false
  | _ => true

def isWholeItems : List Source → Bool
  | [] => true
  | item :: rest => isWhole item && isWholeItems rest

def isWholeMembers : List (String × Source) → Bool
  | [] => true
  | (_, item) :: rest => isWhole item && isWholeMembers rest

end

mutual

def written : Source → Json
  | .null | .malformed => .null
  | .bool value => .bool value
  | .int value => .int value
  | .float value => .float value
  | .str value => .str value
  | .list items _ => .arr (writtenItems items)
  | .object members _ => .obj (writtenMembers members)

def writtenItems : List Source → List Json
  | [] => []
  | item :: rest => written item :: writtenItems rest

def writtenMembers : List (String × Source) → List (String × Json)
  | [] => []
  | (name, item) :: rest => (name, written item) :: writtenMembers rest

end

theorem isWholeItems_iff (items : List Source) :
    isWholeItems items = true ↔ ∀ item ∈ items, item.isWhole = true := by
  induction items with
  | nil => exact iff_of_true rfl (List.forall_mem_nil _)
  | cons item rest ih => rw [isWholeItems, Bool.and_eq_true, ih, List.forall_mem_cons]

theorem isWholeMembers_iff (members : List (String × Source)) :
    isWholeMembers members = true ↔ ∀ member ∈ members, member.2.isWhole = true := by
  induction members with
  | nil => exact iff_of_true rfl (List.forall_mem_nil _)
  | cons member rest ih => rw [isWholeMembers, Bool.and_eq_true, ih, List.forall_mem_cons]

theorem isWhole_list {items : List Source} {ending : Ending} :
    (Source.list items ending).isWhole = true ↔
      (∀ item ∈ items, item.isWhole = true) ∧ ending ≠ .cut := by
  rw [isWhole, Bool.and_eq_true, isWholeItems_iff, decide_eq_true_iff]

theorem isWhole_object {members : List (String × Source)} {ending : Ending} :
    (Source.object members ending).isWhole = true ↔
      (∀ member ∈ members, member.2.isWhole = true) ∧ ending ≠ .cut := by
  rw [isWhole, Bool.and_eq_true, isWholeMembers_iff, decide_eq_true_iff]

theorem writtenItems_eq (items : List Source) : writtenItems items = items.map written := by
  induction items with
  | nil => rfl
  | cons item rest ih => rw [writtenItems, ih, List.map_cons]

theorem writtenMembers_eq (members : Entries Source) :
    writtenMembers members = members.mapValues written := by
  induction members with
  | nil => rfl
  | cons member rest ih => rw [writtenMembers, ih, Entries.mapValues_cons]

theorem written_list (items : List Source) (ending : Ending) :
    (Source.list items ending).written = .arr (items.map written) := by
  rw [written, writtenItems_eq]

theorem written_object (members : Entries Source) (ending : Ending) :
    (Source.object members ending).written = .obj (members.mapValues written) := by
  rw [written, writtenMembers_eq]

mutual

/-- The value of a whole source is what it writes, with repeated names merged. -/
theorem toJson?_of_whole (source : Source) (whole : source.isWhole = true) :
    source.toJson? = some source.written.merged := by
  cases source with
  | null => rfl
  | bool value => rfl
  | int value => rfl
  | float value => rfl
  | str value => rfl
  | malformed => cases whole
  | list items ending =>
      rw [isWhole, Bool.and_eq_true, decide_eq_true_iff] at whole
      rw [toJson?, jsonItems?_of_whole items whole.1]
      exact if_neg whole.2
  | object members ending =>
      rw [isWhole, Bool.and_eq_true, decide_eq_true_iff] at whole
      rw [toJson?, jsonMembers?_of_whole members whole.1]
      exact if_neg whole.2

theorem jsonItems?_of_whole (items : List Source) (whole : isWholeItems items = true) :
    jsonItems? items = some (mergedItems (writtenItems items)) := by
  cases items with
  | nil => rfl
  | cons item rest =>
      rw [isWholeItems, Bool.and_eq_true] at whole
      rw [jsonItems?, toJson?_of_whole item whole.1, jsonItems?_of_whole rest whole.2]
      rfl

theorem jsonMembers?_of_whole (members : List (String × Source))
    (whole : isWholeMembers members = true) :
    jsonMembers? members = some (mergedMembers (writtenMembers members)) := by
  cases members with
  | nil => rfl
  | cons member rest =>
      rw [isWholeMembers, Bool.and_eq_true] at whole
      rw [jsonMembers?, toJson?_of_whole member.2 whole.1, jsonMembers?_of_whole rest whole.2]
      rfl

end

mutual

/-- A whole source can be set aside, and writes the same then. -/
theorem exists_buffered (source : Source) (whole : source.isWhole = true) :
    ∃ buffered, source.buffered? = some buffered ∧ buffered.isWhole = true ∧
      buffered.written = source.written := by
  cases source with
  | null => exact ⟨.null, rfl, rfl, rfl⟩
  | bool value => exact ⟨.bool value, rfl, rfl, rfl⟩
  | int value => exact ⟨.int value, rfl, rfl, rfl⟩
  | float value => exact ⟨.float value, rfl, rfl, rfl⟩
  | str value => exact ⟨.str value, rfl, rfl, rfl⟩
  | malformed => cases whole
  | list items ending =>
      rw [isWhole, Bool.and_eq_true, decide_eq_true_iff] at whole
      obtain ⟨kept, aside, sound, same⟩ := exists_bufferedItems items whole.1
      refine ⟨.list kept .buffered, ?_, ?_, ?_⟩
      · rw [buffered?, aside]
        exact if_neg whole.2
      · rw [isWhole, sound]
        rfl
      · rw [written, written, same]
  | object members ending =>
      rw [isWhole, Bool.and_eq_true, decide_eq_true_iff] at whole
      obtain ⟨kept, aside, sound, same⟩ := exists_bufferedMembers members whole.1
      refine ⟨.object kept .buffered, ?_, ?_, ?_⟩
      · rw [buffered?, aside]
        exact if_neg whole.2
      · rw [isWhole, sound]
        rfl
      · rw [written, written, same]

theorem exists_bufferedItems (items : List Source) (whole : isWholeItems items = true) :
    ∃ kept, bufferedItems? items = some kept ∧ isWholeItems kept = true ∧
      writtenItems kept = writtenItems items := by
  cases items with
  | nil => exact ⟨[], rfl, rfl, rfl⟩
  | cons item rest =>
      rw [isWholeItems, Bool.and_eq_true] at whole
      obtain ⟨first, aside, sound, same⟩ := exists_buffered item whole.1
      obtain ⟨others, set_aside, all_sound, all_same⟩ := exists_bufferedItems rest whole.2
      refine ⟨first :: others, ?_, ?_, ?_⟩
      · rw [bufferedItems?, aside, set_aside]
        rfl
      · rw [isWholeItems, sound, all_sound]
        rfl
      · rw [writtenItems, writtenItems, same, all_same]

theorem exists_bufferedMembers (members : List (String × Source))
    (whole : isWholeMembers members = true) :
    ∃ kept, bufferedMembers? members = some kept ∧ isWholeMembers kept = true ∧
      writtenMembers kept = writtenMembers members := by
  cases members with
  | nil => exact ⟨[], rfl, rfl, rfl⟩
  | cons member rest =>
      rw [isWholeMembers, Bool.and_eq_true] at whole
      obtain ⟨first, aside, sound, same⟩ := exists_buffered member.2 whole.1
      obtain ⟨others, set_aside, all_sound, all_same⟩ := exists_bufferedMembers rest whole.2
      refine ⟨(member.1, first) :: others, ?_, ?_, ?_⟩
      · rw [bufferedMembers?, aside, set_aside]
        rfl
      · rw [isWholeMembers, sound, all_sound]
        rfl
      · rw [writtenMembers, writtenMembers, same, all_same]

end

/-! ## Sources without repeated names -/

/-- Whole, and without an object that names a member twice. -/
def IsPlain (source : Source) : Prop :=
  source.isWhole = true ∧ source.written.unrepeated = true

theorem IsPlain.distinct {source : Source} (plain : source.IsPlain) {members : Entries Json}
    (writes : source.written = .obj members) : members.Distinct :=
  (unrepeated_obj.mp (writes ▸ plain.2)).1

theorem isPlain_object {members : Entries Source} {ending : Ending} :
    (Source.object members ending).IsPlain ↔
      (∀ member ∈ members, member.2.IsPlain) ∧ members.Distinct ∧ ending ≠ .cut := by
  rw [IsPlain, isWhole_object, written_object, unrepeated_obj, Entries.Distinct,
    Entries.keys_mapValues, Entries.mapValues, List.forall_mem_map]
  constructor
  · rintro ⟨⟨whole, closed⟩, distinct, once⟩
    exact ⟨fun member inside => ⟨whole member inside, once member inside⟩, distinct, closed⟩
  · rintro ⟨plain, distinct, closed⟩
    exact ⟨⟨fun member inside => (plain member inside).1, closed⟩, distinct,
      fun member inside => (plain member inside).2⟩

end Source

mutual

/-- A value held in memory is whole, and writes itself. -/
theorem toSource_whole (value : Json) :
    value.toSource.isWhole = true ∧ value.toSource.written = value := by
  cases value with
  | null => exact ⟨rfl, rfl⟩
  | bool value => exact ⟨rfl, rfl⟩
  | int value => exact ⟨rfl, rfl⟩
  | float value => exact ⟨rfl, rfl⟩
  | str value => exact ⟨rfl, rfl⟩
  | arr items =>
      obtain ⟨whole, same⟩ := sourceItems_whole items
      exact ⟨by rw [toSource, Source.isWhole, whole]; rfl,
        by rw [toSource, Source.written, same]⟩
  | obj members =>
      obtain ⟨whole, same⟩ := sourceMembers_whole members
      exact ⟨by rw [toSource, Source.isWhole, whole]; rfl,
        by rw [toSource, Source.written, same]⟩

theorem sourceItems_whole (items : List Json) :
    Source.isWholeItems (sourceItems items) = true ∧
      Source.writtenItems (sourceItems items) = items := by
  cases items with
  | nil => exact ⟨rfl, rfl⟩
  | cons item rest =>
      obtain ⟨whole, same⟩ := toSource_whole item
      obtain ⟨all_whole, all_same⟩ := sourceItems_whole rest
      exact ⟨by rw [sourceItems, Source.isWholeItems, whole, all_whole]; rfl,
        by rw [sourceItems, Source.writtenItems, same, all_same]⟩

theorem sourceMembers_whole (members : List (String × Json)) :
    Source.isWholeMembers (sourceMembers members) = true ∧
      Source.writtenMembers (sourceMembers members) = members := by
  cases members with
  | nil => exact ⟨rfl, rfl⟩
  | cons member rest =>
      obtain ⟨whole, same⟩ := toSource_whole member.2
      obtain ⟨all_whole, all_same⟩ := sourceMembers_whole rest
      exact ⟨by rw [sourceMembers, Source.isWholeMembers, whole, all_whole]; rfl,
        by rw [sourceMembers, Source.writtenMembers, same, all_same]⟩

end

end GraphBatch.Json
