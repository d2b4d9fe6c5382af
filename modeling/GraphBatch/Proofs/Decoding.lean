import GraphBatch.Proofs.Outcomes
import GraphBatch.Proofs.WholeSources

/-!
# What decodes

Decoding succeeds exactly if every part of a source decodes and the source was read to
its end; what is decoded is put together from the parts, in their order.
-/

namespace GraphBatch.Json

variable {α β : Type}

namespace Source

variable {decode : Source → Decoded α}

theorem decodeEnd_eq_ok {ending : Ending} : decodeEnd ending = .ok () ↔ ending ≠ .cut := by
  cases ending with
  | cut => exact iff_of_false (fun impossible => by cases impossible) fun differ => differ rfl
  | held | buffered | closed => exact iff_of_true rfl fun impossible => by cases impossible

theorem decodeItems_eq_ok {items : List Source} {values : List α} :
    decodeItems decode items = .ok values ↔
      List.Forall₂ (fun item value => decode item = .ok value) items values := by
  induction items generalizing values with
  | nil =>
      constructor
      · intro done
        cases done
        exact .nil
      · intro done
        cases done
        rfl
  | cons item rest ih =>
      rw [decodeItems, Outcome.bind_eq_ok]
      constructor
      · rintro ⟨value, first, done⟩
        obtain ⟨others, later, same⟩ := Outcome.bind_eq_ok.mp done
        cases same
        exact .cons first (ih.mp later)
      · intro done
        cases done with
        | cons first later => exact ⟨_, first, Outcome.bind_eq_ok.mpr ⟨_, ih.mpr later, rfl⟩⟩

theorem decodeList_eq_ok {source : Source} {values : List α} :
    source.decodeList decode = .ok values ↔
      ∃ items ending, source = .list items ending ∧ ending ≠ .cut ∧
        List.Forall₂ (fun item value => decode item = .ok value) items values := by
  cases source with
  | list items ending =>
      rw [decodeList, Outcome.bind_eq_ok]
      constructor
      · rintro ⟨found, each, done⟩
        obtain ⟨_, closed, same⟩ := Outcome.bind_eq_ok.mp done
        cases same
        exact ⟨items, ending, rfl, decodeEnd_eq_ok.mp closed, decodeItems_eq_ok.mp each⟩
      · rintro ⟨_, _, same, closed, each⟩
        cases same
        exact ⟨values, decodeItems_eq_ok.mpr each,
          Outcome.bind_eq_ok.mpr ⟨(), decodeEnd_eq_ok.mpr closed, rfl⟩⟩
  | null | bool | int | float | str | object | malformed =>
      constructor
      · intro impossible
        cases impossible
      · rintro ⟨_, _, impossible, _⟩
        cases impossible

theorem decodes_map_iff {fits : Source → Prop} {make : Source → α} {items : List Source}
    (reads : ∀ item ∈ items, ∀ value, decode item = .ok value ↔ fits item ∧ value = make item)
    (values : List α) :
    List.Forall₂ (fun item value => decode item = .ok value) items values ↔
      (∀ item ∈ items, fits item) ∧ values = items.map make := by
  induction items generalizing values with
  | nil =>
      constructor
      · intro each
        cases each
        exact ⟨List.forall_mem_nil _, rfl⟩
      · rintro ⟨_, rfl⟩
        exact .nil
  | cons item rest ih =>
      have first := reads item List.mem_cons_self
      have later := ih fun other inside => reads other (List.mem_cons_of_mem _ inside)
      rw [List.forall_mem_cons, List.map_cons]
      constructor
      · intro each
        cases each with
        | cons here others =>
            obtain ⟨fit, rfl⟩ := (first _).mp here
            obtain ⟨all_fit, rfl⟩ := (later _).mp others
            exact ⟨⟨fit, all_fit⟩, rfl⟩
      · rintro ⟨⟨fit, all_fit⟩, rfl⟩
        exact .cons ((first _).mpr ⟨fit, rfl⟩) ((later _).mpr ⟨all_fit, rfl⟩)

/-! ## Single values -/

theorem decodeJson_eq_ok {source : Source} (whole : source.isWhole = true) {value : Json} :
    source.decodeJson = .ok value ↔ value = source.written.merged := by
  rw [decodeJson, toJson?_of_whole source whole]
  exact ⟨fun same => (Except.ok.inj same).symm, fun same => congrArg _ same.symm⟩

theorem decodeJson_of_plain {source : Source} (plain : source.IsPlain) {value : Json} :
    source.decodeJson = .ok value ↔ value = source.written := by
  rw [decodeJson_eq_ok plain.1, merged_of_unrepeated _ plain.2]

theorem decodeString_eq_ok {source : Source} {text : String} :
    source.decodeString = .ok text ↔ source.written = .str text := by
  cases source with
  | str value =>
      rw [decodeString, written, Json.str.injEq]
      exact ⟨Except.ok.inj, congrArg _⟩
  | null | bool | int | float | list | object | malformed =>
      exact iff_of_false (fun impossible => by cases impossible) fun impossible => by
        cases impossible

theorem decodeNat_eq_ok {source : Source} {width number : Nat} :
    source.decodeNat width = .ok number ↔
      number < Nat.pow 2 width ∧ source.written = .ofNat number := by
  cases source with
  | int value =>
      rw [decodeNat, written, ofNat, Json.int.injEq]
      constructor
      · intro decoded
        split at decoded
        · rename_i fits
          cases decoded
          exact ⟨fits.2, by omega⟩
        · cases decoded
      · rintro ⟨fits, rfl⟩
        exact if_pos ⟨Int.natCast_nonneg number, fits⟩
  | null | bool | str | float | list | object | malformed =>
      refine iff_of_false (fun impossible => by cases impossible) ?_
      rintro ⟨_, impossible⟩
      cases impossible

theorem written_texts_iff {items : List Source} {texts : List String} :
    List.Forall₂ (fun item text => item.decodeString = .ok text) items texts ↔
      items.map written = texts.map .str := by
  simp only [decodeString_eq_ok]
  rw [← List.forall₂_eq_eq_eq, List.forall₂_map_left_iff, List.forall₂_map_right_iff]

theorem decodeTexts_eq_ok {source : Source} (whole : source.isWhole = true)
    {texts : List String} :
    source.decodeList decodeString = .ok texts ↔ source.written = .ofStrings texts := by
  rw [decodeList_eq_ok, ofStrings]
  constructor
  · rintro ⟨items, ending, rfl, _, each⟩
    rw [written_list, written_texts_iff.mp each]
  · intro writes
    cases source with
    | list items ending =>
        rw [written_list, Json.arr.injEq] at writes
        exact ⟨items, ending, rfl, (isWhole_list.mp whole).2, written_texts_iff.mpr writes⟩
    | null | bool | int | float | str | object | malformed => cases writes

/-- What may be `null` is held as absent then, and as it is decoded otherwise. -/
theorem decodeOption_eq_ok {source : Source} (whole : source.isWhole = true)
    {value? : Option α} :
    decodeOption decode source = .ok value? ↔
      (source.written = .null ∧ value? = none) ∨
        (source.written ≠ .null ∧ ∃ value, decode source = .ok value ∧ some value = value?) := by
  cases source with
  | null =>
      constructor
      · intro decoded
        cases decoded
        exact Or.inl ⟨rfl, rfl⟩
      · rintro (⟨_, rfl⟩ | ⟨differ, _⟩)
        · rfl
        · exact absurd rfl differ
  | malformed => cases whole
  | bool | int | float | str | list | object =>
      rw [decodeOption, Outcome.map_eq_ok]
      · constructor
        · intro decoded
          exact Or.inr ⟨nofun, decoded⟩
        · rintro (⟨impossible, _⟩ | ⟨_, decoded⟩)
          · cases impossible
          · exact decoded
      · intro impossible
        cases impossible

/-- What may be `null` decodes if it is, or if its value does. -/
theorem exists_decodeOption_iff {source : Source} (whole : source.isWhole = true) :
    (∃ value?, decodeOption decode source = .ok value?) ↔
      source.written = .null ∨ ∃ value, decode source = .ok value := by
  simp only [decodeOption_eq_ok whole]
  constructor
  · rintro ⟨_, ⟨absent, _⟩ | ⟨_, value, decoded, _⟩⟩
    · exact Or.inl absent
    · exact Or.inr ⟨value, decoded⟩
  · intro fits
    by_cases absent : source.written = .null
    · exact ⟨none, Or.inl ⟨absent, rfl⟩⟩
    · obtain ⟨value, decoded⟩ := fits.resolve_left absent
      exact ⟨some value, Or.inr ⟨absent, value, decoded, rfl⟩⟩

/-! ## Maps -/

def Reads (decode : Source → Decoded α) (member : String × Source) (entry : String × α) : Prop :=
  entry.1 = member.1 ∧ decode member.2 = .ok entry.2

/-- Members whose names are new are read one after the other behind what is there. -/
theorem decodeMembers_eq_ok {members : Entries Source} {prior entries : Entries α}
    (distinct : (prior.keys ++ members.keys).Nodup) :
    decodeMembers decode members prior = .ok entries ↔
      ∃ read, List.Forall₂ (Reads decode) members read ∧ entries = prior ++ read := by
  induction members generalizing prior with
  | nil =>
      rw [decodeMembers]
      constructor
      · intro same
        cases same
        exact ⟨[], .nil, (List.append_nil _).symm⟩
      · rintro ⟨_, ⟨⟩, rfl⟩
        rw [List.append_nil]
  | cons member rest ih =>
      obtain ⟨name, item⟩ := member
      have absent : name ∉ prior.keys := by
        rw [Entries.keys_cons, List.nodup_append] at distinct
        exact fun inside => distinct.2.2 name inside name List.mem_cons_self rfl
      have later : ∀ value, ((prior.put name value).keys ++ Entries.keys rest).Nodup := by
        intro value
        rw [Entries.put_of_not_mem prior value absent, Entries.keys_append, List.append_assoc]
        exact distinct
      rw [decodeMembers, Outcome.bind_eq_ok]
      constructor
      · rintro ⟨value, decoded, done⟩
        obtain ⟨read, each, rfl⟩ := (ih (later value)).mp done
        refine ⟨(name, value) :: read, .cons ⟨rfl, decoded⟩ each, ?_⟩
        rw [Entries.put_of_not_mem prior value absent, List.append_assoc, List.singleton_append]
      · rintro ⟨_, each, rfl⟩
        cases each with
        | @cons _ entry _ read first each =>
            obtain ⟨held, value⟩ := entry
            obtain ⟨rfl, decoded⟩ := first
            refine ⟨value, decoded, (ih (later value)).mpr ⟨read, each, ?_⟩⟩
            rw [Entries.put_of_not_mem prior value absent, List.append_assoc,
              List.singleton_append]

theorem decodeMap_eq_ok {members : Entries Source} {ending : Ending} {entries : Entries α}
    (distinct : members.Distinct) (closed : ending ≠ .cut) :
    (Source.object members ending).decodeMap decode = .ok entries ↔
      List.Forall₂ (Reads decode) members entries := by
  have fresh : ((Entries.keys ([] : Entries α)) ++ members.keys).Nodup := distinct
  rw [decodeMap, Outcome.bind_eq_ok]
  constructor
  · rintro ⟨found, read, done⟩
    obtain ⟨_, _, same⟩ := Outcome.bind_eq_ok.mp done
    cases same
    obtain ⟨_, each, rfl⟩ := (decodeMembers_eq_ok fresh).mp read
    exact each
  · intro each
    exact ⟨entries, (decodeMembers_eq_ok fresh).mpr ⟨entries, each, rfl⟩,
      Outcome.bind_eq_ok.mpr ⟨(), decodeEnd_eq_ok.mpr closed, rfl⟩⟩

theorem exists_reads_iff {members : Entries Source} :
    (∃ entries, List.Forall₂ (Reads decode) members entries) ↔
      ∀ member ∈ members, ∃ value, decode member.2 = .ok value := by
  induction members with
  | nil => exact iff_of_true ⟨[], .nil⟩ (List.forall_mem_nil _)
  | cons member rest ih =>
      rw [List.forall_mem_cons, ← ih]
      constructor
      · rintro ⟨_, each⟩
        cases each with
        | cons first each => exact ⟨⟨_, first.2⟩, _, each⟩
      · rintro ⟨⟨value, decoded⟩, entries, each⟩
        exact ⟨(member.1, value) :: entries, .cons ⟨rfl, decoded⟩ each⟩

/-- What is true of every value that decodes is true of the values that were read. -/
theorem values_of_reads {gives : String × Source → α → Prop} {members : Entries Source}
    {entries : Entries α} (each : List.Forall₂ (Reads decode) members entries)
    (gives_each : ∀ member ∈ members, ∀ value, decode member.2 = .ok value → gives member value) :
    List.Forall₂ (fun member entry => entry.1 = member.1 ∧ gives member entry.2)
      members entries := by
  induction each with
  | nil => exact .nil
  | cons first _ ih =>
      obtain ⟨here, later⟩ := List.forall_mem_cons.mp gives_each
      exact .cons ⟨first.1, here _ first.2⟩ (ih later)

theorem keys_of_reads {members : Entries Source} {entries : Entries α}
    (each : List.Forall₂ (Reads decode) members entries) : entries.keys = members.keys := by
  induction each with
  | nil => rfl
  | cons first _ ih => rw [Entries.keys_cons, Entries.keys_cons, first.1, ih]

end Source

end GraphBatch.Json
