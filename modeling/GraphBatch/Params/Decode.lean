import GraphBatch.Params.Basic

/-!
# Decoding request params

The shapes of the params in JSON. Unknown members are refused at every level, so
that a misspelt param is never dropped silently.
-/

namespace GraphBatch

open Json (RecordType RecordField Source Decoded)
open Json.Source

/-- How a read is given. -/
def Select.record : RecordType Select where
  title := "struct Select"
  strict := true
  blank := .empty
  fields := [
    .defaulted "table" (decodeOption decodeString)
      fun value select => { select with table := value },
    .defaulted "where" (decodeOption decodeJson)
      fun value select => { select with filter := value },
    .defaulted "order_by" (decodeOption decodeJson)
      fun value select => { select with order := value },
    .defaulted "limit" (decodeOption (decodeNat 64))
      fun value select => { select with limit := value },
    .defaulted "offset" (decodeOption (decodeNat 64))
      fun value select => { select with offset := value },
    .defaulted "distinct_on" (decodeOption (decodeList decodeString))
      fun value select => { select with distinctOn := value },
    .defaulted "fields" Selection.decode
      fun value select => { select with fields := value },
    .defaulted "fragment" (decodeOption decodeString)
      fun value select => { select with fragment := value }]

def Insert.record : RecordType Insert where
  title := "struct Insert"
  strict := true
  blank := .ofObjects .null
  fields := [
    .given "objects" decodeJson
      fun value insert => { insert with objects := value },
    .defaulted "on_conflict" (decodeOption decodeJson)
      fun value insert => { insert with onConflict := value },
    .defaulted "returning" Selection.decode
      fun value insert => { insert with returning := value }]

/-- How an update is given; new values and increments have two spellings each. -/
def Update.record : RecordType Update where
  title := "struct Update"
  strict := true
  blank := .ofFilter .null
  fields := [
    .given "where" decodeJson
      fun value update => { update with filter := value },
    ⟨"set", ["_set", "set"], false, fun source =>
      (decodeOption decodeJson source).map fun value update => { update with set := value }⟩,
    ⟨"inc", ["_inc", "inc"], false, fun source =>
      (decodeOption decodeJson source).map fun value update =>
        { update with increment := value }⟩,
    .defaulted "returning" Selection.decode
      fun value update => { update with returning := value }]

def Delete.record : RecordType Delete where
  title := "struct Delete"
  strict := true
  blank := .ofFilter .null
  fields := [
    .given "where" decodeJson
      fun value delete => { delete with filter := value },
    .defaulted "returning" Selection.decode
      fun value delete => { delete with returning := value }]

/-- How the writes to a table are given. -/
def Write.record : RecordType Write where
  title := "struct Write"
  strict := true
  blank := .empty
  fields := [
    .defaulted "insert" (decodeOption Insert.record.decode)
      fun value write => { write with insert := value },
    .defaulted "update" (decodeOption Update.record.decode)
      fun value write => { write with update := value },
    .defaulted "delete" (decodeOption Delete.record.decode)
      fun value write => { write with delete := value }]

def Query.decode (source : Source) : Decoded Query :=
  (source.decodeMap Select.record.decode).map Query.ofTables

def Mutation.decode (source : Source) : Decoded Mutation :=
  (source.decodeMap Write.record.decode).map Mutation.ofTables

end GraphBatch
