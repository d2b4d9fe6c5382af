import GraphBatch.Json.Source
import GraphBatch.Json.Printer

/-!
# Decoding

Decoders turn sources into values of a type. The first problem in the order of
the source is the one reported. Records may be given as objects or as lists of
their members in declaration order.
-/

namespace GraphBatch.Json

inductive DecodeError where
  /-- The text is not well-formed JSON. -/
  | malformedText
  /-- A value of the wrong kind: what it is, and what was expected. -/
  | invalidType (found expected : String)
  /-- A whole number out of range. -/
  | invalidInt (found : Int) (expected : String)
  | missingField (name : String)
  | duplicateField (name : String)
  | unknownField (name : String) (known : List String)
  | unknownVariant (name : String) (known : List String)
  /-- A list of the wrong length. -/
  | invalidLength (length : Nat) (expected : String)
  /-- An entry of a selection list that is neither a column nor relations. -/
  | noSelectionEntry
deriving DecidableEq, Repr

def ticked (name : String) : String := "`" ++ name ++ "`"

def oneOf : List String → String
  | [name] => ticked name
  | [first, second] => ticked first ++ " or " ++ ticked second
  | names => "one of " ++ String.intercalate ", " (names.map ticked)

namespace DecodeError

def message : DecodeError → String
  | .malformedText => "malformed JSON text"
  | .invalidType found expected => "invalid type: " ++ found ++ ", expected " ++ expected
  | .invalidInt found expected =>
      "invalid value: integer " ++ ticked (toString found) ++ ", expected " ++ expected
  | .missingField name => "missing field " ++ ticked name
  | .duplicateField name => "duplicate field " ++ ticked name
  | .unknownField name known =>
      "unknown field " ++ ticked name ++ ", expected " ++ oneOf known
  | .unknownVariant name known =>
      "unknown variant " ++ ticked name ++ ", expected " ++ oneOf known
  | .invalidLength length expected =>
      "invalid length " ++ toString length ++ ", expected " ++ expected
  | .noSelectionEntry => "data did not match any variant of untagged enum Raw"

end DecodeError

abbrev Decoded (α : Type) := Except DecodeError α

namespace Source

/-- What a source is, as messages put it; `none` for malformed text. -/
def kind? : Source → Option String
  | .null => some "null"
  | .bool value => some ("boolean " ++ ticked (toString value))
  | .int value => some ("integer " ++ ticked (toString value))
  | .float value => some ("floating point " ++ ticked value.text)
  | .str value => some ("string " ++ Text.quoted value)
  | .list _ _ => some "sequence"
  | .object _ _ => some "map"
  | .malformed => none

def mismatch (source : Source) (expected : String) : DecodeError :=
  match source.kind? with
  | some found => .invalidType found expected
  | none => .malformedText

def decodeJson (source : Source) : Decoded Json :=
  match source.toJson? with
  | some value => .ok value
  | none => .error .malformedText

def decodeString : Source → Decoded String
  | .str value => .ok value
  | other => .error (other.mismatch "a string")

/-- A natural number of a given width in bits. -/
def decodeNat (width : Nat) : Source → Decoded Nat
  | .int value =>
      if 0 ≤ value ∧ value.toNat < Nat.pow 2 width then .ok value.toNat
      else .error (.invalidInt value ("u" ++ toString width))
  | other => .error (other.mismatch ("u" ++ toString width))

def decodeOption {α : Type} (decode : Source → Decoded α) : Source → Decoded (Option α)
  | .null => .ok none
  | other => (decode other).map some

def decodeItems {α : Type} (decode : Source → Decoded α) : List Source → Decoded (List α)
  | [] => .ok []
  | item :: rest => do
      let value ← decode item
      let values ← decodeItems decode rest
      .ok (value :: values)

/-- The end of a list or an object whose contents were all read. -/
def decodeEnd : Ending → Decoded Unit
  | .cut => .error .malformedText
  | _ => .ok ()

def decodeList {α : Type} (decode : Source → Decoded α) : Source → Decoded (List α)
  | .list items ending => do
      let values ← decodeItems decode items
      decodeEnd ending
      .ok values
  | other => .error (other.mismatch "a sequence")

/-- Members one after the other: a repeated name keeps its first place and takes
its last value. -/
def decodeMembers {α : Type} (decode : Source → Decoded α) :
    List (String × Source) → Entries α → Decoded (Entries α)
  | [], entries => .ok entries
  | (name, item) :: rest, entries => do
      let value ← decode item
      decodeMembers decode rest (entries.put name value)

def decodeMap {α : Type} (decode : Source → Decoded α) : Source → Decoded (Entries α)
  | .object members ending => do
      let entries ← decodeMembers decode members []
      decodeEnd ending
      .ok entries
  | other => .error (other.mismatch "a map")

end Source

/-- A member of a record: its name, the spellings it may be given by, whether it
must be given, and how its value changes the record. -/
structure RecordField (σ : Type) where
  name : String
  spellings : List String
  required : Bool
  decode : Source → Decoded (σ → σ)

/-- A record type: how messages call it, whether unknown members are refused, its
members in declaration order, and the record that has none of them. -/
structure RecordType (σ : Type) where
  title : String
  strict : Bool
  fields : List (RecordField σ)
  blank : σ

def RecordField.given {σ α : Type} (name : String) (decode : Source → Decoded α)
    (write : α → σ → σ) : RecordField σ :=
  ⟨name, [name], true, fun source => (decode source).map write⟩

def RecordField.defaulted {σ α : Type} (name : String) (decode : Source → Decoded α)
    (write : α → σ → σ) : RecordField σ :=
  ⟨name, [name], false, fun source => (decode source).map write⟩

def counted (count : Nat) (noun : String) : String :=
  toString count ++ " " ++ noun ++ (if count = 1 then "" else "s")

namespace RecordType

variable {σ : Type}

def field? (type : RecordType σ) (spelling : String) : Option (RecordField σ) :=
  type.fields.find? fun field => field.spellings.contains spelling

def spellings (type : RecordType σ) : List String :=
  type.fields.flatMap RecordField.spellings

def decodeMembers (type : RecordType σ) :
    List (String × Source) → List String → σ → Decoded (List String × σ)
  | [], seen, record => .ok (seen, record)
  | (spelling, item) :: rest, seen, record =>
      match type.field? spelling with
      | some field =>
          if seen.contains field.name then .error (.duplicateField field.name)
          else do
            let change ← field.decode item
            decodeMembers type rest (field.name :: seen) (change record)
      | none =>
          if type.strict then .error (.unknownField spelling type.spellings)
          else decodeMembers type rest seen record

/-- The first required member that was not given. -/
def missing? (type : RecordType σ) (seen : List String) : Option String :=
  (type.fields.find? fun field => field.required && !seen.contains field.name).map
    RecordField.name

/-- How messages call the list form of a record. -/
def listTitle (type : RecordType σ) : String :=
  type.title ++ " with " ++ counted type.fields.length "element"

/-- Reads list items as members in declaration order; what is left over. -/
def decodeItems (type : RecordType σ) :
    List (RecordField σ) → Nat → List Source → Ending → σ → Decoded (σ × List Source)
  | [], _, items, _, record => .ok (record, items)
  | field :: fields, position, [], ending, record => do
      Source.decodeEnd ending
      if field.required then .error (.invalidLength position type.listTitle)
      else decodeItems type fields (position + 1) [] ending record
  | field :: fields, position, item :: items, ending, record => do
      let change ← field.decode item
      decodeItems type fields (position + 1) items ending (change record)

/-- The error for a list with more items than the record has members. -/
def surplusError (taken : Nat) (items : List Source) : Ending → DecodeError
  | .held => .invalidLength items.length "fewer elements in array"
  | .buffered => .invalidLength items.length (counted taken "element" ++ " in sequence")
  | _ => .malformedText

def decode (type : RecordType σ) : Source → Decoded σ
  | .object members ending => do
      let (seen, record) ← type.decodeMembers members [] type.blank
      Source.decodeEnd ending
      match type.missing? seen with
      | some name => .error (.missingField name)
      | none => .ok record
  | .list items ending => do
      let (record, surplus) ← type.decodeItems type.fields 0 items ending type.blank
      match surplus with
      | [] => do
          Source.decodeEnd ending
          .ok record
      | _ => .error (surplusError type.fields.length items ending)
  | other => .error (other.mismatch type.title)

end RecordType

end GraphBatch.Json
