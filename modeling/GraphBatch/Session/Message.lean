import GraphBatch.Json.Text
import GraphBatch.Request
import GraphBatch.Response.Basic

/-!
# Messages of a session

A session carries one operation. The client opens it, sends the operation, and
may complete it; the server acknowledges the session and answers the operation
with responses. Each message is a JSON object whose member `type` says which
message it is.
-/

namespace GraphBatch.Session

inductive ClientMessage where
  | connectionInit (payload : Option Json)
  | pong
  | subscribe (id : String) (request : Request)
  | complete (id : String)
deriving Repr, BEq

namespace ClientMessage

def members : ClientMessage → List (String × Json)
  | .connectionInit payload =>
      ("type", .str "connection_init") :: (payload.map fun value => ("payload", value)).toList
  | .pong => [("type", .str "pong")]
  | .subscribe id request =>
      [("type", .str "subscribe"), ("id", .str id), ("payload", request.toJson)]
  | .complete id => [("type", .str "complete"), ("id", .str id)]

def toJson (message : ClientMessage) : Json := .obj message.members

def text (message : ClientMessage) : String := message.toJson.compact

end ClientMessage

inductive ServerMessage where
  | connectionAck
  | ping
  | pong
  | next (id : String) (response : Response)
  | error (id : String) (errors : List ReportedError)
  | complete (id : String)
deriving Repr, BEq, Inhabited

inductive ServerMessage.Kind where
  | connectionAck
  | ping
  | pong
  | next
  | error
  | complete
deriving DecidableEq, Repr

namespace ServerMessage

def Kind.all : List Kind := [.connectionAck, .ping, .pong, .next, .error, .complete]

def Kind.word : Kind → String
  | .connectionAck => "connection_ack"
  | .ping => "ping"
  | .pong => "pong"
  | .next => "next"
  | .error => "error"
  | .complete => "complete"

def kind : ServerMessage → Kind
  | .connectionAck => .connectionAck
  | .ping => .ping
  | .pong => .pong
  | .next .. => .next
  | .error .. => .error
  | .complete .. => .complete

/-- What a type is called where its members are decoded. -/
def Kind.title : Kind → String
  | .connectionAck => "struct variant ServerMessage::ConnectionAck"
  | .ping => "struct variant ServerMessage::Ping"
  | .pong => "struct variant ServerMessage::Pong"
  | .next => "struct variant ServerMessage::Next"
  | .error => "struct variant ServerMessage::Error"
  | .complete => "struct variant ServerMessage::Complete"

open Json (RecordType RecordField Source Decoded)
open Json.Source

/-- The member that says which operation a message is about. -/
def idField : RecordField ServerMessage :=
  .given "id" decodeString fun id message =>
    match message with
    | .next _ response => .next id response
    | .error _ errors => .error id errors
    | .complete _ => .complete id
    | other => other

def Kind.blank : Kind → ServerMessage
  | .connectionAck => .connectionAck
  | .ping => .ping
  | .pong => .pong
  | .next => .next "" ⟨none, []⟩
  | .error => .error "" []
  | .complete => .complete ""

/-- The members of a message besides its type. -/
def Kind.fields : Kind → List (RecordField ServerMessage)
  | .next => [idField,
      .given "payload" Response.record.decode fun response message =>
        match message with
        | .next id _ => .next id response
        | other => other]
  | .error => [idField,
      .given "payload" (decodeList ReportedError.record.decode) fun errors message =>
        match message with
        | .error id _ => .error id errors
        | other => other]
  | .complete => [idField]
  | _ => []

def Kind.record (kind : Kind) : RecordType ServerMessage where
  title := kind.title
  strict := false
  blank := kind.blank
  fields := kind.fields

def Kind.decode : Source → Decoded Kind
  | .str word =>
      match all.find? (·.word = word) with
      | some kind => .ok kind
      | none => .error (.unknownVariant word (all.map Kind.word))
  | other => .error (other.mismatch "variant identifier")

/-- Reads the type of a message and sets its other members aside, which must be
well-formed before any of them is looked at. -/
def decodeTagged : List (String × Source) → Option Kind → List (String × Source) →
    Decoded (Option Kind × List (String × Source))
  | [], kind, members => .ok (kind, members)
  | (name, source) :: rest, kind, members =>
      if name = "type" then
        match kind with
        | some _ => .error (.duplicateField "type")
        | none => do
            let kind ← Kind.decode source
            decodeTagged rest (some kind) members
      else
        match source.buffered? with
        | some source => decodeTagged rest kind (members ++ [(name, source)])
        | none => .error .malformedText

/-- The items of a list, set aside. -/
def setAside : List Source → Decoded (List Source)
  | [] => .ok []
  | item :: rest =>
      match item.buffered? with
      | some item => do .ok (item :: (← setAside rest))
      | none => .error .malformedText

/-- Decodes a message: an object, or a list of its type and its other members in
order. -/
def decode : Source → Decoded ServerMessage
  | .object members ending => do
      let (kind, members) ← decodeTagged members none []
      decodeEnd ending
      match kind with
      | some kind => kind.record.decode (.object members .buffered)
      | none => .error (.missingField "type")
  | .list [] ending => do
      decodeEnd ending
      .error (.missingField "type")
  | .list (tag :: items) ending => do
      let kind ← Kind.decode tag
      let items ← setAside items
      decodeEnd ending
      kind.record.decode (.list items .buffered)
  | other => .error (other.mismatch "internally tagged enum ServerMessage")

def ofText (text : String) : Decoded ServerMessage := Json.decodeText decode text

end ServerMessage

end GraphBatch.Session
