import GraphBatch.Session.Message
import GraphBatch.Transport.Fault

/-!
# Sessions

A session is opened, acknowledged, and then carries exactly one operation. It
reacts to what arrives: it may send messages, give the caller an item, and move
on to another stage. Every item but the last is the data of one message or the
errors that the message reports; a fault of the session or an error message of
the server ends it.
-/

namespace GraphBatch.Session

def operationId : String := "1"

inductive Stage where
  /-- Not acknowledged yet. -/
  | opening
  /-- Not opened, and why. -/
  | refused (fault : TransportFault)
  /-- The operation runs. -/
  | live
  /-- The operation has ended. -/
  | ended
deriving DecidableEq, Repr

inductive Arrival where
  /-- A frame of text. -/
  | text (text : String)
  /-- A frame of bytes, which carries no message. -/
  | binary
  /-- A frame that closes the connection. -/
  | close
  /-- The loss of the connection. -/
  | loss
deriving DecidableEq, Repr

/-- What a caller receives of a session. -/
abbrev Item := Transported Json

/-- What a session does about what arrives. -/
structure Reaction where
  stage : Stage
  sent : List ClientMessage
  item : Option Item
deriving Repr

namespace Reaction

def quiet (stage : Stage) : Reaction := ⟨stage, [], none⟩

def sending (stage : Stage) (message : ClientMessage) : Reaction := ⟨stage, [message], none⟩

def giving (stage : Stage) (item : Item) : Reaction := ⟨stage, [], some item⟩

end Reaction

def decodingFault : Json.DecodeError → TransportFault
  | .malformedText => .malformedText
  | error => .noMessage error.message

/-- The error for a message that comes too early. -/
def earlyMessage : Error := .adhoc "unexpected message before `connection_ack`"

/-- The error for a connection that is closed too early. -/
def earlyClose : Error := .transport "socket closed before `connection_ack`"

/-- The reaction that opens a session. -/
def opened (payload : Option Json) : Reaction := .sending .opening (.connectionInit payload)

def openingMessage (request : Request) : ServerMessage → Reaction
  | .connectionAck => .sending .live (.subscribe operationId request)
  | .ping => .sending .opening .pong
  | _ => .quiet (.refused (.reported earlyMessage))

def opening (request : Request) : Arrival → Reaction
  | .text text =>
      match ServerMessage.ofText text with
      | .ok message => openingMessage request message
      | .error error => .quiet (.refused (decodingFault error))
  | .binary => .quiet .opening
  | .close => .quiet (.refused (.reported earlyClose))
  | .loss => .quiet (.refused .connection)

/-- What a live session does about a message. Responses to other operations are
passed over. -/
def liveMessage : ServerMessage → Reaction
  | .next id response =>
      if id = operationId then .giving .live (TransportFault.ofOutcome response.outcome)
      else .quiet .live
  | .error _ errors =>
      .giving .ended (.error (.reported (.transport (ReportedError.joined errors))))
  | .complete _ => .quiet .ended
  | .ping => .sending .live .pong
  | _ => .quiet .live

def live : Arrival → Reaction
  | .text text =>
      match ServerMessage.ofText text with
      | .ok message => liveMessage message
      | .error error => .giving .ended (.error (decodingFault error))
  | .binary => .quiet .live
  | .close => .quiet .ended
  | .loss => .giving .ended (.error .connection)

def react (request : Request) : Stage → Arrival → Reaction
  | .opening, arrival => opening request arrival
  | .live, arrival => live arrival
  | stage, _ => .quiet stage

/-- What becomes of a session whose messages cannot be sent. -/
def sendingFailed : Stage → Reaction
  | .opening => .quiet (.refused .connection)
  | .live => .giving .ended (.error .connection)
  | stage => .quiet stage

/-- What is sent when the caller drops a session. A live operation is completed by a task
of its own, so nothing is sent where no task can be started. -/
def dropped (canSend : Bool) : Stage → List ClientMessage
  | .live => if canSend then [.complete operationId] else []
  | _ => []

structure Record where
  stage : Stage
  sent : List ClientMessage
  items : List Item
deriving Repr

/-- A session that has done nothing yet. -/
def Record.unopened : Record := ⟨.opening, [], []⟩

def Record.after (record : Record) (reaction : Reaction) : Record :=
  ⟨reaction.stage, record.sent ++ reaction.sent, record.items ++ reaction.item.toList⟩

/-- What a session does about all that arrives, if everything can be sent. -/
def proceed (request : Request) : Record → List Arrival → Record
  | record, [] => record
  | record, arrival :: rest =>
      proceed request (record.after (react request record.stage arrival)) rest

/-- A session from its opening on, if everything can be sent. -/
def run (payload : Option Json) (request : Request) (arrivals : List Arrival) : Record :=
  proceed request (Record.unopened.after (opened payload)) arrivals

end GraphBatch.Session
