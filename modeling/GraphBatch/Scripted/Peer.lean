import GraphBatch.Session.Basic
import GraphBatch.Transport.WebSocket

/-!
# Scripted servers

A scripted server plays the other side of a session. It takes its steps as early
as it can: only a step that receives has to wait, until the client has sent
something. Whatever the client sends after the last step is received too, unless
the server has hung up.
-/

namespace GraphBatch.Scripted

open Session (Arrival Item ClientMessage Reaction)

inductive PeerStep where
  /-- Waits for one delivery. -/
  | receive
  | sendText (text : String)
  | sendBinary
  | sendClose
  | hangUp
deriving DecidableEq, Repr

/-- What a client delivers to a server. -/
inductive Delivery where
  | message (text : String)
  | closeFrame
deriving DecidableEq, Repr

/-- A scripted server: the steps ahead of it, what it has not received yet, what it
has sent and the client has not read yet, what it has received, and whether it
has hung up. -/
structure Peer where
  script : List PeerStep
  inbox : List Delivery
  outbox : List Arrival
  received : List Delivery
  gone : Bool
deriving Repr

namespace Peer

def ofScript (script : List PeerStep) : Peer := ⟨script, [], [], [], false⟩

def sending (peer : Peer) (arrival : Arrival) : Peer :=
  { peer with outbox := peer.outbox ++ [arrival] }

/-- Takes steps as far as they go. -/
def advance : List PeerStep → Peer → Peer
  | [], peer =>
      if peer.gone then { peer with script := [], inbox := [] }
      else { peer with script := [], inbox := [], received := peer.received ++ peer.inbox }
  | .receive :: rest, peer =>
      match peer.inbox with
      | [] => { peer with script := .receive :: rest }
      | first :: inbox =>
          advance rest { peer with inbox := inbox, received := peer.received ++ [first] }
  | .sendText text :: rest, peer => advance rest (peer.sending (.text text))
  | .sendBinary :: rest, peer => advance rest (peer.sending .binary)
  | .sendClose :: rest, peer => advance rest (peer.sending .close)
  | .hangUp :: _, peer => { peer.sending .loss with script := [], inbox := [], gone := true }

/-- The server after the client has delivered something. -/
def deliver (peer : Peer) (deliveries : List Delivery) : Peer :=
  if peer.gone then peer
  else advance peer.script { peer with inbox := peer.inbox ++ deliveries }

/-- What the server has sent and the client has not read yet, without its first
part. -/
def afterReading (peer : Peer) : Peer :=
  { peer with outbox := peer.outbox.tail }

end Peer

/-- Whether a session reads on: it is not over, and the caller wants more items. -/
def readsOn (wanted : Option Nat) (record : Session.Record) : Bool :=
  match record.stage with
  | .opening => true
  | .live => wanted.all fun count => record.items.length < count
  | _ => false

/-- A session in play: what it has done so far, and its server. -/
structure Play where
  record : Session.Record
  peer : Peer
deriving Repr

namespace Play

def delivery (message : ClientMessage) : Delivery := .message message.text

/-- Carries out a reaction. Nothing can be sent to a server that has hung up. -/
def carryOut (play : Play) (reaction : Reaction) : Play :=
  let possible :=
    if reaction.sent.isEmpty ∨ ¬ play.peer.gone then reaction
    else Session.sendingFailed play.record.stage
  ⟨play.record.after possible, play.peer.deliver (possible.sent.map delivery)⟩

/-- A session that is about to be opened. -/
def ofScript (script : List PeerStep) : Play :=
  ⟨.unopened, (Peer.ofScript script).deliver []⟩

def start (payload : Option Json) (script : List PeerStep) : Play :=
  (ofScript script).carryOut (Session.opened payload)

def read (request : Request) (play : Play) (arrival : Arrival) : Play :=
  carryOut { play with peer := play.peer.afterReading }
    (Session.react request play.record.stage arrival)

/-- Lets a session read what the server sends, as long as it reads on and there is
something to read. -/
def proceed (request : Request) (wanted : Option Nat) : Nat → Play → Play
  | 0, play => play
  | steps + 1, play =>
      match play.peer.outbox with
      | [] => play
      | arrival :: _ =>
          if readsOn wanted play.record then
            proceed request wanted steps (play.read request arrival)
          else play

/-- Drops a session: what it sends for that, and with it a frame that closes the
connection. -/
def drop (canSend : Bool) (play : Play) : Play :=
  let sent := (Session.dropped canSend play.record.stage).map delivery
  let closing := if sent.isEmpty then [] else [Delivery.closeFrame]
  { play with peer := play.peer.deliver (sent ++ closing) }

/-- Whether opening succeeded, and then whether the operation ended by itself. -/
def opened (wanted : Option Nat) (play : Play) : Transported Bool :=
  match play.record.stage with
  | .opening => .error .timeout
  | .refused fault => .error fault
  | _ => .ok (wanted.all fun count => play.record.items.length < count)

end Play

/-- How a server takes an upgrade request. -/
inductive Reception where
  | accepts
  /-- Accepts, but does not confirm the protocol. -/
  | ignoresProtocol
  | refuses
deriving DecidableEq, Repr

/-- What a session was like: the outcome of opening it, its items, the upgrade
request that the server accepted, and what the server received. -/
structure Transcript where
  opened : Transported Bool
  items : List Item
  upgrade : Option WebSocket.Upgrade
  received : List Delivery
deriving Repr

/-- The transcript of a session that could not be opened. -/
def Transcript.unopened (fault : TransportFault) (upgrade : Option WebSocket.Upgrade) :
    Transcript :=
  ⟨.error fault, [], upgrade, []⟩

/-- Plays a session against a scripted server. The caller takes as many items as
wanted and then drops the session, where a task can be started or where none can. -/
def playSession (socket : WebSocket) (reception : Reception) (script : List PeerStep)
    (request : Request) (wanted : Option Nat) (canSend : Bool) : Transcript :=
  match socket.upgrade with
  | .error fault => .unopened fault none
  | .ok upgrade =>
      if ¬ upgrade.isProper ∨ reception = .refuses then .unopened .connection none
      else if reception = .accepts ∧ upgrade.asksFor WebSocket.subprotocol then
        let play :=
          (Play.start socket.payload script).proceed request wanted (script.length + 1)
        ⟨play.opened wanted, play.record.items, some upgrade,
          (play.drop canSend).peer.received⟩
      else .unopened .connection (some upgrade)

end GraphBatch.Scripted
