import GraphBatch.Config
import GraphBatch.Json.Basic
import GraphBatch.Transport.Fault
import GraphBatch.Transport.Header

/-!
# Subscriptions over sockets

A socket is opened by an upgrade request that asks for the protocol of sessions.
The headers of the transport are checked only then.
-/

namespace GraphBatch

/-- Where sessions are opened and what is sent along. -/
structure WebSocket where
  url : Url
  headers : Entries String
  payload : Option Json
deriving Repr

namespace WebSocket

def ofUrl (url : Url) : Outcome WebSocket := do
  let url ← url.requireSocket
  .ok ⟨url, [], none⟩

def withHeader (socket : WebSocket) (name value : String) : WebSocket :=
  { socket with headers := socket.headers.put name value }

def withHeaders (socket : WebSocket) (headers : List (String × String)) : WebSocket :=
  headers.foldl (fun socket header => socket.withHeader header.1 header.2) socket

/-- Sets what is sent when a session is opened. -/
def withPayload (socket : WebSocket) (payload : Json) : WebSocket :=
  { socket with payload := some payload }

def subprotocol : String := "graphql-transport-ws"

def subprotocolHeader : String := "sec-websocket-protocol"

/-- The headers that every upgrade request has, unless the transport's own replace them. -/
def upgradeHeaders : HeaderMap := [
  ("connection", "Upgrade"),
  ("upgrade", "websocket"),
  ("sec-websocket-version", "13"),
  (subprotocolHeader, subprotocol)]

/-- A value as it arrives: without blanks around it. -/
def trimmed (value : String) : String :=
  let isBlank := fun char : Char => char = ' ' || char = '\t'
  String.ofList (((value.toList.dropWhile isBlank).reverse.dropWhile isBlank).reverse)

/-- What the peer sees of an upgrade request. -/
structure Upgrade where
  target : String
  headers : HeaderMap
deriving DecidableEq, Repr

/-- The upgrade request of the transport, unless a header cannot be sent. Errors
name headers as they were given. -/
def upgrade (socket : WebSocket) : Transported Upgrade := do
  let headers ← TransportFault.ofOutcome
    (HeaderMap.putAll id upgradeHeaders socket.headers)
  if headers.values.all Header.isPlainValue then
    .ok ⟨socket.url.pathAndQuery, headers.map fun header => (header.1, trimmed header.2)⟩
  else .error .connection

/-- Whether a header of an upgrade request holds a value that passes a test. -/
def Upgrade.holds (upgrade : Upgrade) (name : String) (test : String → Bool) : Bool :=
  (upgrade.headers.find? name).any test

/-- Whether a request asks for an upgrade to a socket in words that a server
understands. -/
def Upgrade.isProper (upgrade : Upgrade) : Bool :=
  upgrade.holds "connection" (fun value =>
      let words := value.toLower.toList.map fun char => if char = ' ' then ',' else char
      (words.splitOn ',').contains "upgrade".toList)
    && upgrade.holds "upgrade" (fun value => value.toLower = "websocket")
    && upgrade.holds "sec-websocket-version" (fun value => value = "13")

/-- Whether an upgrade request asks for a protocol, one of several between commas. -/
def Upgrade.asksFor (upgrade : Upgrade) (name : String) : Bool :=
  upgrade.holds subprotocolHeader fun names =>
    (names.toList.splitOn ',').any fun item => trimmed (String.ofList item) = name

end WebSocket

end GraphBatch
