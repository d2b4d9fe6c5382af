import GraphBatch.Client.Assembly
import GraphBatch.Postgres.Connection
import GraphBatch.Transport.Http
import GraphBatch.Transport.WebSocket

/-!
# Built-in transports

A catalog is introspected from a database, requests go over HTTP, and
subscriptions over sockets. A build without some of these refuses to make them.
-/

namespace GraphBatch.Factories

def unsupportedDatabase (url : Url) : Error :=
  .configuration ("unsupported database; scheme=" ++ url.scheme ++ "; url=" ++ url.text)

def disabledFeature (feature : String) : Error :=
  .configuration ("`" ++ feature ++ "` feature not enabled")

def ofDatabase {ι : Type} (make : Url → Outcome ι) (url : Url) : Outcome ι :=
  if Postgres.Connection.isScheme url.scheme then make url
  else .error (unsupportedDatabase url)

def sessionPayload (headers : Entries String) : Json :=
  .obj [("headers", .obj (headers.map fun header => (header.1, .str header.2)))]

/-- The socket transport of a configuration. Headers are sent with the upgrade
request and again in the session. -/
def socketOf (config : Config) : Outcome WebSocket := do
  let socket ← WebSocket.ofUrl config.websocket
  let headers := config.requestHeaders
  let socket := if headers.isEmpty then socket else socket.withPayload (sessionPayload headers)
  .ok (socket.withHeaders headers)

/-- The built-in transports, with the way in which a database is connected to. -/
def builtIn {ι : Type} (connect : Postgres.Connection → Outcome ι) : Factories ι Http WebSocket where
  introspect := ofDatabase fun url => do connect (← Postgres.Connection.ofUrl url)
  execute config := Http.ofHeaders config.endpoint config.requestHeaders
  subscribe := socketOf

/-- Transports of a build that leaves all of them out. -/
def disabled {ι ε σ : Type} : Factories ι ε σ where
  introspect := ofDatabase fun _ => .error (disabledFeature "postgresql")
  execute _ := .error (disabledFeature "http")
  subscribe _ := .error (disabledFeature "http")

end GraphBatch.Factories
