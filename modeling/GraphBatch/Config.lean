import GraphBatch.Entries
import GraphBatch.Error.Basic
import GraphBatch.Url.Parser

/-!
# Configuration

Where the endpoint and its database are, and what is sent with every request.
Each setting is checked when it is made, so that a configuration is always
usable as far as its URLs and its schema go.
-/

namespace GraphBatch

/-- Parses a URL; a text that is none is a fault of the configuration. -/
def Url.ofText (text : String) : Outcome Url :=
  match Url.parse text with
  | .ok url => .ok url
  | .error fault => .error (.configuration fault.message)

/-- Whether the endpoint may have a URL: its scheme is that of the web. -/
def Url.isEndpoint (url : Url) : Bool := ["http", "https"].contains url.scheme

/-- Whether subscriptions may have a URL: its scheme is that of sockets. -/
def Url.isSocket (url : Url) : Bool := ["ws", "wss"].contains url.scheme

/-- The URL, if the endpoint may have it. -/
def Url.requireEndpoint (url : Url) : Outcome Url :=
  if url.isEndpoint then .ok url
  else .error (.configuration ("endpoint must use `http` or `https`; url=" ++ url.text))

/-- The URL, if subscriptions may have it. -/
def Url.requireSocket (url : Url) : Outcome Url :=
  if url.isSocket then .ok url
  else .error (.configuration ("websocket endpoint must use `ws` or `wss`; url=" ++ url.text))

/-- The socket scheme that is as secure as a web scheme. -/
def Url.socketScheme (scheme : String) : String :=
  if scheme = "https" then "wss" else "ws"

/-- Endpoint, database and what is sent with every request. -/
structure Config where
  endpoint : Url
  websocket : Url
  database : Option Url
  schema : String
  adminSecret : Option String
  headers : Entries String
deriving DecidableEq, Repr

namespace Config

def defaultSchema : String := "public"

def secretHeader : String := "x-hasura-admin-secret"

/-- The configuration of an endpoint; subscriptions use the same URL with a
socket scheme. -/
def ofEndpoint (text : String) : Outcome Config := do
  let url ← (← Url.ofText text).requireEndpoint
  .ok {
    endpoint := url
    websocket := url.withScheme (Url.socketScheme url.scheme)
    database := none
    schema := defaultSchema
    adminSecret := none
    headers := [] }

/-- Sets where subscriptions are opened. -/
def withWebsocket (config : Config) (text : String) : Outcome Config := do
  let url ← (← Url.ofText text).requireSocket
  .ok { config with websocket := url }

def withDatabase (config : Config) (text : String) : Outcome Config := do
  let url ← Url.ofText text
  .ok { config with database := some url }

def withSchema (config : Config) (schema : String) : Outcome Config :=
  if schema.isEmpty then .error (.configuration "schema name is empty")
  else .ok { config with schema := schema }

def withAdminSecret (config : Config) (secret : String) : Config :=
  { config with adminSecret := some secret }

def withHeader (config : Config) (name value : String) : Config :=
  { config with headers := config.headers.put name value }

/-- Makes a setting if a value for it is present. -/
def withPresent (config : Config) (value : Option String)
    (set : Config → String → Outcome Config) : Outcome Config :=
  match value with
  | some value => set config value
  | none => .ok config

def ofEnvironment (lookup : String → Option String) : Outcome Config := do
  let endpoint ←
    match lookup "BATCHQL_ENDPOINT" with
    | some endpoint => .ok endpoint
    | none => .error (.configuration "`BATCHQL_ENDPOINT` is not set")
  let config ← ofEndpoint endpoint
  let config ← config.withPresent (lookup "BATCHQL_WS_ENDPOINT") withWebsocket
  let config ← config.withPresent (lookup "DATABASE_URL") withDatabase
  let config ← config.withPresent (lookup "BATCHQL_SCHEMA") withSchema
  config.withPresent (lookup "BATCHQL_ADMIN_SECRET") fun config secret =>
    .ok (config.withAdminSecret secret)

/-- The headers of every request, the admin secret among them. -/
def requestHeaders (config : Config) : Entries String :=
  match config.adminSecret with
  | some secret => config.headers.put secretHeader secret
  | none => config.headers

end Config

/-- A change of a configuration, or its start. -/
inductive Setting where
  | endpoint (text : String)
  | environment (settings : Entries String)
  | websocket (text : String)
  | database (text : String)
  | schema (name : String)
  | adminSecret (secret : String)
  | header (name value : String)
deriving DecidableEq, Repr

namespace Setting

/-- The configuration after a setting; `none` if there is none to change. -/
def apply : Setting → Option Config → Option (Outcome Config)
  | .endpoint text, _ => some (Config.ofEndpoint text)
  | .environment settings, _ => some (Config.ofEnvironment settings.find?)
  | .websocket text, config => config.map (·.withWebsocket text)
  | .database text, config => config.map (·.withDatabase text)
  | .schema name, config => config.map (·.withSchema name)
  | .adminSecret secret, config => config.map fun config => .ok (config.withAdminSecret secret)
  | .header name value, config => config.map fun config => .ok (config.withHeader name value)

/-- Makes settings one after the other, up to the first failure. -/
def applyAll : List Setting → Option Config → Option (Outcome Config)
  | [], config => config.map .ok
  | setting :: rest, config =>
      match setting.apply config with
      | some (.ok config) => applyAll rest (some config)
      | other => other

end Setting

end GraphBatch
