import GraphBatch.Url.Host

/-!
# URLs

A URL in normal form: a scheme, possibly an authority, a path, and possibly a
query and a fragment. The parts are held as they are written, percent-encoded.
-/

namespace GraphBatch

/-- Who is asked for and where: user name, password, host and port. The host is
absent where it is empty, the port where it is the scheme's own. -/
structure Url.Authority where
  username : String
  password : Option String
  host : Option Url.Host
  port : Option Nat
deriving DecidableEq, Repr

/-- A URL in normal form. -/
structure Url where
  scheme : String
  authority : Option Url.Authority
  path : String
  query : Option String
  fragment : Option String
deriving DecidableEq, Repr

namespace Url

/-- Schemes that need a host and a path. -/
def isSpecialScheme (scheme : String) : Bool :=
  ["http", "https", "ws", "wss", "ftp", "file"].contains scheme

def defaultPort? (scheme : String) : Option Nat :=
  if scheme = "http" ∨ scheme = "ws" then some 80
  else if scheme = "https" ∨ scheme = "wss" then some 443
  else if scheme = "ftp" then some 21
  else none

/-- The text of credentials, with the sign that ends them if there are any. -/
def Authority.userText (authority : Authority) : String :=
  let password := (authority.password.map (":" ++ ·)).getD ""
  let user := authority.username ++ password
  if user.isEmpty then "" else user ++ "@"

def Authority.text (authority : Authority) : String :=
  authority.userText ++ (authority.host.map Host.text).getD ""
    ++ (authority.port.map fun port => ":" ++ toString port).getD ""

/-- The text between the scheme and the path. Without an authority a path that
starts with two slashes is set off by a dot. -/
def authorityText (url : Url) : String :=
  match url.authority with
  | some authority => "//" ++ authority.text
  | none => if url.path.startsWith "//" then "/." else ""

def text (url : Url) : String :=
  url.scheme ++ ":" ++ url.authorityText ++ url.path
    ++ (url.query.map ("?" ++ ·)).getD ""
    ++ (url.fragment.map ("#" ++ ·)).getD ""

def host? (url : Url) : Option Host :=
  url.authority.bind Authority.host

def pathAndQuery (url : Url) : String :=
  url.path ++ (url.query.map ("?" ++ ·)).getD ""

/-- The URL with another special scheme. A port that is the new scheme's own is
left out. -/
def withScheme (url : Url) (scheme : String) : Url :=
  { url with
    scheme := scheme
    authority := url.authority.map fun authority =>
      { authority with port := authority.port.filter (some · ≠ defaultPort? scheme) } }

end Url

end GraphBatch
