import GraphBatch.Config

/-!
# Connecting to a database

A connection URL says which host, database and user a session is opened for.
The parts are taken as the URL writes them.
-/

namespace GraphBatch.Postgres

/-- What a session is opened with. -/
structure Connection where
  host : String
  database : String
  port : Option Nat
  user : Option String
  password : Option String
deriving DecidableEq, Repr

namespace Connection

def isScheme (scheme : String) : Bool := ["postgres", "postgresql"].contains scheme

/-- The name of the database that a path gives: what follows its leading slashes. -/
def databaseName (path : String) : String :=
  String.ofList (path.toList.dropWhile (· = '/'))

def ofUrl (url : Url) : Outcome Connection := do
  if ¬ isScheme url.scheme then
    .error (.configuration ("connection URL does not have a `postgresql` scheme; url=" ++ url.text))
  else
    match url.authority, url.host? with
    | some authority, some host =>
        if url.path = "" ∨ url.path = "/" then
          .error (.configuration
            ("no database specified - missing path in connection URL; url=" ++ url.text))
        else
          .ok {
            host := host.text
            database := databaseName url.path
            port := authority.port
            user := if authority.username = "" then none else some authority.username
            password := authority.password }
    | _, _ => .error (.configuration ("missing host in connection URL; url=" ++ url.text))

def ofText (text : String) : Outcome Connection := do
  ofUrl (← Url.ofText text)

end Connection

end GraphBatch.Postgres
