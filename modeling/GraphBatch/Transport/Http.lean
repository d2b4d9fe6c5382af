import GraphBatch.Config
import GraphBatch.Json.Text
import GraphBatch.Request
import GraphBatch.Response.Basic
import GraphBatch.Transport.Fault
import GraphBatch.Transport.Header

/-!
# Requests over HTTP

A request is posted to the endpoint as JSON, together with the headers of the
transport. The reply is a response unless its status is that of an error or its
body is not one.
-/

namespace GraphBatch

structure Http where
  endpoint : Url
  headers : HeaderMap
deriving DecidableEq, Repr

structure Http.Post where
  target : String
  headers : HeaderMap
  body : String
deriving DecidableEq, Repr

structure Http.Reply where
  status : Nat
  body : String
deriving DecidableEq, Repr

namespace Http

/-- The transport to an endpoint that sends headers with every request. -/
def ofHeaders (endpoint : Url) (headers : List (String × String)) : Outcome Http := do
  let endpoint ← endpoint.requireEndpoint
  let headers ← HeaderMap.ofPairs headers
  .ok ⟨endpoint, headers⟩

def ofEndpoint (endpoint : Url) : Outcome Http := ofHeaders endpoint []

/-- What the transport sends for a request. The body is always declared as JSON. -/
def post (http : Http) (request : Request) : Post where
  target := http.endpoint.pathAndQuery
  headers := http.headers.put "content-type" "application/json"
  body := request.toJson.compact

def Post.line (post : Post) : String := "POST " ++ post.target ++ " HTTP/1.1"

def isErrorStatus (status : Nat) : Bool := 400 ≤ status && status < 600

def response : Option Reply → Transported Response
  | none => .error .noReply
  | some reply =>
      if isErrorStatus reply.status then .error (.status reply.status)
      else
        match Json.decodeText Response.record.decode reply.body with
        | .ok response => .ok response
        | .error _ => .error .undecodable

def receive (reply : Option Reply) : Transported Json := do
  TransportFault.ofOutcome (← response reply).outcome

end Http

end GraphBatch
