import GraphBatch.Document.Compile
import GraphBatch.Response.Reshape

/-!
# Clients

A client compiles batches against its catalog and runs them on its transports. A
batch that does not compile never reaches a transport. Transports act on a state
of their own, so that a run of calls can be followed step by step.
-/

namespace GraphBatch

/-- A catalog with the transports that requests run on. -/
structure Client (ε σ : Type) where
  catalog : Catalog
  executor : ε
  subscriber : Option σ
deriving Repr

/-- What a transport does for a request: it moves on to another state and gives an
outcome. -/
abbrev Serving (ω α : Type) := ω → Request → ω × Outcome α

/-- A session that was opened, with the key that its messages are flattened to. -/
structure Opened (δ : Type) where
  session : δ
  flattenKey : Option String
deriving Repr

namespace Client

variable {ε σ ω δ : Type}

def run (serving : Serving ω Json) (state : ω) (document : Outcome Document)
    (reshape : Document → Json → Outcome Json) : ω × Outcome Json :=
  match document with
  | .error error => (state, .error error)
  | .ok document =>
      match serving state document.request with
      | (state, .error error) => (state, .error error)
      | (state, .ok data) => (state, reshape document data)

/-- Reads all tables of a query in one request. -/
def query (serve : ε → Serving ω Json) (client : Client ε σ) (query : Query) (state : ω) :
    ω × Outcome Json :=
  run (serve client.executor) state (Document.ofQuery client.catalog query) fun _ data =>
    Response.flatten data query.flattenKey?

/-- Makes all writes of a mutation in one request. -/
def mutate (serve : ε → Serving ω Json) (client : Client ε σ) (mutation : Mutation) (state : ω) :
    ω × Outcome Json :=
  run (serve client.executor) state (Document.ofMutation client.catalog mutation) fun document data =>
    Response.remap document.flatPaths data

def missingSubscribe : Error := .configuration "no subscription transport configured"

def subscribe (serve : σ → Serving ω δ) (client : Client ε σ) (query : Query) (state : ω) :
    ω × Outcome (Opened δ) :=
  match Document.ofSubscription client.catalog query, client.subscriber with
  | .error error, _ => (state, .error error)
  | .ok _, none => (state, .error missingSubscribe)
  | .ok document, some transport =>
      match serve transport state document.request with
      | (state, .error error) => (state, .error error)
      | (state, .ok session) => (state, .ok ⟨session, query.flattenKey?⟩)

end Client

end GraphBatch
