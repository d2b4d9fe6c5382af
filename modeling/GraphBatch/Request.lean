import GraphBatch.Json.Basic

/-!
# Requests

What a transport sends for a document: its text, the values of its variables,
and the name of the operation to run.
-/

namespace GraphBatch

/-- A document's text with the values of its variables. -/
structure Request where
  text : String
  values : Entries Json
  operationName : Option String
deriving Repr, BEq

/-- The members of a request; an absent operation name is left out. -/
def Request.toJson (request : Request) : Json :=
  .obj ([("query", .str request.text), ("variables", .obj request.values)]
    ++ (request.operationName.map fun name => ("operationName", Json.str name)).toList)

end GraphBatch
