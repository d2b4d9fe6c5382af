import GraphBatch.Json.Basic

/-!
# Paths

A path is a place inside nested objects, held as its segments. Its text joins
the segments with dots; a text is split at every dot, so an empty text is one
empty segment. A flat path pairs the place where the caller expects a result
with the place where the endpoint puts it.
-/

namespace GraphBatch

/-- The segments of a place inside nested objects. -/
structure Path where
  segments : List String
deriving DecidableEq, Repr

namespace Path

def empty : Path := ⟨[]⟩

def ofText (text : String) : Path :=
  ⟨(text.toList.splitOn '.').map String.ofList⟩

def text (path : Path) : String :=
  String.intercalate "." path.segments

def push (path : Path) (segment : String) : Path :=
  ⟨path.segments ++ [segment]⟩

def isEmpty (path : Path) : Bool :=
  path.segments.isEmpty

end Path

/-- Where the caller expects a result, and where the endpoint puts it. -/
structure FlatPath where
  caller : Path
  endpoint : Path
deriving DecidableEq, Repr

def FlatPath.text (flatPath : FlatPath) : String :=
  flatPath.caller.text ++ " <- " ++ flatPath.endpoint.text

end GraphBatch
