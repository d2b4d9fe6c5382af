import GraphBatch.Document.RootField
import GraphBatch.Path

/-!
# Builds

A build is the rendered contribution of one read or one write to a document:
the text of its root field, the variables it declares and binds, the text of its
fragment, and the flat path of its result. Its parts are open, so that builds
made elsewhere can be composed too.
-/

namespace GraphBatch

structure NamedFragment where
  name : String
  text : String
deriving DecidableEq, Repr

/-- The contribution of one read or one write to a document. -/
structure Build where
  key : String
  operationName : String
  declared : List Variable
  bindings : Entries Json
  selection : String
  fragment : Option NamedFragment
  flatPath : Option FlatPath
deriving Repr, BEq

end GraphBatch
