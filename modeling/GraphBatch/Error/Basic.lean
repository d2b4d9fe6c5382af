/-!
# Errors

An error is a cause with the contexts that were added to it. The context added
last is outermost: it is shown first, and it alone decides the kind of the whole
error.
-/

namespace GraphBatch

/-- A fault reported from outside, with the texts of its successive sources. -/
structure Report where
  text : String
  sources : List String
deriving DecidableEq, Repr

namespace Report

/-- A fault without sources. -/
def ofText (text : String) : Report := ⟨text, []⟩

def texts (report : Report) : List String := report.text :: report.sources

def joined (report : Report) : String := String.intercalate ": " report.texts

end Report

inductive Cause where
  /-- A fault that has only a message. -/
  | adhoc (message : String)
  | configuration (message : String)
  | unknownTable (name : String)
  | invalidParams (message : String)
  | invalidIntrospection (message : String)
  /-- A fault of a transport. -/
  | transport (report : Report)
  /-- A response lacks a segment of a path. -/
  | malformedResponse (path segment : String)
  /-- A fault taken over from another library. -/
  | foreign (report : Report)
deriving DecidableEq, Repr

def Cause.display : Cause → String
  | .adhoc message => message
  | .configuration message => "invalid configuration: " ++ message
  | .unknownTable name => "unknown table: " ++ name
  | .invalidParams message => "invalid params: " ++ message
  | .invalidIntrospection message => "invalid introspection row: " ++ message
  | .transport report => report.joined
  | .malformedResponse path segment =>
      "malformed response: missing `" ++ segment ++ "` while resolving `" ++ path ++ "`"
  | .foreign report => report.text

/-- The kinds of cause that a caller can ask for. -/
inductive Cause.Kind where
  | adhoc
  | configuration
  | unknownTable
  | invalidParams
  | invalidIntrospection
  | transport
  | malformedResponse
deriving DecidableEq, Repr

/-- The kind of a cause; a fault taken over from another library is of none. -/
def Cause.kind? : Cause → Option Cause.Kind
  | .adhoc _ => some .adhoc
  | .configuration _ => some .configuration
  | .unknownTable _ => some .unknownTable
  | .invalidParams _ => some .invalidParams
  | .invalidIntrospection _ => some .invalidIntrospection
  | .transport _ => some .transport
  | .malformedResponse .. => some .malformedResponse
  | .foreign _ => none

/-- The outermost context, or the cause itself, and what it is a context of. -/
structure Error where
  outer : Cause
  inner : List Cause
deriving DecidableEq, Repr

abbrev Outcome (α : Type) := Except Error α

namespace Error

def ofCause (cause : Cause) : Error := ⟨cause, []⟩

def adhoc (message : String) : Error := ofCause (.adhoc message)

def configuration (message : String) : Error := ofCause (.configuration message)

def unknownTable (name : String) : Error := ofCause (.unknownTable name)

def invalidParams (message : String) : Error := ofCause (.invalidParams message)

def invalidIntrospection (message : String) : Error := ofCause (.invalidIntrospection message)

def transport (text : String) : Error := ofCause (.transport (.ofText text))

def malformedResponse (path segment : String) : Error :=
  ofCause (.malformedResponse path segment)

/-- The contexts, outermost first, and last the root cause. -/
def chain (error : Error) : List Cause := error.outer :: error.inner

def root (error : Error) : Error :=
  ofCause (error.inner.getLast?.getD error.outer)

/-- Whether an error is of a kind; only its outermost part counts. -/
def isOfKind (error : Error) (kind : Cause.Kind) : Bool :=
  error.outer.kind? == some kind

/-- The texts of the whole chain, outermost first. -/
def display (error : Error) : String :=
  String.intercalate ": " (error.chain.map Cause.display)

/-- The texts along the sources of the outermost part: of a transport fault its
whole text and then each of its texts, of a fault taken over each of its texts. -/
def sources (error : Error) : List String :=
  match error.outer with
  | .transport report => report.joined :: report.texts
  | .foreign report => report.texts
  | _ => []

end Error

end GraphBatch
