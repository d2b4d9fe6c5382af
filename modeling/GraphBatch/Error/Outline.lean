import GraphBatch.Error.Basic
import GraphBatch.Text.Quoted

/-!
# Outlines of errors

The outline of an error shows its structure over several lines: the outermost
part with its fields, and below it the error that it is a context of, one level
deeper. A level is four spaces.
-/

namespace GraphBatch

def indented (lines : List String) : List String :=
  lines.map ("    " ++ ·)

def bracketed (opening closing : String) (lines : List String) : List String :=
  opening :: indented lines ++ [closing]

namespace Cause

/-- The name of the kind, the name of the record inside it, and its fields. -/
def outlineParts : Cause → String × String × List (String × String)
  | .adhoc message => ("Adhoc", "AdhocError", [("message", Text.quoted message)])
  | .configuration message =>
      ("Configuration", "ConfigurationError", [("message", Text.quoted message)])
  | .unknownTable name => ("UnknownTable", "UnknownTable", [("name", Text.quoted name)])
  | .invalidParams message => ("InvalidParams", "InvalidParams", [("message", Text.quoted message)])
  | .invalidIntrospection message =>
      ("InvalidIntrospection", "InvalidIntrospection", [("message", Text.quoted message)])
  | .transport report => ("Transport", "TransportError", [("inner", Text.quoted report.text)])
  | .malformedResponse path segment =>
      ("MalformedResponse", "MalformedResponse",
        [("path", Text.quoted path), ("segment", Text.quoted segment)])
  | .foreign report => ("Foreign", "ForeignError", [("inner", Text.quoted report.text)])

def outline (cause : Cause) : List String :=
  let (kind, record, fields) := cause.outlineParts
  let lines := fields.map fun field => field.1 ++ ": " ++ field.2 ++ ","
  bracketed ("kind: " ++ kind ++ "(") ")," (bracketed (record ++ " \x7b") "\x7d," lines)

end Cause

namespace Error

/-- The lines of a chain; the last line is the closing brace and what follows it. -/
def outlineLines (after : String) : Cause → List Cause → List String
  | cause, [] => bracketed "Error \x7b" ("\x7d" ++ after) (cause.outline ++ ["cause: None,"])
  | cause, next :: rest =>
      bracketed "Error \x7b" ("\x7d" ++ after)
        (cause.outline ++ bracketed "cause: Some(" ")," (outlineLines "," next rest))

def outline (error : Error) : String :=
  String.intercalate "\n" (outlineLines "" error.outer error.inner)

end Error

end GraphBatch
