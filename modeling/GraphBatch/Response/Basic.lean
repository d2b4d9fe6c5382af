import GraphBatch.Json.Decode
import GraphBatch.Error.Basic

/-!
# Responses

A response of the endpoint holds data, errors, or both. Reported errors win over
data; without either the response is malformed.
-/

namespace GraphBatch

/-- An error that the endpoint reports, with the path of the field that failed. -/
structure ReportedError where
  message : String
  path : Option (List Json)
  extensions : Option Json
deriving Repr, Inhabited, BEq

namespace ReportedError

open Json.Source in
def record : Json.RecordType ReportedError where
  title := "struct GraphQLError"
  strict := false
  blank := ⟨"", none, none⟩
  fields := [
    .given "message" decodeString
      fun value error => { error with message := value },
    .defaulted "path" (decodeOption (decodeList decodeJson))
      fun value error => { error with path := value },
    .defaulted "extensions" (decodeOption decodeJson)
      fun value error => { error with extensions := value }]

/-- A segment of a path: a name as it is, anything else as JSON text. -/
def segmentText : Json → String
  | .str name => name
  | other => other.compact

/-- The text of a reported error: the message and where it occurred. -/
def text (error : ReportedError) : String :=
  match error.path with
  | some path =>
      error.message ++ " (at " ++ String.intercalate "." (path.map segmentText) ++ ")"
  | none => error.message

/-- The texts of reported errors, joined. -/
def joined (errors : List ReportedError) : String :=
  String.intercalate "; " (errors.map text)

end ReportedError

/-- A response of the endpoint. -/
structure Response where
  data : Option Json
  errors : List ReportedError
deriving Repr, Inhabited, BEq

namespace Response

open Json.Source in
def record : Json.RecordType Response where
  title := "struct Response"
  strict := false
  blank := ⟨none, []⟩
  fields := [
    .defaulted "data" (decodeOption decodeJson)
      fun value response => { response with data := value },
    .defaulted "errors" (decodeList ReportedError.record.decode)
      fun value response => { response with errors := value }]

/-- The data of a response, or its errors as a transport fault. -/
def outcome (response : Response) : Outcome Json :=
  if ¬ response.errors.isEmpty then .error (.transport (ReportedError.joined response.errors))
  else
    match response.data with
    | some data => .ok data
    | none => .error (.malformedResponse "data" "data")

end Response

end GraphBatch
