import GraphBatch.Json.Basic
import GraphBatch.Error.Basic
import GraphBatch.Path

/-!
# Reshaping responses

What the caller receives of a response. A read batch of one table is flattened
to the value of that table. The results of a mutation are moved from their root
fields to the places where the caller expects them, in a fresh object.
-/

namespace GraphBatch.Response

/-- The value under a key if there is one to flatten to, else the whole response. -/
def flatten (data : Json) : Option String → Outcome Json
  | none => .ok data
  | some key =>
      match data.member? key with
      | some value => .ok value
      | none => .error (.malformedResponse key key)

/-- Follows segments into nested objects; the first segment that is missing. -/
def follow : Json → List String → Except String Json
  | data, [] => .ok data
  | data, segment :: rest =>
      match data.member? segment with
      | some value => follow value rest
      | none => .error segment

/-- The value at a path, or an error that gives the path and its first missing
segment. -/
def resolve (data : Json) (path : Path) : Outcome Json :=
  match follow data path.segments with
  | .ok value => .ok value
  | .error segment => .error (.malformedResponse path.text segment)

/-- Writes a value at segments below a target, making objects on the way; the
path is the one that errors name. -/
def writeAt (path : Path) (value : Json) : List String → Json → Outcome Json
  | [], _ => .error (.adhoc "cannot write a result at an empty path")
  | [last], target =>
      match target.members? with
      | some members => .ok (.obj (members.put last value))
      | none =>
          .error (.adhoc ("cannot write `" ++ path.text ++ "`: parent of `" ++ last
            ++ "` is not an object"))
  | segment :: rest, target =>
      match target.members? with
      | some members => do
          let child ← writeAt path value rest ((members.find? segment).getD .empty)
          .ok (.obj (members.put segment child))
      | none =>
          .error (.adhoc ("cannot write `" ++ path.text ++ "`: `" ++ segment
            ++ "` is not an object"))

def remapInto (data : Json) : List FlatPath → Json → Outcome Json
  | [], target => .ok target
  | flatPath :: rest, target => do
      let value ← resolve data flatPath.endpoint
      let target ← writeAt flatPath.caller value flatPath.caller.segments target
      remapInto data rest target

/-- Moves results to where the caller expects them. -/
def remap (flatPaths : List FlatPath) (data : Json) : Outcome Json :=
  remapInto data flatPaths .empty

end GraphBatch.Response
