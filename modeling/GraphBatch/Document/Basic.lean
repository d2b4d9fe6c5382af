import GraphBatch.Document.Build
import GraphBatch.Error.Basic
import GraphBatch.GeneratedName
import GraphBatch.Request

/-!
# Documents

A document is composed of builds: every fragment once, then one operation that
declares the variables of all builds and holds their root fields in order. It
fails if there are no builds, if two builds give one fragment name to different
texts, or if a variable is bound twice.
-/

namespace GraphBatch

inductive OperationKind where
  | query
  | mutation
  | subscription
deriving DecidableEq, Repr

def OperationKind.keyword : OperationKind → String
  | .query => "query"
  | .mutation => "mutation"
  | .subscription => "subscription"

/-- A composed document with the values of its variables and the flat paths of
its results. -/
structure Document where
  kind : OperationKind
  operationName : String
  text : String
  values : Entries Json
  flatPaths : List FlatPath
deriving Repr, BEq

namespace Document

def emptyBatch (kind : OperationKind) : Error :=
  .invalidParams (kind.keyword ++ " batch names no tables")

def conflictingFragment (name : String) : Error :=
  .invalidParams ("fragment `" ++ name ++ "` is defined twice with different selections")

def repeatedVariable (name : String) : Error :=
  .invalidParams ("variable `$" ++ name ++ "` is declared twice")

/-- Adds a fragment: a name that is known must come with the same text. -/
def addFragment (fragments : Entries String) : Option NamedFragment → Outcome (Entries String)
  | none => .ok fragments
  | some fragment =>
      match fragments.find? fragment.name with
      | none => .ok (fragments.put fragment.name fragment.text)
      | some text =>
          if text = fragment.text then .ok fragments
          else .error (conflictingFragment fragment.name)

/-- Adds bindings: no name may be bound already. -/
def addBindings : Entries Json → List (String × Json) → Outcome (Entries Json)
  | values, [] => .ok values
  | values, (name, value) :: rest =>
      if values.has name then .error (repeatedVariable name)
      else addBindings (values.put name value) rest

def gather : Entries String → Entries Json → List Build → Outcome (Entries String × Entries Json)
  | fragments, values, [] => .ok (fragments, values)
  | fragments, values, build :: rest => do
      let fragments ← addFragment fragments build.fragment
      let values ← addBindings values build.bindings
      gather fragments values rest

def declarationsText : List Variable → String
  | [] => ""
  | declared => "(" ++ String.intercalate ", " (declared.map Variable.render) ++ ")"

def operationText (kind : OperationKind) (name : String) (declared : List Variable)
    (roots : List String) : String :=
  kind.keyword ++ " " ++ name ++ declarationsText declared
    ++ " \x7b " ++ String.intercalate " " roots ++ " \x7d"

def fragmentsText (fragments : Entries String) : String :=
  String.join (fragments.values.map (· ++ "\n"))

def compose (kind : OperationKind) (builds : List Build) : Outcome Document :=
  if builds.isEmpty then .error (emptyBatch kind)
  else do
    let (fragments, values) ← gather [] [] builds
    let name := GeneratedName.forOperation (builds.map Build.operationName)
    .ok {
      kind := kind
      operationName := name
      text := fragmentsText fragments
        ++ operationText kind name (builds.flatMap Build.declared) (builds.map Build.selection)
      values := values
      flatPaths := builds.filterMap Build.flatPath }

def request (document : Document) : Request :=
  ⟨document.text, document.values, some document.operationName⟩

end Document

end GraphBatch
