import GraphBatch.Selection

/-!
# Root fields

The parts of a document that one read or one write contributes: a root field
with its alias, arguments and body, and possibly a fragment definition. Values
never appear in them: an argument refers to a variable.
-/

namespace GraphBatch

structure Variable where
  name : String
  type : String
deriving DecidableEq, Repr

def Variable.render (declared : Variable) : String :=
  "$" ++ declared.name ++ ": " ++ declared.type

structure Argument where
  name : String
  variableName : String
deriving DecidableEq, Repr

def Argument.render (argument : Argument) : String :=
  argument.name ++ ": $" ++ argument.variableName

/-- What a root field asks for. -/
inductive Body where
  /-- The fields themselves. -/
  | fields (selection : Selection)
  /-- The fields of a fragment. -/
  | spread (fragment : String)
  /-- The fields of the rows that a write returns. -/
  | returning (selection : Selection)
deriving Repr, BEq

def Body.render : Body → String
  | .fields selection => selection.render
  | .spread fragment => "\x7b ..." ++ fragment ++ " \x7d"
  | .returning selection => "\x7b returning " ++ selection.render ++ " \x7d"

/-- A field of the whole document, under an alias if it has one. -/
structure RootField where
  alias? : Option String
  name : String
  arguments : List Argument
  body : Body
deriving Repr, BEq

namespace RootField

def responseName (root : RootField) : String :=
  root.alias?.getD root.name

def aliasText : Option String → String
  | some name => name ++ ": "
  | none => ""

def argumentsText : List Argument → String
  | [] => ""
  | arguments => "(" ++ String.intercalate ", " (arguments.map Argument.render) ++ ")"

def render (root : RootField) : String :=
  aliasText root.alias? ++ root.name ++ argumentsText root.arguments ++ " " ++ root.body.render

end RootField

structure FragmentDefinition where
  name : String
  table : String
  selection : Selection
deriving Repr, BEq

def FragmentDefinition.render (fragment : FragmentDefinition) : String :=
  "fragment " ++ fragment.name ++ " on " ++ fragment.table ++ " " ++ fragment.selection.render

end GraphBatch
