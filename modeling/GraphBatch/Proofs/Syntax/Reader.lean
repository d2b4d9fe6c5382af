import GraphBatch.Document.Basic
import GraphBatch.Proofs.Syntax.Token

/-!
# Reading documents

A reader of the documents that this library writes: fragment definitions, then
one operation with a name, with declared variables and with root fields. A
reader takes tokens from the front and leaves the others. A selection set may be
empty; parentheses and the braces of an operation may not.
-/

namespace GraphBatch.Syntax

/-! ## Trees -/

/-- The type of a variable: of one value or of a list, and either may be non-null. -/
inductive TypeReference where
  | named (name : String) (required : Bool)
  | list (item : TypeReference) (required : Bool)
deriving DecidableEq, Repr

structure Declaration where
  name : String
  type : TypeReference
deriving DecidableEq, Repr

/-- What stands in the braces of a root field or a fragment. -/
inductive SelectionSet where
  | fields (selection : Selection)
  | spread (fragment : String)
deriving Repr

/-- A root field of an operation. -/
structure Root where
  alias? : Option String
  name : String
  arguments : List Argument
  selection : SelectionSet
deriving Repr

/-- An operation with its variables and root fields, in order. -/
structure Operation where
  kind : OperationKind
  name : String
  declared : List Declaration
  roots : List Root
deriving Repr

structure Tree where
  fragments : List FragmentDefinition
  operation : Operation
deriving Repr

/-! ## Readers -/

/-- What is read from the front of tokens, and the tokens that are left. -/
abbrev Reader (α : Type) := List Token → Option (α × List Token)

def Token.isName : Token → Bool
  | .name _ => true
  | _ => false

/-- Reads items as long as the next token begins one. An item that takes no token
is refused. -/
def readWhile {α : Type} (begins : Token → Bool) (read : Reader α) : Reader (List α)
  | [] => some ([], [])
  | token :: tokens =>
      if begins token then
        match read (token :: tokens) with
        | none => none
        | some (item, rest) =>
            if rest.length < (token :: tokens).length then
              (readWhile begins read rest).map fun (items, rest) => (item :: items, rest)
            else none
      else some ([], token :: tokens)
termination_by tokens => tokens.length
decreasing_by assumption

/-- Reads items in parentheses, at least one; there are none without parentheses. -/
def readParenthesized {α : Type} (begins : Token → Bool) (read : Reader α) : Reader (List α)
  | .openParen :: tokens =>
      match readWhile begins read tokens with
      | some (item :: items, .closeParen :: rest) => some (item :: items, rest)
      | _ => none
  | tokens => some ([], tokens)

/-- Reads the mark of a non-null type, if it is there. -/
def readBang : List Token → Bool × List Token
  | .bang :: rest => (true, rest)
  | tokens => (false, tokens)

def readType : Reader TypeReference
  | .name name :: tokens =>
      let (required, rest) := readBang tokens
      some (.named name required, rest)
  | .openBracket :: tokens =>
      match readType tokens with
      | some (item, .closeBracket :: tokens) =>
          let (required, rest) := readBang tokens
          some (.list item required, rest)
      | _ => none
  | _ => none

def readDeclaration : Reader Declaration
  | .dollar :: .name name :: .colon :: tokens =>
      (readType tokens).map fun (type, rest) => (⟨name, type⟩, rest)
  | _ => none

def readArgument : Reader Argument
  | .name name :: .colon :: .dollar :: .name variableName :: rest =>
      some (⟨name, variableName⟩, rest)
  | _ => none

/-- Reads fields up to the brace that closes them. For every brace that was opened
inside, `outer` holds the name of the relation and the fields before it. -/
def readFields : List Token → List (String × Selection) → Selection →
    Option (Selection × List Token)
  | .name name :: .openBrace :: tokens, outer, found =>
      readFields tokens ((name, found) :: outer) []
  | .name name :: tokens, outer, found =>
      readFields tokens outer (found ++ [.column name])
  | .closeBrace :: tokens, (name, before) :: outer, found =>
      readFields tokens outer (before ++ [.relation name found])
  | .closeBrace :: rest, [], found => some (found, rest)
  | _, _, _ => none

def readSelectionSet : Reader SelectionSet
  | .openBrace :: .ellipsis :: .name fragment :: .closeBrace :: rest =>
      some (.spread fragment, rest)
  | .openBrace :: tokens =>
      (readFields tokens [] []).map fun (selection, rest) => (.fields selection, rest)
  | _ => none

def readAlias : List Token → Option String × List Token
  | .name name :: .colon :: rest => (some name, rest)
  | tokens => (none, tokens)

def readRoot : Reader Root := fun tokens =>
  match readAlias tokens with
  | (alias?, .name name :: tokens) => do
      let (arguments, tokens) ← readParenthesized Token.isName readArgument tokens
      let (selection, rest) ← readSelectionSet tokens
      some (⟨alias?, name, arguments, selection⟩, rest)
  | _ => none

def readFragment : Reader FragmentDefinition
  | .name "fragment" :: .name name :: .name "on" :: .name table :: .openBrace :: tokens =>
      (readFields tokens [] []).map fun (selection, rest) => (⟨name, table, selection⟩, rest)
  | _ => none

def kindOf? (keyword : String) : Option OperationKind :=
  [OperationKind.query, .mutation, .subscription].find? fun kind => kind.keyword = keyword

/-- Reads an operation, with at least one root field. -/
def readOperation : Reader Operation
  | .name keyword :: .name name :: tokens => do
      let kind ← kindOf? keyword
      let (declared, tokens) ← readParenthesized (· = .dollar) readDeclaration tokens
      match tokens with
      | .openBrace :: tokens =>
          match readWhile Token.isName readRoot tokens with
          | some (root :: roots, .closeBrace :: rest) =>
              some (⟨kind, name, declared, root :: roots⟩, rest)
          | _ => none
      | _ => none
  | _ => none

def readTree : Reader Tree := fun tokens => do
  let (fragments, tokens) ← readWhile (· = .name "fragment") readFragment tokens
  let (operation, rest) ← readOperation tokens
  some (⟨fragments, operation⟩, rest)

def parse (text : String) : Option Tree := do
  let tokens ← tokens? text.toList
  let (tree, rest) ← readTree tokens
  if rest = [] then some tree else none

end GraphBatch.Syntax
