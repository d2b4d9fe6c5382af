import GraphBatch.Catalog.Registry

/-!
# Introspection

A catalog is read from a database by three queries: the tables of a schema,
their columns and their key columns. The schema's name enters a query as one
string literal, in which a quote is written twice. Introspection is a
conversation: it asks a question, takes the answer, and stops at the first
failure.
-/

namespace GraphBatch.Catalog

/-- The body of a string literal: every quote is written twice. -/
def doubledQuotes : List Char → List Char
  | [] => []
  | char :: rest =>
      if char = '\x27' then '\x27' :: '\x27' :: doubledQuotes rest
      else char :: doubledQuotes rest

def sqlLiteral (text : String) : String :=
  "'" ++ String.ofList (doubledQuotes text.toList) ++ "'"

inductive Question where
  | tables
  | columns
  | keys
deriving DecidableEq, Repr

namespace Question

def opening : Question → String
  | .tables =>
      "SELECT table_name::text AS table_name, table_type::text AS table_type "
        ++ "FROM information_schema.tables "
        ++ "WHERE table_schema = "
  | .columns =>
      "SELECT table_name::text AS table_name, column_name::text AS column_name, "
        ++ "data_type::text AS data_type, udt_name::text AS udt_name "
        ++ "FROM information_schema.columns "
        ++ "WHERE table_schema = "
  | .keys =>
      "SELECT tc.table_name::text AS table_name, tc.constraint_name::text AS constraint_name, "
        ++ "kcu.ordinal_position::int4 AS position, kcu.column_name::text AS key_column "
        ++ "FROM information_schema.table_constraints tc "
        ++ "JOIN information_schema.key_column_usage kcu "
        ++ "ON tc.constraint_name = kcu.constraint_name AND tc.table_schema = kcu.table_schema "
        ++ "WHERE tc.constraint_type = 'PRIMARY KEY' AND tc.table_schema = "

def closing : Question → String
  | .tables => " ORDER BY table_name"
  | .columns => " ORDER BY table_name, ordinal_position"
  | .keys => " ORDER BY tc.table_name, kcu.ordinal_position"

def query (question : Question) (schema : String) : String :=
  question.opening ++ sqlLiteral schema ++ question.closing

def take : Question → Registry → List Row → Registry × Option Error
  | .tables => Registry.takeTables
  | .columns => Registry.takeColumns
  | .keys => Registry.takeKeys

def all : List Question := [.tables, .columns, .keys]

end Question

/-- A source of rows as a function of its state: it answers a query and moves on. -/
abbrev Answering (σ : Type) := σ → String → σ × Outcome (List Row)

def ask {σ : Type} (answering : Answering σ) (schema : String) :
    List Question → Registry → σ → σ × Outcome Registry
  | [], registry, state => (state, .ok registry)
  | question :: rest, registry, state =>
      match answering state (question.query schema) with
      | (state, .error error) => (state, .error error)
      | (state, .ok rows) =>
          match question.take registry rows with
          | (_, some error) => (state, .error error)
          | (registry, none) => ask answering schema rest registry state

def introspect {σ : Type} (answering : Answering σ) (schema : String) (state : σ) :
    σ × Outcome Catalog :=
  match ask answering schema Question.all .empty state with
  | (state, .ok registry) => (state, .ok registry.toCatalog)
  | (state, .error error) => (state, .error error)

end GraphBatch.Catalog
