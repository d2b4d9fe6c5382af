import GraphBatch.Catalog.Introspection
import GraphBatch.Client.Basic
import GraphBatch.Config

/-!
# Assembling clients

An assembly gathers the parts of a client. A catalog that was not supplied is
introspected. Building takes the catalog and the transports of the client out of
the assembly; the transport of introspection and the schema stay.
-/

namespace GraphBatch

/-- The parts of a client that are known so far. -/
structure Assembly (ι ε σ : Type) where
  introspector : Option ι
  executor : Option ε
  subscriber : Option σ
  catalog : Option Catalog
  schema : Option String
deriving Repr, BEq

structure Factories (ι ε σ : Type) where
  introspect : Url → Outcome ι
  execute : Config → Outcome ε
  subscribe : Config → Outcome σ

namespace Assembly

variable {ι ε σ ω : Type}

def empty : Assembly ι ε σ := ⟨none, none, none, none, none⟩

def missingExecute : Error := .configuration "no execution transport configured"

def missingCatalog : Error :=
  .configuration "no introspection transport or catalog configured"

def missingDatabase : Error :=
  .configuration "`database_url` is required to introspect the schema"

/-- The catalog of an assembly, introspected unless it was supplied. -/
def findCatalog (answering : ι → Catalog.Answering ω) (assembly : Assembly ι ε σ) (state : ω) :
    ω × Outcome Catalog :=
  match assembly.catalog, assembly.introspector with
  | some catalog, _ => (state, .ok catalog)
  | none, none => (state, .error missingCatalog)
  | none, some transport =>
      Catalog.introspect (answering transport)
        (assembly.schema.getD Config.defaultSchema) state

/-- Builds a client. A failed build leaves the assembly as it was. -/
def build (answering : ι → Catalog.Answering ω) (assembly : Assembly ι ε σ) (state : ω) :
    ω × Assembly ι ε σ × Outcome (Client ε σ) :=
  match assembly.executor with
  | none => (state, assembly, .error missingExecute)
  | some executor =>
      match assembly.findCatalog answering state with
      | (state, .error error) => (state, assembly, .error error)
      | (state, .ok catalog) =>
          (state, { assembly with catalog := none, executor := none, subscriber := none },
            .ok ⟨catalog, executor, assembly.subscriber⟩)

def makeIntrospect (factories : Factories ι ε σ) (config : Config) : Outcome ι :=
  match config.database with
  | some url => factories.introspect url
  | none => .error missingDatabase

def supplyIntrospect (factories : Factories ι ε σ) (config : Config)
    (assembly : Assembly ι ε σ) : Outcome (Assembly ι ε σ) :=
  if assembly.catalog.isNone ∧ assembly.introspector.isNone then do
    let transport ← makeIntrospect factories config
    .ok { assembly with introspector := some transport }
  else .ok assembly

def supplyExecute (factories : Factories ι ε σ) (config : Config)
    (assembly : Assembly ι ε σ) : Outcome (Assembly ι ε σ) :=
  if assembly.executor.isNone then do
    let transport ← factories.execute config
    .ok { assembly with executor := some transport }
  else .ok assembly

def supplySubscribe (factories : Factories ι ε σ) (config : Config)
    (assembly : Assembly ι ε σ) : Outcome (Assembly ι ε σ) :=
  if assembly.subscriber.isNone then do
    let transport ← factories.subscribe config
    .ok { assembly with subscriber := some transport }
  else .ok assembly

def supplySchema (config : Config) (assembly : Assembly ι ε σ) : Outcome (Assembly ι ε σ) :=
  .ok { assembly with schema := assembly.schema <|> some config.schema }

/-- Supplies parts one after the other up to the first failure. What was supplied
before a failure stays. -/
def supply : List (Assembly ι ε σ → Outcome (Assembly ι ε σ)) → Assembly ι ε σ →
    Assembly ι ε σ × Option Error
  | [], assembly => (assembly, none)
  | step :: rest, assembly =>
      match step assembly with
      | .error error => (assembly, some error)
      | .ok assembly => supply rest assembly

/-- Supplies whatever an assembly lacks from a configuration. -/
def equip (factories : Factories ι ε σ) (config : Config) (assembly : Assembly ι ε σ) :
    Assembly ι ε σ × Option Error :=
  assembly |> supply [supplyIntrospect factories config, supplyExecute factories config,
    supplySubscribe factories config, supplySchema config]

def connect (factories : Factories ι ε σ) (answering : ι → Catalog.Answering ω)
    (config : Config) (assembly : Assembly ι ε σ) (state : ω) :
    ω × Assembly ι ε σ × Outcome (Client ε σ) :=
  match assembly.equip factories config with
  | (assembly, some error) => (state, assembly, .error error)
  | (assembly, none) => assembly.build answering state

end Assembly

end GraphBatch
