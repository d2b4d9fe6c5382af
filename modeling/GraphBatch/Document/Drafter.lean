import GraphBatch.Document.Basic
import GraphBatch.Document.Draft

/-!
# Drafters

A drafter numbers the drafts that are made on one catalog, whatever becomes of
them, and hands out their builds. The builds of a call that fails are lost; the
numbers that it took stay taken.
-/

namespace GraphBatch

inductive DraftCall where
  | read (key : String) (select : Select)
  | write (key : String) (write : Write)
deriving Repr, BEq

structure Drafter where
  catalog : Catalog
  next : Nat
deriving Repr

namespace Drafter

def ofCatalog (catalog : Catalog) : Drafter := ⟨catalog, 0⟩

def call (drafter : Drafter) : DraftCall → Drafter × Outcome (List Build)
  | .read key select =>
      let (next, draft) := select.draft drafter.catalog key drafter.next
      ({ drafter with next := next }, draft.map fun draft => [draft.build])
  | .write key write =>
      let (next, drafts) := write.drafts drafter.catalog key drafter.next
      ({ drafter with next := next }, drafts.map fun drafts => drafts.map Draft.build)

/-- The builds of calls, one after the other; failing calls contribute none. -/
def calls (drafter : Drafter) : List DraftCall → Drafter × List Build
  | [] => (drafter, [])
  | first :: rest =>
      let (drafter, outcome) := drafter.call first
      let (drafter, builds) := calls drafter rest
      match outcome with
      | .ok made => (drafter, made ++ builds)
      | .error _ => (drafter, builds)

end Drafter

end GraphBatch
