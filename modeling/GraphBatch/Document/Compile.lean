import GraphBatch.Document.Basic
import GraphBatch.Document.Draft

/-!
# Compilation

A batch compiles to one document. Its reads or writes are drafted in the
caller's order, so that the first one that fails decides the error; only when
every draft is made is the document composed.
-/

namespace GraphBatch

def draftReads (catalog : Catalog) : List (String × Select) → Nat → Outcome (List Draft)
  | [], _ => .ok []
  | (key, select) :: rest, index =>
      match select.draft catalog key index with
      | (_, .error error) => .error error
      | (next, .ok draft) => do
          let drafts ← draftReads catalog rest next
          .ok (draft :: drafts)

def draftWrites (catalog : Catalog) : List (String × Write) → Nat → Outcome (List Draft)
  | [], _ => .ok []
  | (key, write) :: rest, index =>
      match write.drafts catalog key index with
      | (_, .error error) => .error error
      | (next, .ok first) => do
          let drafts ← draftWrites catalog rest next
          .ok (first ++ drafts)

namespace Document

def ofReads (kind : OperationKind) (catalog : Catalog) (query : Query) : Outcome Document := do
  let drafts ← draftReads catalog query.tables 0
  compose kind (drafts.map Draft.build)

def ofQuery (catalog : Catalog) (query : Query) : Outcome Document :=
  ofReads .query catalog query

def ofSubscription (catalog : Catalog) (query : Query) : Outcome Document :=
  ofReads .subscription catalog query

def ofMutation (catalog : Catalog) (mutation : Mutation) : Outcome Document := do
  let drafts ← draftWrites catalog mutation.tables 0
  compose .mutation (drafts.map Draft.build)

end Document

end GraphBatch
