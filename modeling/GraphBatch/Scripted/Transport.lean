import GraphBatch.Catalog.Introspection
import GraphBatch.Client.Basic

/-!
# Scripted transports

Transports that answer from a queue, in order, and keep a record of what they
were asked. A queue that is used up answers with a fault.
-/

namespace GraphBatch.Scripted

def usedUp (what : String) : Error := .transport ("no " ++ what ++ " queued")

/-- Rows queued for introspection, and the queries that were asked. -/
structure Rows where
  queued : List (Outcome (List Catalog.Row))
  asked : List String
deriving Repr

namespace Rows

/-- A queue of rows that nothing has been asked of. -/
def ofQueue (queued : List (Outcome (List Catalog.Row))) : Rows := ⟨queued, []⟩

def answer : Catalog.Answering Rows := fun rows query =>
  (⟨rows.queued.tail, rows.asked ++ [query]⟩,
    rows.queued.head?.getD (.error (usedUp "introspection rows")))

end Rows

/-- A request that reached a transport, and whether it was answered with data. -/
structure Exchange where
  request : Request
  answered : Bool
deriving Repr, BEq

/-- Responses queued for requests, and the requests that were answered. -/
structure Answers where
  queued : List (Outcome Json)
  log : List Exchange
deriving Repr

namespace Answers

def queue (answers : Answers) (response : Outcome Json) : Answers :=
  { answers with queued := answers.queued ++ [response] }

def next (answers : Answers) : Outcome Json :=
  answers.queued.head?.getD (.error (usedUp "response"))

def answer : Serving Answers Json := fun answers request =>
  (⟨answers.queued.tail, answers.log ++ [⟨request, answers.next.isOk⟩]⟩, answers.next)

end Answers

/-- The requests that sessions were opened for, in order. -/
abbrev Sessions := List Request

def Sessions.answer : Serving Sessions Nat := fun sessions request =>
  (sessions ++ [request], .ok sessions.length)

end GraphBatch.Scripted
