import GraphBatch.Error.Basic

/-!
# Transport faults

Why a transport gave no value. The faults of its medium are told apart by what
happened, not by a text; every other fault is an error like any other.
-/

namespace GraphBatch

/-- Why a transport gave no value. -/
inductive TransportFault where
  /-- An error that is not the medium's. -/
  | reported (error : Error)
  /-- A reply with an error status. -/
  | status (code : Nat)
  /-- A reply whose body is not a response. -/
  | undecodable
  /-- No reply. -/
  | noReply
  /-- A text that is not JSON. -/
  | malformedText
  /-- A JSON text that is not a message, and why. -/
  | noMessage (reason : String)
  /-- No acknowledgement in time. -/
  | timeout
  /-- A connection that was refused or lost. -/
  | connection
  /-- A database that cannot be reached or whose cells cannot be read. -/
  | database
  /-- A query that the database refuses, with the code of its state. -/
  | refusedQuery (code : String)
deriving DecidableEq, Repr

abbrev Transported (α : Type) := Except TransportFault α

namespace TransportFault

def ofOutcome {α : Type} (outcome : Outcome α) : Transported α :=
  outcome.mapError .reported

end TransportFault

end GraphBatch
