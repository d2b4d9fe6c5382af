import GraphBatch.Proofs.Session.Conduct
import Mathlib.Data.List.Induction

/-!
# Moments of a session

A message can be sent at one moment and not at another. A session that has something to
send at a moment when it cannot is over. If it can send whatever it has to send, it does
what a session does about the frames alone.
-/

namespace GraphBatch.Session

/-- What arrives at a session, and whether anything can be sent at that moment. -/
structure Moment where
  arrival : Arrival
  sendable : Bool

/-- What a session does at a moment: sending fails if something is to be sent that cannot
be. -/
def reactAt (request : Request) (stage : Stage) (moment : Moment) : Reaction :=
  let reaction := react request stage moment.arrival
  if reaction.sent.isEmpty ∨ moment.sendable then reaction else sendingFailed stage

def proceedThrough (request : Request) : Record → List Moment → Record
  | record, [] => record
  | record, moment :: rest =>
      proceedThrough request (record.after (reactAt request record.stage moment)) rest

/-- A session from its opening on, which may be impossible to send. -/
def runThrough (payload : Option Json) (request : Request) (sendable : Bool)
    (moments : List Moment) : Record :=
  proceedThrough request
    (Record.unopened.after (if sendable then opened payload else sendingFailed .opening)) moments

/-- Whatever a session has to send can be sent when it has to. -/
structure Unhindered (payload : Option Json) (request : Request) (sendable : Bool)
    (moments : List Moment) : Prop where
  opens : sendable = true
  replies : ∀ before moment after, moments = before ++ moment :: after →
    (react request (runThrough payload request sendable before).stage moment.arrival).sent = [] ∨
      moment.sendable = true

section Runs

variable {payload : Option Json} {request : Request} {sendable : Bool} {moments : List Moment}

theorem proceedThrough_append (request : Request) (record : Record)
    (first second : List Moment) :
    proceedThrough request record (first ++ second) =
      proceedThrough request (proceedThrough request record first) second := by
  induction first generalizing record with
  | nil => rfl
  | cons moment rest ih => exact ih _

theorem runThrough_concat (moments : List Moment) (last : Moment) :
    runThrough payload request sendable (moments ++ [last]) =
      (runThrough payload request sendable moments).after
        (reactAt request (runThrough payload request sendable moments).stage last) := by
  rw [runThrough, proceedThrough_append]
  rfl

theorem proceed_append (request : Request) (record : Record) (first second : List Arrival) :
    proceed request record (first ++ second) =
      proceed request (proceed request record first) second := by
  induction first generalizing record with
  | nil => rfl
  | cons arrival rest ih => exact ih _

theorem run_concat (arrivals : List Arrival) (last : Arrival) :
    run payload request (arrivals ++ [last]) =
      (run payload request arrivals).after
        (react request (run payload request arrivals).stage last) := by
  rw [run, proceed_append]
  rfl

theorem Unhindered.of_sendable (all : ∀ moment ∈ moments, moment.sendable = true) :
    Unhindered payload request true moments := by
  refine ⟨rfl, ?_⟩
  rintro before moment after rfl
  exact Or.inr (all moment (List.mem_append_right _ List.mem_cons_self))

/-- A session that can send whatever it has to send goes by the frames alone. -/
theorem Unhindered.runThrough_eq (unhindered : Unhindered payload request sendable moments) :
    runThrough payload request sendable moments =
      run payload request (moments.map Moment.arrival) := by
  induction moments using List.reverseRecOn with
  | nil =>
      rw [unhindered.opens]
      rfl
  | append_singleton moments last ih =>
      have earlier : Unhindered payload request sendable moments := by
        refine ⟨unhindered.opens, ?_⟩
        rintro before moment after rfl
        exact unhindered.replies before moment (after ++ [last]) (by simp)
      have reached := ih earlier
      have sends := unhindered.replies moments last [] rfl
      rw [← List.isEmpty_iff] at sends
      rw [runThrough_concat, reactAt, if_pos sends, reached, List.map_append, List.map_singleton,
        run_concat]

end Runs

end GraphBatch.Session
