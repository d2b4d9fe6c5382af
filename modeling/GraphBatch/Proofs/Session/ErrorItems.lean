import GraphBatch.Proofs.Session.Foreign
import GraphBatch.Proofs.Session.Play

/-!
# Error items

An item of a session is the data of a response, or an error. An error message of the
server, a text that is no message, the loss of the connection and a pong that cannot be
sent give one error and end the operation. A response that reports errors or has no data
gives an error too, and the operation goes on. So an error is the last item of a session,
and has ended its operation, exactly if no response to the operation fails.
-/

namespace GraphBatch

namespace Session

/-- An error is the last item of a session, and the operation has ended with it. -/
def ErrorsLast (record : Record) : Prop :=
  ∀ before fault after, record.items = before ++ .error fault :: after →
    after = [] ∧ record.stage = .ended

/-- Whether a frame is a response to the operation that reports errors or has no data. -/
def Arrival.fails (arrival : Arrival) : Bool :=
  arrival.response?.any fun response => !response.outcome.isOk

/-- If everything can be sent, only what arrives matters. -/
theorem runThrough_sendable (payload : Option Json) (request : Request)
    (arrivals : List Arrival) :
    runThrough payload request true (arrivals.map fun arrival => ⟨arrival, true⟩) =
      run payload request arrivals := by
  have all : ∀ moment ∈ arrivals.map fun arrival => Moment.mk arrival true,
      moment.sendable = true := by
    intro moment inside
    obtain ⟨arrival, _, rfl⟩ := List.mem_map.mp inside
    rfl
  rw [(Unhindered.of_sendable all).runThrough_eq, List.map_map]
  exact congrArg (run payload request) (List.map_id arrivals)

/-! ## Items -/

namespace Arrival

theorem message?_of_response? {arrival : Arrival} {response : Response}
    (given : arrival.response? = some response) :
    arrival.message? = some (.next operationId response) := by
  unfold response? at given
  split at given
  · rename_i id carried response_here
    split at given
    · rename_i own
      cases given
      rw [response_here, own]
    · cases given
  · cases given

theorem pongs_of_response? {arrival : Arrival} {response : Response}
    (given : arrival.response? = some response) : pongs [arrival] = [] := by
  rw [pongs_singleton, carries, message?_of_response? given]
  rfl

end Arrival

/-- A response to the operation gives its outcome, and the operation goes on. -/
theorem reactAt_response (request : Request) {moment : Moment} {response : Response}
    (given : moment.arrival.response? = some response) :
    reactAt request .live moment =
      .giving .live (TransportFault.ofOutcome response.outcome) := by
  have goes_on : moment.arrival.ends = false := by
    cases last : moment.arrival.ends with
    | false => rfl
    | true => cases given.symm.trans (Arrival.response?_of_ends last)
  have reaction : live moment.arrival =
      .giving .live (TransportFault.ofOutcome response.outcome) := by
    rw [live_eq, Arrival.pongs_of_response? given, Arrival.item?, given, goes_on]
    rfl
  rw [reactAt, react, reaction]
  exact if_pos (Or.inl rfl)

/-- A response that fails gives an error, and the operation goes on. -/
theorem reactAt_of_fails (request : Request) {moment : Moment}
    (fails : moment.arrival.fails = true) :
    ∃ fault, reactAt request .live moment = .giving .live (.error fault) := by
  unfold Arrival.fails at fails
  cases given : moment.arrival.response? with
  | none =>
      rw [given] at fails
      cases fails
  | some response =>
      rw [given, Option.any_some] at fails
      rw [reactAt_response request given]
      cases outcome : response.outcome with
      | ok data =>
          rw [outcome] at fails
          cases fails
      | error error => exact ⟨.reported error, rfl⟩

/-- An error that a live session gives for anything but a response that fails ends its
operation: an error message, a text that is no message, a loss, or a pong that cannot be
sent. -/
theorem ended_of_error (request : Request) {moment : Moment} {fault : TransportFault}
    (fine : moment.arrival.fails = false)
    (gives : (reactAt request .live moment).item = some (.error fault)) :
    (reactAt request .live moment).stage = .ended := by
  cases given : moment.arrival.response? with
  | some response =>
      rw [Arrival.fails, given, Option.any_some] at fine
      rw [reactAt_response request given] at gives
      cases outcome : response.outcome with
      | ok data =>
          rw [outcome] at gives
          cases gives
      | error error =>
          rw [outcome] at fine
          cases fine
  | none =>
      unfold reactAt at gives ⊢
      dsimp only at gives ⊢
      split at gives
      · rename_i possible
        rw [if_pos possible]
        rw [react, live_eq] at gives ⊢
        dsimp only at gives ⊢
        refine if_pos ?_
        cases last : moment.arrival.ends with
        | true => rfl
        | false =>
            rw [Arrival.item?, given, Arrival.fault?_of_goes_on last] at gives
            cases gives
      · rename_i impossible
        rw [if_neg impossible]
        rfl

theorem item_of_not_live (request : Request) {stage : Stage} (moment : Moment)
    (idle : stage ≠ .live) : (reactAt request stage moment).item = none := by
  cases stage with
  | live => exact absurd rfl idle
  | opening =>
      unfold reactAt
      dsimp only
      split
      · rw [react]
        rcases opening_cases request moment.arrival with
          ⟨_, answered⟩ | ⟨_, _, subscribed⟩ | ⟨_, _, fault, quiet⟩
        · rw [answered]
        · rw [subscribed]
          rfl
        · rw [quiet]
          rfl
      · rfl
  | refused fault => rfl
  | ended => rfl

/-! ## Errors are last unless a response fails -/

theorem ErrorsLast.of_no_items {record : Record} (none_given : record.items = []) :
    ErrorsLast record := by
  intro before fault after split
  rw [none_given] at split
  cases (List.append_eq_nil_iff.mp split.symm).2

theorem ErrorsLast.no_error {record : Record} (last : ErrorsLast record)
    (going : record.stage ≠ .ended) (fault : TransportFault) :
    .error fault ∉ record.items := by
  intro inside
  obtain ⟨before, after, split⟩ := List.append_of_mem inside
  exact going (last before fault after split).2

theorem ErrorsLast.after {record : Record} (last : ErrorsLast record) (request : Request)
    {moment : Moment} (fine : record.stage = .live → moment.arrival.fails = false) :
    ErrorsLast (record.after (reactAt request record.stage moment)) := by
  intro before fault after split
  by_cases is_live : record.stage = .live
  · have none_yet := last.no_error (by simp [is_live])
    rw [is_live] at split ⊢
    change record.items ++ (reactAt request .live moment).item.toList = _ at split
    cases given : (reactAt request .live moment).item with
    | none =>
        rw [given, Option.toList_none, List.append_nil] at split
        exact absurd (split ▸ List.mem_append_right _ List.mem_cons_self) (none_yet fault)
    | some item =>
        rw [given, Option.toList_some] at split
        rcases List.eq_nil_or_concat after with rfl | ⟨others, final, rfl⟩
        · cases List.append_inj_right' split rfl
          exact ⟨rfl, ended_of_error request (fine is_live) given⟩
        · have whole : record.items ++ [item] = (before ++ .error fault :: others) ++ [final] := by
            simpa using split
          have earlier := List.append_inj_left' whole rfl
          exact absurd (earlier ▸ List.mem_append_right _ List.mem_cons_self) (none_yet fault)
  · have same : record.items = before ++ .error fault :: after := by
      have items := item_of_not_live request moment is_live
      simpa [Record.after, items] using split
    obtain ⟨nothing_after, ended⟩ := last before fault after same
    rw [ended]
    exact ⟨nothing_after, rfl⟩

/-- Whether errors are last at every point of a session. -/
theorem errorsLast_of_fine (request : Request) {record : Record} (last : ErrorsLast record)
    {moments : List Moment}
    (fine : ∀ before moment after, moments = before ++ moment :: after →
      (proceedThrough request record before).stage = .live → moment.arrival.fails = false) :
    ErrorsLast (proceedThrough request record moments) := by
  induction moments generalizing record with
  | nil => exact last
  | cons moment rest ih =>
      refine ih (last.after request fun is_live => fine [] moment rest rfl is_live) ?_
      intro before later after split
      exact fine (moment :: before) later after (congrArg (List.cons moment) split)

/-- Errors are last at every point of a session exactly if no response to its operation
fails. -/
theorem errorsLast_iff_of_run (payload : Option Json) (request : Request) (sendable : Bool)
    (moments : List Moment) :
    (∀ earlier, earlier <+: moments →
        ErrorsLast (runThrough payload request sendable earlier)) ↔
      ∀ before moment after, moments = before ++ moment :: after →
        (runThrough payload request sendable before).stage = .live →
          moment.arrival.fails = false := by
  constructor
  · intro last before moment after split is_live
    refine eq_false_of_ne_true fun fails => ?_
    obtain ⟨fault, reaction⟩ := reactAt_of_fails request fails
    have ended := last (before ++ [moment]) ⟨after, by simp [split]⟩
    rw [runThrough_concat, is_live, reaction] at ended
    cases (ended _ fault [] rfl).2
  · rintro fine earlier ⟨later, rfl⟩
    have opening_silent : ErrorsLast
        (Record.unopened.after (if sendable then opened payload else sendingFailed .opening)) := by
      refine ErrorsLast.of_no_items ?_
      cases sendable <;> rfl
    refine errorsLast_of_fine request opening_silent ?_
    intro before moment after split
    exact fine before moment (after ++ later) (by simp [split])

end Session

/-! ## Sessions in play -/

namespace Scripted

open Session (Arrival Moment runThrough ErrorsLast acknowledgement responseTo userSubscription)

/-- At every point of a session, an error is its last item and has ended its operation,
exactly if no response to the operation fails, whatever arrives and whatever can be sent.
Sessions that can send everything are such sessions, and so are sessions in play, which read
the frames of the server in order. -/
theorem errors_last_iff (payload : Option Json) (request : Request) :
    (∀ (sendable : Bool) (moments : List Moment),
      (∀ earlier, earlier <+: moments →
          ErrorsLast (runThrough payload request sendable earlier)) ↔
        ∀ before moment after, moments = before ++ moment :: after →
          (runThrough payload request sendable before).stage = .live →
            moment.arrival.fails = false) ∧
    (∀ arrivals : List Arrival,
      runThrough payload request true (arrivals.map fun arrival => ⟨arrival, true⟩) =
        Session.run payload request arrivals) ∧
    ∀ (script : List PeerStep) (wanted : Option Nat) (steps : Nat),
      ∃ sendable moments, moments.map Moment.arrival <+: frames script ∧
        ((Play.start payload script).proceed request wanted steps).record =
          runThrough payload request sendable moments := by
  refine ⟨Session.errorsLast_iff_of_run payload request,
    Session.runThrough_sendable payload request, ?_⟩
  intro script wanted steps
  have follows := (Play.follows_start payload request script).proceed wanted steps
  exact ⟨Peer.opens script, _, follows.peer.isPrefix, follows.record⟩

/-- A response that reports an error. -/
def failureOf (id : String) : Arrival :=
  .text ("\x7b\"type\":\"next\",\"id\":\"" ++ id ++
    "\",\"payload\":\x7b\"errors\":[\x7b\"message\":\"late\"\x7d]\x7d\x7d")

/-- After a response that reports an error a session is still live, and gives the data of
the next response. -/
theorem errors_not_last_of_failure :
    let record := Session.run none userSubscription
      [acknowledgement, failureOf "1", responseTo "1"]
    record.stage = .live ∧ record.items.map Except.isOk = [false, true] ∧
      ¬ ErrorsLast record := by
  intro record
  have is_live : record.stage = .live := by decide +kernel
  have kinds : record.items.map Except.isOk = [false, true] := by decide +kernel
  refine ⟨is_live, kinds, ?_⟩
  intro last
  obtain ⟨first, rest, items, failed, _⟩ := List.map_eq_cons_iff.mp kinds
  cases first with
  | ok data => cases failed
  | error fault =>
      exact last.no_error (by simp [is_live]) fault (items ▸ List.mem_cons_self)

end Scripted

end GraphBatch
