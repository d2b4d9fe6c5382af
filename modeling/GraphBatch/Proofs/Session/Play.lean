import GraphBatch.Proofs.Session.Moments
import GraphBatch.Scripted.Peer
import Mathlib.Data.List.Permutation

/-!
# Sessions in play

A session that is played against a server reads the frames that the server sends, from
the first one on, until it is over, its caller has enough, or nothing more comes. As long
as it can send what it has to, it does what a session does about these frames. A server
that does not hang up receives all that the session says.
-/

namespace GraphBatch.Scripted

open Session (Arrival ClientMessage Moment Reaction Unhindered reactAt runThrough userSubscription)

def PeerStep.frame? : PeerStep → Option Arrival
  | .receive => none
  | .sendText text => some (.text text)
  | .sendBinary => some .binary
  | .sendClose => some .close
  | .hangUp => some .loss

def frames (script : List PeerStep) : List Arrival := script.filterMap PeerStep.frame?

theorem frames_concat (script : List PeerStep) (step : PeerStep) :
    frames (script ++ [step]) = frames script ++ step.frame?.toList := by
  rw [frames, List.filterMap_append, frames]
  cases step <;> rfl

/-- A server that has sent some frames sends no more: it has taken all its steps, it has
hung up, or its next step waits for more messages than were said. -/
def Silent (script : List PeerStep) (sent : List Arrival) (said : Nat) : Prop :=
  ∃ done rest, script = done ++ rest ∧ frames done = sent ∧
    (rest = [] ∨ done.getLast? = some .hangUp ∨
      rest.head? = some .receive ∧ done.count .receive = said)

namespace Peer

/-- How a server stands: it has taken steps of its script, and sent the frames that were
read and those that were not. It has received what was delivered and waits for more, or it
has hung up. -/
inductive Stands (script : List PeerStep) (delivered : List Delivery) (read : List Arrival)
    (peer : Peer) : Prop where
  | there (done : List PeerStep) (taken : script = done ++ peer.script)
      (sent : frames done = read ++ peer.outbox) (here : peer.gone = false)
      (inbox : peer.inbox = []) (received : peer.received = delivered)
      (waits : peer.script = [] ∨
        peer.script.head? = some .receive ∧ done.count .receive = delivered.length)
  | gone (done rest : List PeerStep) (taken : script = done ++ rest)
      (sent : frames done = read ++ peer.outbox) (left : peer.gone = true)
      (last : done.getLast? = some .hangUp)

section Standing

variable {script : List PeerStep} {delivered : List Delivery} {read : List Arrival} {peer : Peer}

/-- A server takes its steps until it waits for a message or has hung up. -/
theorem stands_advance {done : List PeerStep} (rest : List PeerStep) (peer : Peer)
    (taken : script = done ++ rest) (sent : frames done = read ++ peer.outbox)
    (here : peer.gone = false)
    (counted : rest = [] ∨ done.count .receive = peer.received.length) :
    (advance rest peer).Stands script (peer.received ++ peer.inbox) read := by
  induction rest generalizing peer done with
  | nil =>
      rw [advance, if_neg (by simp [here])]
      exact .there done taken sent here rfl rfl (Or.inl rfl)
  | cons step rest ih =>
      have split : script = done ++ [step] ++ rest := by rw [taken, List.append_cons]
      have count := counted.resolve_left (List.cons_ne_nil _ _)
      have sending (arrival : Arrival) (frame : step.frame? = some arrival)
          (sends : step ≠ .receive) :
          (advance rest (peer.sending arrival)).Stands script
            (peer.received ++ peer.inbox) read := by
        refine ih (peer.sending arrival) split ?_ here (Or.inr ?_)
        · rw [frames_concat, sent, frame, Peer.sending, List.append_assoc]
          rfl
        · rw [List.count_append, count, List.count_singleton, if_neg (by simpa using sends)]
          rfl
      cases step with
      | receive =>
          cases waiting : peer.inbox with
          | nil =>
              simp only [advance, waiting]
              refine .there done taken sent here rfl (List.append_nil _).symm ?_
              exact Or.inr ⟨rfl, by rw [count, List.append_nil]⟩
          | cons first inbox =>
              simp only [advance, waiting]
              have next := ih { peer with inbox := inbox, received := peer.received ++ [first] }
                split ?_ here (Or.inr ?_)
              · rwa [List.append_assoc] at next
              · rw [frames_concat, sent]
                exact List.append_nil _
              · simp [count]
      | sendText text => exact sending _ rfl (by simp)
      | sendBinary => exact sending _ rfl (by simp)
      | sendClose => exact sending _ rfl (by simp)
      | hangUp =>
          refine .gone (done ++ [.hangUp]) rest split ?_ rfl List.getLast?_concat
          rw [frames_concat, sent, List.append_assoc]
          rfl

theorem stands_ofScript (script : List PeerStep) :
    ((ofScript script).deliver []).Stands script [] [] :=
  stands_advance script (ofScript script) (List.nil_append script).symm rfl rfl (Or.inr rfl)

namespace Stands

/-- A server that has not hung up receives what it is delivered. -/
theorem deliver (stands : peer.Stands script delivered read) (deliveries : List Delivery) :
    (peer.deliver deliveries).Stands script (delivered ++ deliveries) read := by
  cases stands with
  | there done taken sent here inbox received waits =>
      have next := stands_advance peer.script { peer with inbox := peer.inbox ++ deliveries }
        taken sent here (waits.imp_right fun waiting => by rw [waiting.2, received])
      have all : delivered ++ deliveries = peer.received ++ (peer.inbox ++ deliveries) := by
        rw [received, inbox, List.nil_append]
      rw [Peer.deliver, if_neg (by simp [here]), all]
      exact next
  | gone done rest taken sent left last =>
      rw [Peer.deliver, if_pos left]
      exact .gone done rest taken sent left last

theorem afterReading (stands : peer.Stands script delivered read) {arrival : Arrival}
    {rest : List Arrival} (waiting : peer.outbox = arrival :: rest) :
    peer.afterReading.Stands script delivered (read ++ [arrival]) := by
  have moved : read ++ peer.outbox = read ++ [arrival] ++ peer.afterReading.outbox := by
    rw [Peer.afterReading, waiting, List.append_cons]
    rfl
  cases stands with
  | there done taken sent here inbox received waits =>
      exact .there done taken (sent.trans moved) here inbox received waits
  | gone done rest taken sent left last =>
      exact .gone done rest taken (sent.trans moved) left last

/-- What was read are frames of the script. -/
theorem isPrefix (stands : peer.Stands script delivered read) : read <+: frames script := by
  have begins : ∀ {done rest : List PeerStep}, script = done ++ rest →
      frames done = read ++ peer.outbox → read <+: frames script := by
    intro done rest taken sent
    rw [taken, frames, List.filterMap_append, ← frames, sent, List.append_assoc]
    exact List.prefix_append _ _
  cases stands with
  | there done taken sent => exact begins taken sent
  | gone done rest taken sent => exact begins taken sent

theorem silent (stands : peer.Stands script delivered read) (nothing : peer.outbox = []) :
    Silent script read delivered.length := by
  cases stands with
  | there done taken sent here inbox received waits =>
      rw [nothing, List.append_nil] at sent
      exact ⟨done, peer.script, taken, sent, waits.imp_right Or.inr⟩
  | gone done rest taken sent left last =>
      rw [nothing, List.append_nil] at sent
      exact ⟨done, rest, taken, sent, Or.inr (Or.inl last)⟩

/-- A server whose script does not hang up is there and has received everything. -/
theorem of_staying (stands : peer.Stands script delivered read) (stays : .hangUp ∉ script) :
    peer.gone = false ∧ peer.received = delivered := by
  cases stands with
  | there done taken sent here inbox received waits => exact ⟨here, received⟩
  | gone done rest taken sent left last =>
      refine absurd ?_ stays
      rw [taken]
      exact List.mem_append_left _ (List.mem_of_getLast? last)

end Stands

end Standing

/-- Whether a server is there when a session is opened. -/
def opens (script : List PeerStep) : Bool := !((ofScript script).deliver []).gone

end Peer

namespace Play

/-- What a session in play reads, frame by frame, and whether the server is still there. -/
def moments (request : Request) (wanted : Option Nat) : Nat → Play → List Moment
  | 0, _ => []
  | steps + 1, play =>
      match play.peer.outbox with
      | [] => []
      | arrival :: _ =>
          if readsOn wanted play.record then
            ⟨arrival, !play.peer.gone⟩ :: moments request wanted steps (play.read request arrival)
          else []

section Reading

variable {payload : Option Json} {request : Request} {script : List PeerStep} {play : Play}
  {read : List Moment} {wanted : Option Nat} {arrival : Arrival}
  {rest : List Arrival}

theorem proceed_of_read (steps : Nat) (waiting : play.peer.outbox = arrival :: rest)
    (reads : readsOn wanted play.record = true) :
    play.proceed request wanted (steps + 1) =
        (play.read request arrival).proceed request wanted steps ∧
      play.moments request wanted (steps + 1) =
        ⟨arrival, !play.peer.gone⟩ :: (play.read request arrival).moments request wanted steps := by
  rw [proceed, moments, waiting]
  exact ⟨if_pos reads, if_pos reads⟩

theorem proceed_of_stop (steps : Nat)
    (stops : play.peer.outbox = [] ∨ readsOn wanted play.record = false) :
    play.proceed request wanted steps = play ∧ play.moments request wanted steps = [] := by
  cases steps with
  | zero => exact ⟨rfl, rfl⟩
  | succ steps =>
      rw [proceed, moments]
      cases waiting : play.peer.outbox with
      | nil => exact ⟨rfl, rfl⟩
      | cons arrival rest =>
          have stopped := stops.resolve_left (by simp [waiting])
          exact ⟨if_neg (by simp [stopped]), if_neg (by simp [stopped])⟩

variable (play wanted) in
theorem reads_or_stops :
    (∃ arrival rest, play.peer.outbox = arrival :: rest ∧ readsOn wanted play.record = true) ∨
      (play.peer.outbox = [] ∨ readsOn wanted play.record = false) := by
  cases waiting : play.peer.outbox with
  | nil => exact Or.inr (Or.inl rfl)
  | cons arrival rest =>
      cases reads : readsOn wanted play.record with
      | true => exact Or.inl ⟨arrival, rest, rfl, rfl⟩
      | false => exact Or.inr (Or.inr rfl)

/-- A play follows a session: what the session has done is what it does at the moments that
it has been through, and the server stands where these frames were read and all that was
said was delivered. -/
structure Follows (payload : Option Json) (request : Request) (script : List PeerStep)
    (play : Play) (read : List Moment) : Prop where
  record : play.record = runThrough payload request (Peer.opens script) read
  peer : play.peer.Stands script (play.record.sent.map delivery) (read.map Moment.arrival)

theorem follows_start (payload : Option Json) (request : Request) (script : List PeerStep) :
    (start payload script).Follows payload request script [] := by
  have opening := Peer.stands_ofScript script
  rw [start, carryOut, ofScript]
  cases left : ((Peer.ofScript script).deliver []).gone with
  | false =>
      refine ⟨?_, opening.deliver _⟩
      rw [runThrough, Peer.opens, left]
      rfl
  | true =>
      refine ⟨?_, opening.deliver _⟩
      rw [runThrough, Peer.opens, left]
      rfl

/-- Reading a frame keeps following the session. -/
theorem Follows.read_next (follows : play.Follows payload request script read)
    (waiting : play.peer.outbox = arrival :: rest) :
    (play.read request arrival).Follows payload request script
      (read ++ [⟨arrival, !play.peer.gone⟩]) := by
  have reaction : play.read request arrival =
      ⟨play.record.after (reactAt request play.record.stage ⟨arrival, !play.peer.gone⟩),
        play.peer.afterReading.deliver
          ((reactAt request play.record.stage ⟨arrival, !play.peer.gone⟩).sent.map delivery)⟩ := by
    rw [Play.read, carryOut, reactAt]
    simp [Peer.afterReading]
  have ahead := (follows.peer.afterReading waiting).deliver
    ((reactAt request play.record.stage ⟨arrival, !play.peer.gone⟩).sent.map delivery)
  rw [← List.map_append] at ahead
  rw [reaction]
  refine ⟨?_, ?_⟩
  · rw [Session.runThrough_concat, ← follows.record]
  · rw [List.map_append]
    exact ahead

theorem Follows.proceed (follows : play.Follows payload request script read)
    (wanted : Option Nat) (steps : Nat) :
    (play.proceed request wanted steps).Follows payload request script
      (read ++ play.moments request wanted steps) := by
  induction steps generalizing play read with
  | zero =>
      rw [moments, List.append_nil]
      exact follows
  | succ steps ih =>
      rcases reads_or_stops play wanted with ⟨arrival, rest, waiting, reads⟩ | stops
      · obtain ⟨reached, passed⟩ := proceed_of_read steps waiting reads
        rw [reached, passed, List.append_cons]
        exact ih (follows.read_next waiting)
      · obtain ⟨reached, passed⟩ := proceed_of_stop (steps + 1) stops
        rw [reached, passed, List.append_nil]
        exact follows

theorem Follows.reads_on (follows : play.Follows payload request script read) {steps : Nat}
    {before after : List Moment} {moment : Moment}
    (split : play.moments request wanted steps = before ++ moment :: after) :
    readsOn wanted (runThrough payload request (Peer.opens script) (read ++ before)) = true := by
  induction steps generalizing play read before with
  | zero => simp [moments] at split
  | succ steps ih =>
      rcases reads_or_stops play wanted with ⟨arrival, rest, waiting, reads⟩ | stops
      · rw [(proceed_of_read steps waiting reads).2] at split
        cases before with
        | nil =>
            rw [List.append_nil, ← follows.record]
            exact reads
        | cons first before =>
            obtain ⟨rfl, later⟩ := List.cons.inj split
            have next := ih (follows.read_next waiting) later
            rwa [List.append_assoc] at next
      · rw [(proceed_of_stop (steps + 1) stops).2] at split
        simp at split

/-- With a step for every step of the server, a session goes on until nothing comes or it
reads no more. -/
theorem Follows.exhausts (follows : play.Follows payload request script read)
    (wanted : Option Nat) {steps : Nat} (enough : script.length < read.length + steps) :
    (play.proceed request wanted steps).peer.outbox = [] ∨
      readsOn wanted (play.proceed request wanted steps).record = false := by
  induction steps generalizing play read with
  | zero =>
      have sent := follows.peer.isPrefix.length_le
      have taken : (frames script).length ≤ script.length := List.length_filterMap_le _ _
      rw [List.length_map] at sent
      omega
  | succ steps ih =>
      rcases reads_or_stops play wanted with ⟨arrival, rest, waiting, reads⟩ | stops
      · rw [(proceed_of_read steps waiting reads).1]
        refine ih (follows.read_next waiting) ?_
        rw [List.length_append, List.length_singleton]
        omega
      · rw [(proceed_of_stop (steps + 1) stops).1]
        exact stops

/-- Everything can be sent to a server that does not hang up. -/
theorem Follows.sendable (follows : play.Follows payload request script read)
    (stays : .hangUp ∉ script) (steps : Nat) :
    ∀ moment ∈ play.moments request wanted steps, moment.sendable = true := by
  induction steps generalizing play read with
  | zero => exact List.forall_mem_nil _
  | succ steps ih =>
      rcases reads_or_stops play wanted with ⟨arrival, rest, waiting, reads⟩ | stops
      · rw [(proceed_of_read steps waiting reads).2, List.forall_mem_cons]
        refine ⟨?_, ih (follows.read_next waiting)⟩
        rw [(follows.peer.of_staying stays).1]
        rfl
      · rw [(proceed_of_stop (steps + 1) stops).2]
        exact List.forall_mem_nil _

/-- A server that does not hang up has received what was said before a session is dropped,
and receives what is said for that. -/
theorem Follows.received_drop (follows : play.Follows payload request script read)
    (stays : .hangUp ∉ script) (canSend : Bool) :
    (play.drop canSend).peer.received =
      (play.record.sent ++ Session.dropped canSend play.record.stage).map delivery ++
        if canSend ∧ play.record.stage = .live then [.closeFrame] else [] := by
  have received := ((follows.peer.deliver
    ((Session.dropped canSend play.record.stage).map delivery ++
      if canSend ∧ play.record.stage = .live then [.closeFrame] else [])).of_staying stays).2
  rw [← List.append_assoc, ← List.map_append] at received
  rw [← received, drop]
  cases canSend <;> cases play.record.stage <;> rfl

end Reading

end Play

/-- A server that pings before it acknowledges the session, answers the operation, and
pings again. -/
def pingingScript : List PeerStep := [
  .receive, .sendText "\x7b\"type\":\"ping\"\x7d",
  .sendText "\x7b\"type\":\"connection_ack\"\x7d",
  .sendText "\x7b\"type\":\"next\",\"id\":\"1\",\"payload\":\x7b\"data\":1\x7d\x7d",
  .sendText "\x7b\"type\":\"ping\"\x7d"]

end GraphBatch.Scripted
