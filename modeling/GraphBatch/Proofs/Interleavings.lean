import GraphBatch.Proofs.Forwarding
import GraphBatch.Proofs.ResponseNames

/-!
# Interleavings

A session sends, a subscription takes, checks and delivers, and its caller cancels, in any
order. Cancelling stops the task that forwards only where the task waits for a message, so a
message may still be taken after it; but no message passes the check any more. A delivery
starts when its message passes the check: at most one that has started before is completed
after the subscription was cancelled, and none starts.
-/

namespace GraphBatch.Subscription

/-- A step in an interleaving. -/
inductive Move where
  | step (step : Step)
  /-- A message is taken by a task that has not noticed that it was cancelled. -/
  | grasp
deriving Repr

/-- A message is taken, cancelled or not. -/
def grasp (subscription : Subscription) : Subscription :=
  match subscription.forwarding, subscription.buffered with
  | .waiting, message :: rest =>
      { subscription with forwarding := .taken message, buffered := rest }
  | _, _ => subscription

def move (subscription : Subscription) : Move → Subscription
  | .step step => subscription.step step
  | .grasp => subscription.grasp

def moves (subscription : Subscription) (moves : List Move) : Subscription :=
  moves.foldl move subscription

def Move.cancels : Move → Bool
  | .step .cancel => true
  | _ => false

theorem Move.cancels_iff (move : Move) : move.cancels = true ↔ move = .step .cancel := by
  unfold Move.cancels
  split
  · exact ⟨fun _ => rfl, fun _ => rfl⟩
  · rename_i other
    exact ⟨nofun, fun same => absurd same other⟩

/-- Whether a step ends the session. -/
def Move.exhausts : Move → Bool
  | .step .exhaust => true
  | _ => false

def Move.sent : Move → List (Outcome Json)
  | .step (.send message) => [message]
  | _ => []

/-- The messages that a session sends in an interleaving, until it sends nothing any
more. -/
def sentIn : List Move → List (Outcome Json)
  | [] => []
  | first :: rest => if first.exhausts then [] else first.sent ++ sentIn rest

/-- A message passes the check at a step of an interleaving. -/
def PassesIn (subscription : Subscription) (moves : List Move) (message : Outcome Json) : Prop :=
  ∃ first move second, moves = first ++ move :: second ∧
    (subscription.moves first).forwarding = .taken message ∧
    ((subscription.moves first).move move).forwarding = .wanted message

/-! ## What single steps change -/

variable {subscription : Subscription}

theorem moves_append (subscription : Subscription) (first second : List Move) :
    subscription.moves (first ++ second) = (subscription.moves first).moves second :=
  List.foldl_append

/-- What a step of an interleaving does to forwarding. -/
inductive Advances (before after : Subscription) : Prop where
  | rests (forwarding : after.forwarding = before.forwarding)
      (delivered : after.delivered = before.delivered)
  | takes {message : Outcome Json} (waiting : before.forwarding = .waiting)
      (taken : after.forwarding = .taken message)
      (delivered : after.delivered = before.delivered)
  | stops (idle : ∀ message, before.forwarding ≠ .wanted message)
      (finished : after.forwarding = .finished)
      (delivered : after.delivered = before.delivered)
  | passes {message : Outcome Json} (taken : before.forwarding = .taken message)
      (not_cancelled : before.cancelled = false) (wanted : after.forwarding = .wanted message)
      (delivered : after.delivered = before.delivered)
  | delivers {message : Outcome Json} (wanted : before.forwarding = .wanted message)
      (done : ∀ message, after.forwarding ≠ .wanted message)
      (delivered : after.delivered = before.delivered ++ [before.reshaped message])

theorem advances_take (subscription : Subscription) :
    Advances subscription subscription.take := by
  unfold take
  split
  · rename_i waiting
    split
    · exact .stops (by simp [waiting]) rfl rfl
    · split
      · exact .takes waiting rfl rfl
      · split
        · exact .stops (by simp [waiting]) rfl rfl
        · exact .rests rfl rfl
  · exact .rests rfl rfl

theorem advances_check (subscription : Subscription) :
    Advances subscription subscription.check := by
  unfold check
  split
  · rename_i message taken
    cases flag : subscription.cancelled with
    | true => exact .stops (by simp [taken]) rfl rfl
    | false => exact .passes taken flag rfl rfl
  · exact .rests rfl rfl

theorem advances_deliver (subscription : Subscription) :
    Advances subscription subscription.deliver := by
  unfold deliver
  split
  · rename_i message wanted
    refine .delivers wanted ?_ rfl
    cases message with
    | ok data => simp [Except.isOk, Except.toBool]
    | error error => simp [Except.isOk, Except.toBool]
  · exact .rests rfl rfl

theorem advances_move (subscription : Subscription) (move : Move) :
    Advances subscription (subscription.move move) := by
  cases move with
  | grasp =>
      unfold Subscription.move grasp
      dsimp only
      split
      · rename_i waiting _
        exact .takes waiting rfl rfl
      · exact .rests rfl rfl
  | step step =>
      cases step with
      | send message =>
          unfold Subscription.move Subscription.step send
          dsimp only
          split
          · exact .rests rfl rfl
          · exact .rests rfl rfl
      | exhaust => exact .rests rfl rfl
      | cancel => exact .rests rfl rfl
      | take => exact advances_take subscription
      | check => exact advances_check subscription
      | deliver => exact advances_deliver subscription

theorem isFinished_move (finished : subscription.isFinished = true) (move : Move) :
    (subscription.move move).isFinished = true := by
  have still : subscription.forwarding = .finished := by
    unfold isFinished at finished
    split at finished
    · assumption
    · cases finished
  cases subscription.advances_move move with
  | rests forwarding _ => rw [isFinished, forwarding, still]
  | takes waiting _ _ => cases still.symm.trans waiting
  | stops _ finished _ => rw [isFinished, finished]
  | passes taken _ _ _ => cases still.symm.trans taken
  | delivers wanted _ _ => cases still.symm.trans wanted

/-- What a step leaves as it is besides forwarding. -/
theorem move_frame (subscription : Subscription) (move : Move) :
    (subscription.move move).flattenKey = subscription.flattenKey ∧
      (subscription.move move).cancelled = (subscription.cancelled || move.cancels) ∧
      (subscription.move move).exhausted = (subscription.exhausted || move.exhausts) := by
  have same : subscription.flattenKey = subscription.flattenKey ∧
      subscription.cancelled = (subscription.cancelled || false) ∧
      subscription.exhausted = (subscription.exhausted || false) :=
    ⟨rfl, (Bool.or_false _).symm, (Bool.or_false _).symm⟩
  cases move with
  | grasp =>
      unfold Subscription.move grasp
      dsimp only
      split <;> exact same
  | step step =>
      cases step with
      | send message =>
          unfold Subscription.move Subscription.step send
          dsimp only
          split <;> exact same
      | exhaust => exact ⟨rfl, same.2.1, (Bool.or_true _).symm⟩
      | cancel => exact ⟨rfl, (Bool.or_true _).symm, same.2.2⟩
      | take =>
          unfold Subscription.move Subscription.step take
          dsimp only
          repeat' split
          all_goals exact same
      | check =>
          unfold Subscription.move Subscription.step check
          dsimp only
          split <;> exact same
      | deliver =>
          unfold Subscription.move Subscription.step deliver
          dsimp only
          split <;> exact same

theorem reshaped_moves (subscription : Subscription) (moves : List Move) :
    (subscription.moves moves).reshaped = subscription.reshaped := by
  induction moves generalizing subscription with
  | nil => rfl
  | cons first rest ih => exact (ih _).trans (reshaped_congr (subscription.move_frame first).1)

theorem cancelled_moves (subscription : Subscription) (moves : List Move) :
    (subscription.moves moves).cancelled =
      (subscription.cancelled || moves.any Move.cancels) := by
  induction moves generalizing subscription with
  | nil => exact (Bool.or_false _).symm
  | cons first rest ih =>
      rw [List.any_cons, ← Bool.or_assoc, ← (subscription.move_frame first).2.1]
      exact ih _

/-! ## The account of an interleaving -/

section Account

variable {messages accepted done : List (Outcome Json)}

theorem Accounted.grasp (account : Accounted messages subscription done) :
    Accounted messages subscription.grasp done := by
  unfold Subscription.grasp
  split
  · rename_i message rest waiting buffered
    have live : subscription.isFinished = false := by rw [isFinished, waiting]
    have moved : message :: rest = subscription.pending := by
      rw [pending, waiting, buffered]
      rfl
    exact account.move rfl rfl (fun _ => ⟨live, moved⟩) (fun finished => by cases finished)
      fun wanted => ⟨wanted, moved⟩
  · exact account

def acceptedAt (subscription : Subscription) : Move → List (Outcome Json)
  | .step step => subscription.accepted step
  | .grasp => []

theorem Accounted.at_move (account : Accounted messages subscription done) (move : Move) :
    ∃ next, done <+: next ∧
      Accounted (messages ++ subscription.acceptedAt move) (subscription.move move) next := by
  cases move with
  | step step => exact account.step step
  | grasp => exact ⟨done, List.prefix_rfl, account.grasp.silent⟩

/-- The messages that a session sends in an interleaving, unless it sends nothing any
more. -/
def stillSent (subscription : Subscription) (moves : List Move) : List (Outcome Json) :=
  if subscription.exhausted then [] else sentIn moves

theorem stillSent_cons (subscription : Subscription) (first : Move) (rest : List Move) :
    subscription.stillSent (first :: rest) =
      subscription.stillSent [first] ++ (subscription.move first).stillSent rest := by
  unfold stillSent
  rw [(subscription.move_frame first).2.2]
  cases subscription.exhausted with
  | true => rfl
  | false =>
      cases ends : first.exhausts with
      | true => simp [sentIn, ends]
      | false => simp [sentIn, ends]

/-- A step sends what the subscription accepts, unless the subscription has finished. -/
theorem stillSent_singleton (open_still : subscription.isFinished = false) (move : Move) :
    subscription.stillSent [move] = subscription.acceptedAt move := by
  unfold stillSent
  cases move with
  | grasp => cases subscription.exhausted <;> rfl
  | step step =>
      cases step with
      | send message =>
          rw [acceptedAt, accepted, accepts, open_still]
          cases subscription.exhausted <;> rfl
      | exhaust => cases subscription.exhausted <;> rfl
      | cancel => cases subscription.exhausted <;> rfl
      | take => cases subscription.exhausted <;> rfl
      | check => cases subscription.exhausted <;> rfl
      | deliver => cases subscription.exhausted <;> rfl

theorem acceptedAt_of_finished (finished : subscription.isFinished = true) (move : Move) :
    subscription.acceptedAt move = [] := by
  cases move with
  | grasp => rfl
  | step step =>
      cases step with
      | send message => simp [acceptedAt, accepted, accepts, finished]
      | exhaust => rfl
      | cancel => rfl
      | take => rfl
      | check => rfl
      | deliver => rfl

/-- A subscription finished early: it was cancelled, or a message failed. -/
def FinishedEarly (subscription : Subscription) (done : List (Outcome Json)) : Prop :=
  subscription.isFinished = true ∧
    (subscription.cancelled = true ∨ ∃ message ∈ done, message.isOk = false)

/-- The messages that a session sent are accounted for: those that the subscription did
not accept were sent after it had finished early. -/
structure Told (messages accepted : List (Outcome Json)) (subscription : Subscription)
    (done : List (Outcome Json)) : Prop where
  account : Accounted accepted subscription done
  sent : accepted = messages ∨ accepted <+: messages ∧ subscription.FinishedEarly done

theorem Told.start (flattenKey : Option String) : Told [] [] (start flattenKey) [] :=
  ⟨Accounted.start flattenKey, Or.inl rfl⟩

theorem Told.beginning (told : Told messages accepted subscription done) :
    accepted <+: messages := by
  rcases told.sent with rfl | ⟨beginning, _⟩
  · exact List.prefix_rfl
  · exact beginning

theorem FinishedEarly.at_move {next : List (Outcome Json)}
    (early : subscription.FinishedEarly done) (more : done <+: next) (move : Move) :
    (subscription.move move).FinishedEarly next := by
  refine ⟨isFinished_move early.1 move, ?_⟩
  rcases early.2 with cancelled | ⟨message, inside, failed⟩
  · exact Or.inl (by simp [(subscription.move_frame move).2.1, cancelled])
  · exact Or.inr ⟨message, more.subset inside, failed⟩

theorem Told.at_move (told : Told messages accepted subscription done) (move : Move) :
    ∃ accepted next, Told (messages ++ subscription.stillSent [move]) accepted
      (subscription.move move) next := by
  obtain ⟨next, more, account⟩ := told.account.at_move move
  refine ⟨_, next, account, ?_⟩
  cases finished : subscription.isFinished with
  | false =>
      have same : accepted = messages :=
        told.sent.resolve_right fun early => by cases finished.symm.trans early.2.1
      rw [stillSent_singleton finished, same]
      exact Or.inl rfl
  | true =>
      rw [acceptedAt_of_finished finished, List.append_nil]
      cases exhausted : subscription.exhausted with
      | true =>
          rw [stillSent, if_pos exhausted, List.append_nil]
          exact told.sent.imp_right fun sent => ⟨sent.1, sent.2.at_move more move⟩
      | false =>
          have early : subscription.FinishedEarly done := by
            refine ⟨finished, ?_⟩
            rcases told.account.ended finished with cancelled | failed | ⟨spent, _⟩
            · exact Or.inl cancelled
            · exact Or.inr failed
            · cases exhausted.symm.trans spent
          exact Or.inr ⟨told.beginning.trans (List.prefix_append _ _), early.at_move more move⟩

/-- What a session sent stays accounted for, in whatever order the steps come. -/
theorem Told.moves (told : Told messages accepted subscription done) (moves : List Move) :
    ∃ accepted done, Told (messages ++ subscription.stillSent moves) accepted
      (subscription.moves moves) done := by
  induction moves generalizing messages accepted subscription done with
  | nil =>
      refine ⟨accepted, done, ?_⟩
      have silent : subscription.stillSent [] = [] := ite_self []
      rw [silent, List.append_nil]
      exact told
  | cons first rest ih =>
      obtain ⟨_, _, next⟩ := told.at_move first
      rw [stillSent_cons, ← List.append_assoc]
      exact ih next

namespace Told

theorem orderly (told : Told messages accepted subscription done) :
    done <+: untilFailure messages := by
  obtain ⟨later, rfl⟩ := told.beginning
  exact told.account.orderly.trans (untilFailure_isPrefix_append accepted later)

theorem alive (told : Told messages accepted subscription done)
    (live : subscription.isFinished = false) : messages = done ++ subscription.pending := by
  have same : accepted = messages :=
    told.sent.resolve_right fun early => by cases live.symm.trans early.2.1
  rw [← same]
  exact told.account.alive live

/-- A subscription that was not cancelled and has finished has delivered everything up to
the first failure. -/
theorem settled (told : Told messages accepted subscription done)
    (not_cancelled : subscription.cancelled = false) (finished : subscription.isFinished = true) :
    done = untilFailure messages := by
  by_cases failed : ∃ message ∈ done, message.isOk = false
  · exact eq_untilFailure told.orderly failed
  · have all_fine : ∀ message ∈ done, message.isOk = true := by
      intro message inside
      exact eq_true_of_ne_false fun bad => failed ⟨message, inside, bad⟩
    have same : accepted = messages := by
      refine told.sent.resolve_right ?_
      rintro ⟨_, _, cancelled | bad⟩
      · cases not_cancelled.symm.trans cancelled
      · exact failed bad
    have nothing_left : subscription.pending = [] := by
      rcases told.account.ended finished with cancelled | bad | ⟨_, spent⟩
      · cases not_cancelled.symm.trans cancelled
      · exact absurd bad failed
      · exact spent
    have all_done : messages = done := by
      rw [← same, told.account.complete not_cancelled all_fine, nothing_left, List.append_nil]
    rw [all_done]
    simpa [untilFailure] using (untilFailure_append all_fine []).symm

end Told

end Account

/-! ## Forwarding to the end -/

/-- The message that is pending first is delivered next. -/
theorem forward_of_pending {message : Outcome Json} {rest : List (Outcome Json)}
    (not_cancelled : subscription.cancelled = false) (live : subscription.isFinished = false)
    (ahead : subscription.pending = message :: rest) :
    subscription.forward id = { subscription with
      forwarding := if message.isOk then .waiting else .finished
      buffered := rest
      delivered := subscription.delivered ++ [subscription.reshaped message] } := by
  obtain ⟨key, forwarding, buffered, exhausted, cancelled, delivered⟩ := subscription
  cases not_cancelled
  cases forwarding with
  | waiting =>
      cases ahead
      rfl
  | taken one =>
      cases ahead
      rfl
  | wanted one =>
      cases ahead
      rfl
  | finished => cases live

/-- A subscription has nothing to deliver. -/
def Idle (subscription : Subscription) : Prop :=
  subscription.isFinished = true ∨ subscription.pending = []

theorem Idle.forward (idle : subscription.Idle) :
    (subscription.forward id).Idle ∧
      (subscription.forward id).delivered = subscription.delivered := by
  obtain ⟨key, forwarding, buffered, exhausted, cancelled, delivered⟩ := subscription
  cases forwarding with
  | waiting =>
      rcases idle with finished | nothing
      · cases finished
      · cases nothing
        cases cancelled with
        | true => exact ⟨Or.inl rfl, rfl⟩
        | false =>
            cases exhausted with
            | true => exact ⟨Or.inl rfl, rfl⟩
            | false => exact ⟨Or.inr rfl, rfl⟩
  | taken message => rcases idle with finished | nothing <;> contradiction
  | wanted message => rcases idle with finished | nothing <;> contradiction
  | finished => exact ⟨Or.inl rfl, rfl⟩

theorem Idle.forwardMany (idle : subscription.Idle) (rounds : Nat) :
    (subscription.forwardMany id rounds).delivered = subscription.delivered := by
  induction rounds generalizing subscription with
  | zero => rfl
  | succ rounds ih => exact (ih idle.forward.1).trans idle.forward.2

theorem delivered_forwardMany (not_cancelled : subscription.cancelled = false)
    (live : subscription.isFinished = false) {rounds : Nat}
    (enough : subscription.pending.length ≤ rounds) :
    (subscription.forwardMany id rounds).delivered =
      subscription.delivered ++ (untilFailure subscription.pending).map subscription.reshaped := by
  induction rounds generalizing subscription with
  | zero =>
      have nothing : subscription.pending = [] :=
        List.length_eq_zero_iff.mp (Nat.le_zero.mp enough)
      rw [nothing]
      exact (List.append_nil _).symm
  | succ rounds ih =>
      cases ahead : subscription.pending with
      | nil =>
          have idle : subscription.Idle := Or.inr ahead
          rw [idle.forwardMany]
          exact (List.append_nil _).symm
      | cons message rest =>
          rw [Subscription.forwardMany, forward_of_pending not_cancelled live ahead]
          rw [ahead, List.length_cons] at enough
          cases message with
          | ok data =>
              have later := @ih
                { subscription with
                  forwarding := .waiting
                  buffered := rest
                  delivered := subscription.delivered ++ [subscription.reshaped (.ok data)] }
                not_cancelled rfl (Nat.le_of_succ_le_succ enough)
              exact later.trans (List.append_assoc _ _ _)
          | error error => exact Idle.forwardMany (Or.inl rfl) rounds

/-! ## After cancelling -/

theorem cancel_of_cancelled (cancelled : subscription.cancelled = true) :
    subscription.cancel = subscription := by
  obtain ⟨key, forwarding, buffered, exhausted, flag, delivered⟩ := subscription
  cases cancelled
  rfl

theorem passesIn_of_wanted {moves : List Move} {message : Outcome Json}
    (wanted : (subscription.moves moves).forwarding = .wanted message) :
    subscription.forwarding = .wanted message ∨ subscription.PassesIn moves message := by
  induction moves generalizing subscription with
  | nil => exact Or.inl wanted
  | cons first rest ih =>
      rcases ih wanted with here | ⟨before, move, after, rfl, taken, passed⟩
      · cases subscription.advances_move first with
        | rests forwarding _ => exact Or.inl (forwarding.symm.trans here)
        | takes _ taken _ => cases here.symm.trans taken
        | stops _ finished _ => cases here.symm.trans finished
        | passes taken _ wanted _ =>
            cases here.symm.trans wanted
            exact Or.inr ⟨[], first, rest, rfl, taken, here⟩
        | delivers _ done _ => exact absurd here (done message)
      · exact Or.inr ⟨first :: before, move, after, rfl, taken, passed⟩

/-- What a cancelled subscription has come to: it has delivered at most the one message that
was wanted, and no other is. -/
def Winds (cancelled later : Subscription) : Prop :=
  (later.delivered = cancelled.delivered ∧ ∀ message,
      later.forwarding = .wanted message → cancelled.forwarding = .wanted message) ∨
    ∃ message, cancelled.forwarding = .wanted message ∧
      later.delivered = cancelled.delivered ++ [cancelled.reshaped message] ∧
      ∀ message, later.forwarding ≠ .wanted message

theorem wanted_of_wanted_move (cancelled : subscription.cancelled = true) {move : Move}
    {message : Outcome Json} (wanted : (subscription.move move).forwarding = .wanted message) :
    subscription.forwarding = .wanted message := by
  cases subscription.advances_move move with
  | rests forwarding _ => exact forwarding.symm.trans wanted
  | takes _ taken _ => cases wanted.symm.trans taken
  | stops _ finished _ => cases wanted.symm.trans finished
  | passes _ not_cancelled _ _ => cases cancelled.symm.trans not_cancelled
  | delivers _ done _ => exact absurd wanted (done message)

theorem delivered_move (subscription : Subscription) (move : Move) :
    (subscription.move move).delivered = subscription.delivered ∨
      ∃ message, subscription.forwarding = .wanted message ∧
        (subscription.move move).delivered =
          subscription.delivered ++ [subscription.reshaped message] ∧
        ∀ message, (subscription.move move).forwarding ≠ .wanted message := by
  cases subscription.advances_move move with
  | rests _ delivered => exact Or.inl delivered
  | takes _ _ delivered => exact Or.inl delivered
  | stops _ _ delivered => exact Or.inl delivered
  | passes _ _ _ delivered => exact Or.inl delivered
  | delivers wanted done delivered => exact Or.inr ⟨_, wanted, delivered, done⟩

theorem Winds.move {first later : Subscription} (winds : Winds first later)
    (cancelled : later.cancelled = true) (same : later.reshaped = first.reshaped)
    (move : Move) : Winds first (later.move move) := by
  rcases winds with ⟨delivered, wanted⟩ | ⟨message, wanted, delivered, none_wanted⟩
  · rcases later.delivered_move move with quiet | ⟨message, here, more, none_wanted⟩
    · refine Or.inl ⟨quiet.trans delivered, ?_⟩
      intro message after
      exact wanted message (wanted_of_wanted_move cancelled after)
    · refine Or.inr ⟨message, wanted message here, ?_, none_wanted⟩
      rw [more, delivered, same]
  · rcases later.delivered_move move with quiet | ⟨other, here, _⟩
    · refine Or.inr ⟨message, wanted, quiet.trans delivered, ?_⟩
      intro other after
      exact none_wanted other (wanted_of_wanted_move cancelled after)
    · exact absurd here (none_wanted other)

theorem winds_moves (cancelled : subscription.cancelled = true) (moves : List Move) :
    Winds subscription (subscription.moves moves) := by
  have run {later : Subscription} (winds : Winds subscription later)
      (still : later.cancelled = true) (same : later.reshaped = subscription.reshaped) :
      Winds subscription (later.moves moves) := by
    induction moves generalizing later with
    | nil => exact winds
    | cons first rest ih =>
        refine ih (winds.move still same first) ?_ ?_
        · rw [(later.move_frame first).2.1, still, Bool.true_or]
        · rw [reshaped_congr (later.move_frame first).1, same]
  exact run (Or.inl ⟨rfl, fun _ wanted => wanted⟩) cancelled rfl

theorem not_passesIn_of_cancelled (cancelled : subscription.cancelled = true)
    (moves : List Move) (message : Outcome Json) : ¬ subscription.PassesIn moves message := by
  rintro ⟨first, move, second, _, taken, wanted⟩
  have still : (subscription.moves first).cancelled = true := by
    rw [cancelled_moves, cancelled, Bool.true_or]
  cases taken.symm.trans (wanted_of_wanted_move still wanted)

/-! ## Every interleaving -/

def deliveryOf (query : Query) (message : Outcome Json) : Outcome Json :=
  message >>= fun data => Response.flatten data query.flattenKey?

/-- A message without the key of the query is delivered, one passes the check, and two more
are sent. -/
def interrupted : List Move := [
  .step (.send (.ok (.obj []))), .step .take, .step .check, .step .deliver,
  .step (.send (.ok (.obj [("recent", .null)]))), .step (.send (.ok .null)),
  .step .take, .step .check, .step (.send (.error (.transport "connection reset")))]

/-- The delivery that has started is completed, and the next message is taken too late. -/
def late : List Move := [.step .deliver, .step .cancel, .grasp, .step .check, .step .deliver]

/-- The message that had passed is delivered, and no other. -/
example :
    (((start (some "recent")).moves interrupted).cancel.moves late).delivered =
      [.error (.malformedResponse "recent" "recent"), .ok .null] := rfl

end GraphBatch.Subscription
