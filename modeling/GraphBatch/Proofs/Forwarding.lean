import GraphBatch.Client.Subscription

/-!
# Forwarding without loss

However the steps of a session, its subscription and its caller are interleaved,
the messages that were taken are a beginning of those that the session was rid
of, and each is delivered reshaped, once and in order. While the subscription
lives, every message is either delivered, in hand, or buffered. A message that
failed is the last one that is delivered.
-/

namespace GraphBatch

def Forwarding.inHand : Forwarding → List (Outcome Json)
  | .taken message => [message]
  | .wanted message => [message]
  | .waiting => []
  | .finished => []

namespace Subscription

def accepted (subscription : Subscription) : Step → List (Outcome Json)
  | .send message => if subscription.accepts then [message] else []
  | _ => []

def acceptedOver (subscription : Subscription) : List Step → List (Outcome Json)
  | [] => []
  | first :: rest => subscription.accepted first ++ acceptedOver (subscription.step first) rest

/-- Messages up to the first one that failed. -/
def untilFailure : List (Outcome Json) → List (Outcome Json)
  | [] => []
  | .ok data :: rest => .ok data :: untilFailure rest
  | .error error :: _ => [.error error]

theorem untilFailure_isPrefix (messages : List (Outcome Json)) :
    untilFailure messages <+: messages := by
  induction messages with
  | nil => exact List.nil_prefix
  | cons message rest ih =>
      cases message with
      | ok data => exact (List.prefix_cons_inj _).mpr ih
      | error error => exact ⟨rest, rfl⟩

theorem untilFailure_cons (message : Outcome Json) (rest : List (Outcome Json)) :
    untilFailure (message :: rest) =
      message :: if message.isOk then untilFailure rest else [] := by
  cases message <;> rfl

/-- Messages that did not fail come before those up to the first one that did. -/
theorem untilFailure_append {fine : List (Outcome Json)}
    (all_fine : ∀ message ∈ fine, message.isOk = true) (messages : List (Outcome Json)) :
    untilFailure (fine ++ messages) = fine ++ untilFailure messages := by
  induction fine with
  | nil => rfl
  | cons message rest ih =>
      obtain ⟨here, later⟩ := List.forall_mem_cons.mp all_fine
      rw [List.cons_append, untilFailure_cons, if_pos here, ih later, List.cons_append]

/-- More messages change nothing about the first ones. -/
theorem untilFailure_isPrefix_append (messages more : List (Outcome Json)) :
    untilFailure messages <+: untilFailure (messages ++ more) := by
  induction messages with
  | nil => exact List.nil_prefix
  | cons message rest ih =>
      cases message with
      | ok data => exact (List.prefix_cons_inj _).mpr ih
      | error error => exact List.prefix_rfl

theorem eq_untilFailure {done messages : List (Outcome Json)}
    (beginning : done <+: untilFailure messages)
    (failed : ∃ message ∈ done, message.isOk = false) : done = untilFailure messages := by
  induction messages generalizing done with
  | nil => exact List.prefix_nil.mp beginning
  | cons message rest ih =>
      obtain ⟨bad, inside, failed⟩ := failed
      cases done with
      | nil => cases inside
      | cons first others =>
          cases message with
          | error error =>
              obtain ⟨rfl, none_left⟩ := List.cons_prefix_cons.mp beginning
              rw [List.prefix_nil.mp none_left]
              rfl
          | ok data =>
              obtain ⟨rfl, others_first⟩ := List.cons_prefix_cons.mp beginning
              rcases List.mem_cons.mp inside with rfl | later
              · cases failed
              · exact congrArg (List.cons _) (ih others_first ⟨bad, later, failed⟩)

/-- The messages that are accepted and not delivered yet. -/
def pending (subscription : Subscription) : List (Outcome Json) :=
  subscription.forwarding.inHand ++ subscription.buffered

/-- A subscription has a reason to finish: it is cancelled, or a message failed, or its
session sends nothing any more and nothing is pending. -/
def HasReason (subscription : Subscription) (done : List (Outcome Json)) : Prop :=
  subscription.cancelled = true ∨ (∃ message ∈ done, message.isOk = false) ∨
    (subscription.exhausted = true ∧ subscription.pending = [])

/-- How what was delivered relates to the messages that were accepted: it is a
beginning of them up to the first failure, and the rest is pending unless the
subscription finished for a failed message or by being cancelled. -/
structure Accounted (messages : List (Outcome Json)) (subscription : Subscription)
    (done : List (Outcome Json)) : Prop where
  delivered : subscription.delivered = done.map subscription.reshaped
  orderly : done <+: untilFailure messages
  alive : subscription.isFinished = false → messages = done ++ subscription.pending
  fine : subscription.isFinished = false → ∀ message ∈ done, message.isOk = true
  ended : subscription.isFinished = true → subscription.HasReason done
  complete : subscription.cancelled = false → (∀ message ∈ done, message.isOk = true) →
    messages = done ++ subscription.pending

theorem Accounted.start (flattenKey : Option String) :
    Accounted [] (Subscription.start flattenKey) [] :=
  ⟨rfl, List.prefix_rfl, fun _ => rfl, fun _ => List.forall_mem_nil _,
    (fun finished => nomatch finished), fun _ _ => rfl⟩

variable {messages done : List (Outcome Json)} {subscription : Subscription}

theorem reshaped_congr {first second : Subscription}
    (same : first.flattenKey = second.flattenKey) : first.reshaped = second.reshaped := by
  funext message
  unfold reshaped
  rw [same]

theorem Accounted.beginning (account : Accounted messages subscription done) :
    done <+: messages :=
  account.orderly.trans (untilFailure_isPrefix messages)

/-- A step that delivers nothing, takes nothing away and only changes what is
pending by what it accepts keeps the account. -/
theorem Accounted.keep {next : Subscription} {more : List (Outcome Json)}
    (account : Accounted messages subscription done)
    (key : next.flattenKey = subscription.flattenKey)
    (delivered : next.delivered = subscription.delivered)
    (alive : next.isFinished = false → subscription.isFinished = false ∧
      next.pending = subscription.pending ++ more)
    (ended : next.isFinished = true → next.HasReason done)
    (complete : next.cancelled = false → subscription.cancelled = false ∧
      next.pending = subscription.pending ++ more) :
    Accounted (messages ++ more) next done where
  delivered := by rw [delivered, account.delivered, reshaped_congr key]
  orderly := account.orderly.trans (untilFailure_isPrefix_append messages more)
  alive := by
    intro live
    obtain ⟨before, pending⟩ := alive live
    rw [pending, ← List.append_assoc, ← account.alive before]
  fine := fun live => account.fine (alive live).1
  ended := ended
  complete := by
    intro wanted fine
    obtain ⟨before, pending⟩ := complete wanted
    rw [pending, ← List.append_assoc, ← account.complete before fine]

/-- A step that moves messages only from what is buffered into the hand. -/
theorem Accounted.move {next : Subscription}
    (account : Accounted messages subscription done)
    (key : next.flattenKey = subscription.flattenKey)
    (delivered : next.delivered = subscription.delivered)
    (alive : next.isFinished = false → subscription.isFinished = false ∧
      next.pending = subscription.pending)
    (ended : next.isFinished = true → next.HasReason done)
    (complete : next.cancelled = false → subscription.cancelled = false ∧
      next.pending = subscription.pending) :
    Accounted messages next done := by
  rw [← List.append_nil messages]
  refine account.keep key delivered ?_ ended ?_
  · intro live
    exact ⟨(alive live).1, by rw [(alive live).2, List.append_nil]⟩
  · intro wanted
    exact ⟨(complete wanted).1, by rw [(complete wanted).2, List.append_nil]⟩

/-! ## One lemma for each step -/

theorem Accounted.send (account : Accounted messages subscription done)
    (message : Outcome Json) :
    Accounted (messages ++ subscription.accepted (.send message)) (subscription.send message)
      done := by
  simp only [accepted, Subscription.send]
  by_cases takes : subscription.accepts = true
  · have open_still : subscription.isFinished = false := by
      simpa using (Bool.and_eq_true_iff.mp takes).1
    rw [if_pos takes, if_pos takes]
    refine account.keep rfl rfl ?_ ?_ ?_
    · intro live
      exact ⟨live, by simp [pending]⟩
    · intro finished
      cases open_still.symm.trans finished
    · intro wanted
      exact ⟨wanted, by simp [pending]⟩
  · rw [if_neg takes, if_neg takes, List.append_nil]
    exact account

theorem Accounted.exhaust (account : Accounted messages subscription done) :
    Accounted messages subscription.exhaust done := by
  refine account.move rfl rfl (fun live => ⟨live, rfl⟩) ?_ fun wanted => ⟨wanted, rfl⟩
  intro finished
  exact (account.ended finished).imp_right fun reason => reason.imp_right fun spent =>
    ⟨rfl, spent.2⟩

theorem Accounted.cancel (account : Accounted messages subscription done) :
    Accounted messages subscription.cancel done :=
  account.move rfl rfl (fun live => ⟨live, rfl⟩) (fun _ => Or.inl rfl)
    fun wanted => nomatch wanted

theorem Accounted.take (account : Accounted messages subscription done) :
    Accounted messages subscription.take done := by
  unfold Subscription.take
  split
  · rename_i waiting
    have live : subscription.isFinished = false := by rw [isFinished, waiting]
    split
    · rename_i cancelled
      refine account.move rfl rfl (fun finished => nomatch finished) (fun _ => Or.inl cancelled) ?_
      intro wanted
      exact absurd (cancelled.symm.trans wanted) (by decide)
    · split
      · rename_i message rest buffered
        have moved : message :: rest = subscription.pending := by
          rw [pending, waiting, buffered]
          rfl
        exact account.move rfl rfl (fun _ => ⟨live, moved⟩) (fun finished => nomatch finished)
          fun wanted => ⟨wanted, moved⟩
      · rename_i buffered
        split
        · rename_i exhausted
          refine account.move rfl rfl (fun finished => nomatch finished) ?_ ?_
          · intro _
            exact Or.inr (Or.inr ⟨exhausted, buffered⟩)
          · intro wanted
            refine ⟨wanted, ?_⟩
            rw [pending, pending, waiting]
            rfl
        · exact account
  · exact account

theorem Accounted.check (account : Accounted messages subscription done) :
    Accounted messages subscription.check done := by
  unfold Subscription.check
  split
  · rename_i message taken
    have live : subscription.isFinished = false := by rw [isFinished, taken]
    by_cases cancelled : subscription.cancelled = true
    · rw [if_pos cancelled]
      refine account.move rfl rfl (fun finished => nomatch finished) (fun _ => Or.inl cancelled) ?_
      intro wanted
      exact absurd (cancelled.symm.trans wanted) (by decide)
    · rw [if_neg cancelled]
      have moved : Forwarding.inHand (.wanted message) ++ subscription.buffered =
          subscription.pending := by
        rw [pending, taken]
        rfl
      exact account.move rfl rfl (fun _ => ⟨live, moved⟩) (fun finished => nomatch finished)
        fun wanted => ⟨wanted, moved⟩
  · exact account

theorem Accounted.deliver (account : Accounted messages subscription done) :
    ∃ next, done <+: next ∧ Accounted messages subscription.deliver next := by
  unfold Subscription.deliver
  split
  · rename_i message ready
    have live : subscription.isFinished = false := by rw [isFinished, ready]
    have split : messages = (done ++ [message]) ++ subscription.buffered := by
      rw [account.alive live, pending, ready]
      simp [Forwarding.inHand]
    refine ⟨done ++ [message], List.prefix_append _ _, ?_, ?_, ?_, ?_, ?_, ?_⟩
    · dsimp only
      rw [account.delivered, List.map_append]
      rfl
    · rw [split, List.append_assoc, untilFailure_append (account.fine live),
        List.singleton_append, untilFailure_cons]
      exact (List.prefix_append_right_inj done).mpr
        ((List.prefix_cons_inj message).mpr List.nil_prefix)
    · intro _
      rw [split]
      cases message <;> rfl
    · intro going one inside
      rcases List.mem_append.mp inside with earlier | here
      · exact account.fine live one earlier
      · rw [List.mem_singleton.mp here]
        cases message with
        | ok data => rfl
        | error error => cases going
    · intro finished
      refine Or.inr (Or.inl ⟨message, by simp, ?_⟩)
      cases message with
      | ok data => cases finished
      | error error => rfl
    · intro _ _
      rw [split]
      cases message <;> rfl
  · exact ⟨done, List.prefix_rfl, account⟩

theorem Accounted.silent (account : Accounted messages subscription done) :
    Accounted (messages ++ []) subscription done := by
  rw [List.append_nil]
  exact account

theorem Accounted.step (account : Accounted messages subscription done) (step : Step) :
    ∃ next, done <+: next ∧
      Accounted (messages ++ subscription.accepted step) (subscription.step step) next := by
  cases step with
  | send message => exact ⟨done, List.prefix_rfl, account.send message⟩
  | exhaust => exact ⟨done, List.prefix_rfl, account.exhaust.silent⟩
  | cancel => exact ⟨done, List.prefix_rfl, account.cancel.silent⟩
  | take => exact ⟨done, List.prefix_rfl, account.take.silent⟩
  | check => exact ⟨done, List.prefix_rfl, account.check.silent⟩
  | deliver =>
      obtain ⟨next, more, account⟩ := account.deliver
      exact ⟨next, more, account.silent⟩

/-- The account holds over every run of steps, in whatever order they come. -/
theorem Accounted.steps (account : Accounted messages subscription done)
    (steps : List Step) :
    ∃ done, Accounted (messages ++ subscription.acceptedOver steps)
      (subscription.steps steps) done := by
  induction steps generalizing messages subscription done with
  | nil => exact ⟨done, by simpa [acceptedOver, Subscription.steps] using account⟩
  | cons first rest ih =>
      obtain ⟨between, _, account⟩ := account.step first
      obtain ⟨last, account⟩ := ih account
      refine ⟨last, ?_⟩
      rw [List.append_assoc] at account
      exact account

theorem flattenKey_step (subscription : Subscription) (step : Step) :
    (subscription.step step).flattenKey = subscription.flattenKey := by
  cases step <;>
    simp only [Subscription.step, Subscription.send, Subscription.exhaust,
      Subscription.cancel, Subscription.take, Subscription.check, Subscription.deliver] <;>
    (repeat' split) <;> rfl

theorem flattenKey_steps (subscription : Subscription) (steps : List Step) :
    (subscription.steps steps).flattenKey = subscription.flattenKey := by
  induction steps generalizing subscription with
  | nil => rfl
  | cons first rest ih => exact (ih (subscription.step first)).trans (flattenKey_step _ _)

end Subscription

end GraphBatch
