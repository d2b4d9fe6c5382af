import GraphBatch.Response.Reshape

/-!
# Subscriptions

A subscription forwards the messages of a session to its caller. Forwarding goes
in three steps: a message is taken, the subscription is checked to be still
wanted, and the message is delivered. The session may send and the caller may
cancel between any two of them. A failed session is delivered and ends the
subscription; a message without the key that it is flattened to is delivered as
an error and does not.
-/

namespace GraphBatch

/-- How far forwarding has got. -/
inductive Forwarding where
  | waiting
  /-- A message was taken. -/
  | taken (message : Outcome Json)
  /-- A message was taken and is still wanted. -/
  | wanted (message : Outcome Json)
  | finished
deriving Repr

structure Subscription where
  flattenKey : Option String
  forwarding : Forwarding
  /-- The messages that were sent and not taken yet. -/
  buffered : List (Outcome Json)
  /-- Whether the session sends nothing any more. -/
  exhausted : Bool
  cancelled : Bool
  delivered : List (Outcome Json)
deriving Repr

namespace Subscription

/-- A subscription to a session that was just opened. -/
def start (flattenKey : Option String) : Subscription :=
  ⟨flattenKey, .waiting, [], false, false, []⟩

/-- Whether the session is torn down. -/
def isFinished (subscription : Subscription) : Bool :=
  match subscription.forwarding with
  | .finished => true
  | _ => false

def accepts (subscription : Subscription) : Bool :=
  !subscription.isFinished && !subscription.exhausted

def send (subscription : Subscription) (message : Outcome Json) : Subscription :=
  if subscription.accepts then
    { subscription with buffered := subscription.buffered ++ [message] }
  else subscription

/-- The session sends nothing any more. -/
def exhaust (subscription : Subscription) : Subscription :=
  { subscription with exhausted := true }

def cancel (subscription : Subscription) : Subscription :=
  { subscription with cancelled := true }

/-- The step that takes a message; a subscription that is not wanted any more
finishes instead. -/
def take (subscription : Subscription) : Subscription :=
  match subscription.forwarding with
  | .waiting =>
      if subscription.cancelled then { subscription with forwarding := .finished }
      else
        match subscription.buffered with
        | message :: rest => { subscription with forwarding := .taken message, buffered := rest }
        | [] =>
            if subscription.exhausted then { subscription with forwarding := .finished }
            else subscription
  | _ => subscription

/-- The step that checks whether the subscription is still wanted. -/
def check (subscription : Subscription) : Subscription :=
  match subscription.forwarding with
  | .taken message =>
      { subscription with
        forwarding := if subscription.cancelled then .finished else .wanted message }
  | _ => subscription

def reshaped (subscription : Subscription) (message : Outcome Json) : Outcome Json := do
  Response.flatten (← message) subscription.flattenKey

def deliver (subscription : Subscription) : Subscription :=
  match subscription.forwarding with
  | .wanted message =>
      { subscription with
        forwarding := if message.isOk then .waiting else .finished
        delivered := subscription.delivered ++ [subscription.reshaped message] }
  | _ => subscription

inductive Step where
  | send (message : Outcome Json)
  | exhaust
  | cancel
  | take
  | check
  | deliver
deriving Repr

def step (subscription : Subscription) : Step → Subscription
  | .send message => subscription.send message
  | .exhaust => subscription.exhaust
  | .cancel => subscription.cancel
  | .take => subscription.take
  | .check => subscription.check
  | .deliver => subscription.deliver

def steps (subscription : Subscription) (steps : List Step) : Subscription :=
  steps.foldl step subscription

/-- One message taken, checked and delivered without a break; a caller that reacts
to what it is delivered acts at the end. -/
def forward (react : Subscription → Subscription) (subscription : Subscription) : Subscription :=
  let ready := subscription.take.check
  match ready.forwarding with
  | .wanted _ => react ready.deliver
  | _ => ready

/-- Forwards messages for as long as there are any, and at most as many as the count. -/
def forwardMany (react : Subscription → Subscription) (subscription : Subscription) :
    Nat → Subscription
  | 0 => subscription
  | count + 1 => forwardMany react (forward react subscription) count

/-- Whether a subscription between two messages has something to do: a message to
take, or a reason to finish. -/
def canProceed (subscription : Subscription) : Bool :=
  !subscription.isFinished
    && (subscription.cancelled || subscription.exhausted || !subscription.buffered.isEmpty)

end Subscription

end GraphBatch
