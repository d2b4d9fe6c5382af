import GraphBatch.Client.Factories
import GraphBatch.Client.Subscription
import GraphBatch.Scripted.Transport

/-!
# Scripted desks

A desk is a place to try a client out: an assembly, a client once it is built,
scripted transports, and the subscriptions that the client opened. Subscriptions
forward messages only when the desk is drained: those that are due take turns, in
the order in which they became due. A turn is limited to a number of messages, and
a subscription that could go on then comes last. A subscription becomes due when
it is opened, when a message finds it waiting, when it is cancelled, and when its
session sends nothing any more.
-/

namespace GraphBatch.Scripted

/-- A transport at a desk: a scripted one, or one that leads away from it. -/
inductive Wiring (α : Type) where
  | scripted
  | outward (transport : α)
deriving Repr

/-- The fault of whatever leads away from a desk. -/
def noPeer : Error := .transport "nothing answers outside the script"

/-- Answers through a scripted transport only. -/
def Wiring.serve {α ω β : Type} (serving : Serving ω β) : Wiring α → Serving ω β
  | .scripted => serving
  | .outward _ => fun state _ => (state, .error noPeer)

/-- Answers queries through a scripted transport only. -/
def Wiring.answer {α ω : Type} (answering : Catalog.Answering ω) :
    Wiring α → Catalog.Answering ω
  | .scripted => answering
  | .outward _ => fun state _ => (state, .error noPeer)

/-- A subscription at a desk, the number of deliveries after which the caller
cancels it, and whether the caller still holds it. -/
structure Listener where
  subscription : Subscription
  cancelAfter : Option Nat
  held : Bool
deriving Repr

/-- The parts of a client at a desk. -/
abbrev DeskAssembly := Assembly (Wiring Postgres.Connection) (Wiring Http) (Wiring WebSocket)

abbrev DeskClient := Client (Wiring Http) (Wiring WebSocket)

/-- An assembly with its client, the scripts, and the subscriptions. -/
structure Desk where
  assembly : DeskAssembly
  client : Option DeskClient
  rows : Rows
  answers : Answers
  sessions : Sessions
  listeners : List Listener
  due : List Nat
  /-- Whether everything but the subscriptions was dropped. -/
  dropped : Bool
deriving Repr

/-- What a desk shows of its subscriptions: whether a message was taken, what was
delivered, which subscriptions were cancelled and finished, and which sessions
were torn down. -/
structure Status where
  sent : Option Bool
  delivered : List (Nat × Outcome Json)
  subscriptions : List (Option (Bool × Bool))
  closed : Option (List Bool)
deriving Repr

namespace Desk

def empty : Desk :=
  { assembly := .empty
    client := none
    rows := ⟨[], []⟩
    answers := ⟨[], []⟩
    sessions := []
    listeners := []
    due := []
    dropped := false }

def assemble (desk : Desk) (change : DeskAssembly → DeskAssembly) : Desk :=
  { desk with assembly := change desk.assembly }

/-- Supplies scripted introspection. The record shows what is asked of the latest one. -/
def setRows (desk : Desk) (queued : List (Outcome (List Catalog.Row))) : Desk :=
  { desk.assemble fun assembly => { assembly with introspector := some .scripted } with
    rows := .ofQueue queued }

def setExecutor (desk : Desk) : Desk :=
  desk.assemble fun assembly => { assembly with executor := some .scripted }

def setSubscriber (desk : Desk) : Desk :=
  desk.assemble fun assembly => { assembly with subscriber := some .scripted }

def setCatalog (desk : Desk) (catalog : Catalog) : Desk :=
  desk.assemble fun assembly => { assembly with catalog := some catalog }

def setSchema (desk : Desk) (schema : String) : Desk :=
  desk.assemble fun assembly => { assembly with schema := some schema }

/-- The transports that a configuration makes at a desk. -/
def factories : Factories (Wiring Postgres.Connection) (Wiring Http) (Wiring WebSocket) :=
  let builtIn : Factories (Wiring Postgres.Connection) Http WebSocket :=
    Factories.builtIn fun _ => .error noPeer
  { introspect := builtIn.introspect
    execute := fun config => (builtIn.execute config).map .outward
    subscribe := fun config => (builtIn.subscribe config).map .outward }

/-- Keeps what building left behind, and the client if there is one. -/
def keep (desk : Desk) (built : Rows × DeskAssembly × Outcome DeskClient) :
    Desk × Outcome DeskClient :=
  match built with
  | (rows, assembly, .ok client) =>
      ({ desk with rows := rows, assembly := assembly, client := some client }, .ok client)
  | (rows, assembly, .error error) =>
      ({ desk with rows := rows, assembly := assembly }, .error error)

def build (desk : Desk) : Desk × Outcome DeskClient :=
  desk.keep (desk.assembly.build (Wiring.answer Rows.answer) desk.rows)

def connect (desk : Desk) (config : Config) : Desk × Outcome DeskClient :=
  desk.keep (desk.assembly.connect factories (Wiring.answer Rows.answer) config desk.rows)

def respond (desk : Desk) (response : Outcome Json) : Desk :=
  { desk with answers := desk.answers.queue response }

/-- Keeps what answering left behind; the outcome and the requests that were made. -/
def recorded (desk : Desk) (served : Answers × Outcome Json) :
    Desk × Outcome Json × List Exchange :=
  ({ desk with answers := served.1 }, served.2, served.1.log.drop desk.answers.log.length)

def query (desk : Desk) (client : DeskClient) (query : Query) :
    Desk × Outcome Json × List Exchange :=
  desk.recorded (client.query (Wiring.serve Answers.answer) query desk.answers)

def mutate (desk : Desk) (client : DeskClient) (mutation : Mutation) :
    Desk × Outcome Json × List Exchange :=
  desk.recorded (client.mutate (Wiring.serve Answers.answer) mutation desk.answers)

/-- Opens a subscription; its number and the request it was opened with. -/
def subscribe (desk : Desk) (client : DeskClient) (query : Query) (cancelAfter : Option Nat) :
    Desk × Outcome (Nat × Option Request) :=
  match client.subscribe (Wiring.serve Sessions.answer) query desk.sessions with
  | (_, .error error) => (desk, .error error)
  | (sessions, .ok opened) =>
      let listener := ⟨.start opened.flattenKey, cancelAfter, true⟩
      ({ desk with
          sessions := sessions
          listeners := desk.listeners ++ [listener]
          due := desk.due ++ [opened.session] },
        .ok (opened.session, sessions[opened.session]?))

def listener? (desk : Desk) (number : Nat) : Option Listener := desk.listeners[number]?

def changeListener (desk : Desk) (number : Nat) (change : Listener → Listener) : Desk :=
  { desk with listeners := desk.listeners.modify number change }

def changeSubscription (desk : Desk) (number : Nat) (change : Subscription → Subscription) : Desk :=
  desk.changeListener number fun listener =>
    { listener with subscription := change listener.subscription }

/-- Makes a subscription due, unless it is due already or finished. -/
def makeDue (desk : Desk) (number : Nat) : Desk :=
  match desk.listener? number with
  | some listener =>
      if listener.subscription.isFinished ∨ desk.due.contains number then desk
      else { desk with due := desk.due ++ [number] }
  | none => desk

def accepts (desk : Desk) (number : Nat) : Bool :=
  (desk.listener? number).any fun listener => listener.subscription.accepts

def feed (desk : Desk) (number : Nat) (message : Outcome Json) : Desk :=
  if desk.accepts number then
    (desk.changeSubscription number (·.send message)).makeDue number
  else desk

def cancel (desk : Desk) (number : Nat) : Desk :=
  (desk.changeSubscription number Subscription.cancel).makeDue number

def dropSubscription (desk : Desk) (number : Nat) : Desk :=
  (desk.changeListener number fun listener => { listener with held := false }).cancel number

/-- Everything but the subscriptions is dropped: no session sends any more. -/
def dropClient (desk : Desk) : Desk :=
  let numbers := List.range desk.listeners.length
  let exhausted := numbers.foldl
    (fun desk number => (desk.changeSubscription number Subscription.exhaust).makeDue number) desk
  { exhausted with assembly := .empty, client := none, dropped := true }

/-- What a caller does at the end of a delivery: cancels after a given number. -/
def cancelling (cancelAfter : Option Nat) (subscription : Subscription) : Subscription :=
  if cancelAfter = some subscription.delivered.length then subscription.cancel
  else subscription

/-- The number of messages that a subscription forwards in one turn. -/
def turnLength : Nat := 128

/-- Lets a listener forward for one turn; the new deliveries. -/
def turn (listener : Listener) : Listener × List (Outcome Json) :=
  let after := listener.subscription.forwardMany (cancelling listener.cancelAfter) turnLength
  ({ listener with subscription := after },
    after.delivered.drop listener.subscription.delivered.length)

/-- Lets listeners take one turn each, in the given order; the deliveries of each,
and the listeners that could go on. -/
def turns : List Nat → Desk → Desk × List (Nat × Outcome Json) × List Nat
  | [], desk => (desk, [], [])
  | number :: rest, desk =>
      match desk.listener? number with
      | none => turns rest desk
      | some listener =>
          let (listener, delivered) := turn listener
          let (desk, later, due) := turns rest (desk.changeListener number fun _ => listener)
          (desk, delivered.map (fun outcome => (number, outcome)) ++ later,
            if listener.subscription.canProceed then number :: due else due)

/-- Lets the subscriptions that are due take turns, for a number of rounds at most. -/
def rounds : Nat → Desk → Desk × List (Nat × Outcome Json)
  | 0, desk => (desk, [])
  | count + 1, desk =>
      if desk.due.isEmpty then (desk, [])
      else
        let (after, delivered, due) := turns desk.due { desk with due := [] }
        let (last, later) := rounds count { after with due := due }
        (last, delivered ++ later)

/-- The number of messages that no subscription has taken yet. -/
def bufferedCount (desk : Desk) : Nat :=
  desk.listeners.foldl (fun count listener => count + listener.subscription.buffered.length) 0

/-- Lets the subscriptions that are due forward all that there is; what was
delivered. In every round but the last one a message is taken. -/
def drain (desk : Desk) : Desk × List (Nat × Outcome Json) :=
  rounds (desk.bufferedCount + 2) desk

/-- What a desk shows, after it was drained if that is asked for. -/
def settle (desk : Desk) (sent : Option Bool) (draining : Bool) : Desk × Status :=
  let (desk, delivered) := if draining then desk.drain else (desk, [])
  (desk, {
    sent := sent
    delivered := delivered
    subscriptions := desk.listeners.map fun listener =>
      if listener.held then
        some (listener.subscription.cancelled, listener.subscription.isFinished)
      else none
    closed :=
      if desk.dropped then none
      else some (desk.listeners.map (·.subscription.isFinished)) })

end Desk

end GraphBatch.Scripted
