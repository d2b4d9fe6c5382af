import Mathlib.Data.List.Basic
import GraphBatch.Proofs.ResponseNames
import GraphBatch.Scripted.Desk

/-!
# Sequences of calls

A client is called any number of times, in any mix of queries, mutations and
subscriptions. A call whose params do not compile reaches no transport. Every other
query or mutation makes one request, and what it gives depends on the response to
that request alone: whatever the calls before it gave, they took one response each.
A subscription makes its request on a line of its own, if there is one.
-/

namespace GraphBatch

/-! ## Requests one after the other -/

namespace Serving

variable {ω α : Type} (serving : Serving ω α)

def after : List Request → ω → ω
  | [], state => state
  | request :: rest, state => after rest (serving state request).1

def recorded : Serving (ω × List Request) α := fun state request =>
  (((serving state.1 request).1, state.2 ++ [request]), (serving state.1 request).2)

theorem after_append (first second : List Request) (state : ω) :
    serving.after (first ++ second) state = serving.after second (serving.after first state) := by
  induction first generalizing state with
  | nil => rfl
  | cons request rest ih => exact ih _

theorem after_recorded (requests : List Request) (state : ω) (log : List Request) :
    serving.recorded.after requests (state, log) =
      (serving.after requests state, log ++ requests) := by
  induction requests generalizing state log with
  | nil => rw [List.append_nil]; rfl
  | cons request rest ih =>
      rw [after, recorded, ih, ← List.append_cons]
      rfl

end Serving

namespace Scripted.Answers

/-- The response to the request of a number, counted from zero. -/
def response (answers : Answers) (number : Nat) : Outcome Json :=
  answers.queued[number]?.getD (.error (usedUp "response"))

theorem next_eq_response (answers : Answers) : answers.next = answers.response 0 := by
  rw [next, response, List.head?_eq_getElem?]

theorem queued_after (requests : List Request) (answers : Answers) :
    (answer.after requests answers).queued = answers.queued.drop requests.length := by
  induction requests generalizing answers with
  | nil => rfl
  | cons request rest ih =>
      rw [Serving.after, ih, answer, List.drop_tail, List.length_cons]

theorem log_after (requests : List Request) (answers : Answers) :
    (answer.after requests answers).log.map Exchange.request =
      answers.log.map Exchange.request ++ requests := by
  induction requests generalizing answers with
  | nil => rw [List.append_nil]; rfl
  | cons request rest ih =>
      rw [Serving.after, ih, answer, List.map_append, List.append_cons]
      rfl

theorem next_after (requests : List Request) (answers : Answers) :
    (answer.after requests answers).next = answers.response requests.length := by
  rw [next_eq_response, response, queued_after, List.getElem?_drop, Nat.add_zero, response]

end Scripted.Answers

/-! ## Calls -/

/-- A call of a client. -/
inductive Call where
  | query (query : Query)
  | mutate (mutation : Mutation)
  | subscribe (query : Query)

namespace Call

/-- Whether a call asks for a session. -/
def subscribes : Call → Bool
  | .query _ => false
  | .mutate _ => false
  | .subscribe _ => true

def compile (catalog : Catalog) : Call → Outcome Document
  | .query reads => Document.ofQuery catalog reads
  | .mutate writes => Document.ofMutation catalog writes
  | .subscribe reads => Document.ofSubscription catalog reads

end Call

/-- What a call gives. -/
inductive Reply (δ : Type) where
  | data (outcome : Outcome Json)
  | session (outcome : Outcome (Opened δ))

/-- The states of the two transports of a client. -/
structure Lines (ω ρ : Type) where
  executing : ω
  opening : ρ

/-- The request of a document that compiles is its text with its values and its
operation. -/
theorem toOption_map_request_eq_some_iff (document? : Outcome Document) (request : Request) :
    document?.toOption.map Document.request = some request ↔
      ∃ document, document? = .ok document ∧
        request = ⟨document.text, document.values, some document.operationName⟩ := by
  cases document? with
  | error error => exact iff_of_false (by simp [Except.toOption]) (by simp)
  | ok document =>
      constructor
      · intro same
        exact ⟨document, rfl, (Option.some.inj same).symm⟩
      · rintro ⟨compiled, same, rfl⟩
        cases same
        rfl

namespace Client

variable {ε σ ω ρ δ : Type}

section

variable (client : Client ε σ) (execute : ε → Serving ω Json) (connect : σ → Serving ρ δ)

def call (lines : Lines ω ρ) : Call → Lines ω ρ × Reply δ
  | .query query =>
      let (executing, outcome) := client.query execute query lines.executing
      ({ lines with executing := executing }, .data outcome)
  | .mutate mutation =>
      let (executing, outcome) := client.mutate execute mutation lines.executing
      ({ lines with executing := executing }, .data outcome)
  | .subscribe query =>
      let (opening, outcome) := client.subscribe connect query lines.opening
      ({ lines with opening := opening }, .session outcome)

/-- Makes calls one after the other, and keeps what they give. -/
def calls : List Call → Lines ω ρ → Lines ω ρ × List (Reply δ)
  | [], lines => (lines, [])
  | first :: rest, lines =>
      let (lines, reply) := client.call execute connect lines first
      let (lines, replies) := calls rest lines
      (lines, reply :: replies)

/-- The request that a call executes: that of its document, if its params compile. -/
def executed? : Call → Option Request
  | .query query => (Document.ofQuery client.catalog query).toOption.map Document.request
  | .mutate mutation =>
      (Document.ofMutation client.catalog mutation).toOption.map Document.request
  | .subscribe _ => none

/-- The request that a call opens a session for: that of its document, if its params
compile and there is a transport for it. -/
def opened? : Call → Option Request
  | .query _ | .mutate _ => none
  | .subscribe query => client.subscriber.bind fun _ =>
      (Document.ofSubscription client.catalog query).toOption.map Document.request

def session? (opening : ρ) : Option (Request → Outcome δ) :=
  client.subscriber.map fun transport request => (connect transport opening request).2

/-- The line of subscriptions after requests were made on it. -/
def openingAfter (requests : List Request) (opening : ρ) : ρ :=
  match client.subscriber with
  | none => opening
  | some transport => (connect transport).after requests opening

/-- What a call gives, from the response to its request or from the session opened for
it. An error of the params comes first, then a missing transport, then what the transport
says. -/
def replyOn (respond : Request → Outcome Json) (session? : Option (Request → Outcome δ)) :
    Call → Reply δ
  | .query query => .data do
      let document ← Document.ofQuery client.catalog query
      let data ← respond document.request
      Response.flatten data query.flattenKey?
  | .mutate mutation => .data do
      let document ← Document.ofMutation client.catalog mutation
      let data ← respond document.request
      Response.remap document.flatPaths data
  | .subscribe query => .session do
      let document ← Document.ofSubscription client.catalog query
      match session? with
      | none => .error missingSubscribe
      | some opens =>
          let session ← opens document.request
          .ok ⟨session, query.flattenKey?⟩

end

/-! ## One call -/

section

variable {client : Client ε σ} {execute : ε → Serving ω Json} {connect : σ → Serving ρ δ}

/-- A query or a mutation executes a request exactly if its params compile, and the request
is the text of the document with its values and its operation. -/
theorem executed?_eq_some_iff {call : Call} {request : Request} :
    client.executed? call = some request ↔
      call.subscribes = false ∧ ∃ document, call.compile client.catalog = .ok document ∧
        request = ⟨document.text, document.values, some document.operationName⟩ := by
  cases call with
  | query query =>
      rw [Call.subscribes, and_iff_right rfl]
      exact toOption_map_request_eq_some_iff _ _
  | mutate mutation =>
      rw [Call.subscribes, and_iff_right rfl]
      exact toOption_map_request_eq_some_iff _ _
  | subscribe query => exact iff_of_false (by simp [executed?]) (by simp [Call.subscribes])

/-- A subscription opens a session exactly if its params compile and there is a transport
for it, with a request of the same form. -/
theorem opened?_eq_some_iff {call : Call} {request : Request} :
    client.opened? call = some request ↔
      (call.subscribes = true ∧ client.subscriber.isSome) ∧
        ∃ document, call.compile client.catalog = .ok document ∧
          request = ⟨document.text, document.values, some document.operationName⟩ := by
  cases call with
  | query query => exact iff_of_false (by simp [opened?]) (by simp [Call.subscribes])
  | mutate mutation => exact iff_of_false (by simp [opened?]) (by simp [Call.subscribes])
  | subscribe query =>
      rw [opened?]
      cases client.subscriber with
      | none => exact iff_of_false (by simp) (by simp)
      | some transport =>
          rw [Call.subscribes, Option.isSome_some, and_iff_right ⟨rfl, rfl⟩]
          exact toOption_map_request_eq_some_iff _ _

theorem run_eq (serving : Serving ω Json) (state : ω) (document : Outcome Document)
    (reshape : Document → Json → Outcome Json) :
    run serving state document reshape =
      (serving.after (document.toOption.map Document.request).toList state, do
        let document ← document
        let data ← (serving state document.request).2
        reshape document data) := by
  cases document with
  | error error => rfl
  | ok document =>
      change run serving state (.ok document) reshape = ((serving state document.request).1,
        (serving state document.request).2 >>= reshape document)
      rw [run]
      obtain ⟨next, outcome⟩ := serving state document.request
      cases outcome with
      | error error => rfl
      | ok data => rfl

theorem subscribe_eq (client : Client ε σ) (connect : σ → Serving ρ δ) (query : Query)
    (opening : ρ) :
    client.subscribe connect query opening =
      (client.openingAfter connect (client.opened? (.subscribe query)).toList opening, do
        let document ← Document.ofSubscription client.catalog query
        match client.session? connect opening with
        | none => .error missingSubscribe
        | some opens =>
            let session ← opens document.request
            .ok ⟨session, query.flattenKey?⟩) := by
  unfold subscribe openingAfter opened? session?
  cases compiled : Document.ofSubscription client.catalog query with
  | error error =>
      cases client.subscriber with
      | none => rfl
      | some transport =>
          simp only [compiled, Except.toOption, Option.bind_some, Option.map_none,
            Option.toList_none, Serving.after]
          rfl
  | ok document =>
      cases client.subscriber with
      | none => rfl
      | some transport =>
          simp only [compiled, Except.toOption, Option.bind_some, Option.map_some,
            Option.toList_some, Serving.after]
          change _ = ((connect transport opening document.request).1,
            (connect transport opening document.request).2 >>= fun session =>
              .ok (Opened.mk session query.flattenKey?))
          obtain ⟨next, outcome⟩ := connect transport opening document.request
          cases outcome with
          | error error => rfl
          | ok session => rfl

@[simp] theorem openingAfter_nil (opening : ρ) :
    client.openingAfter connect [] opening = opening := by
  unfold openingAfter
  cases client.subscriber with
  | none => rfl
  | some transport => rfl

/-- A call makes at most its own request on each line, and gives what it gives on the
response to that. -/
theorem call_eq (call : Call) (lines : Lines ω ρ) :
    client.call execute connect lines call =
      (⟨(execute client.executor).after (client.executed? call).toList lines.executing,
          client.openingAfter connect (client.opened? call).toList lines.opening⟩,
        client.replyOn (fun request => (execute client.executor lines.executing request).2)
          (client.session? connect lines.opening) call) := by
  cases call with
  | query query =>
      rw [Client.call, Client.query, run_eq, opened?, Option.toList_none, openingAfter_nil]
      rfl
  | mutate mutation =>
      rw [Client.call, Client.mutate, run_eq, opened?, Option.toList_none, openingAfter_nil]
      rfl
  | subscribe query =>
      rw [Client.call, subscribe_eq]
      rfl

/-! ## Many calls -/

theorem openingAfter_append (first second : List Request) (opening : ρ) :
    client.openingAfter connect (first ++ second) opening =
      client.openingAfter connect second (client.openingAfter connect first opening) := by
  unfold openingAfter
  cases client.subscriber with
  | none => rfl
  | some transport => exact (connect transport).after_append first second opening

/-- No session is opened without a transport, so the log of one shows what was opened. -/
theorem openingAfter_recorded (calls : List Call) (opening : ρ) (log : List Request) :
    (client.openingAfter (fun transport => (connect transport).recorded)
      (calls.filterMap client.opened?) (opening, log)).2 =
        log ++ calls.filterMap client.opened? := by
  unfold openingAfter
  cases absent : client.subscriber with
  | none =>
      have unopened : calls.filterMap client.opened? = [] := by
        refine List.filterMap_eq_nil_iff.mpr fun call _ => ?_
        cases call with
        | query query => rfl
        | mutate mutation => rfl
        | subscribe query => rw [opened?, absent, Option.bind_none]
      rw [unopened, List.append_nil]
  | some transport =>
      dsimp only
      rw [Serving.after_recorded]

/-- Calls leave each line as their own requests leave it. -/
theorem lines_calls (calls : List Call) (lines : Lines ω ρ) :
    (client.calls execute connect calls lines).1 =
      ⟨(execute client.executor).after (calls.filterMap client.executed?) lines.executing,
        client.openingAfter connect (calls.filterMap client.opened?) lines.opening⟩ := by
  induction calls generalizing lines with
  | nil =>
      rw [List.filterMap_nil, List.filterMap_nil, openingAfter_nil]
      rfl
  | cons call rest ih =>
      rw [Client.calls, call_eq]
      dsimp only
      rw [ih]
      simp only [List.filterMap_eq_flatMap_toList, List.flatMap_cons, Serving.after_append,
        openingAfter_append]

theorem length_replies (calls : List Call) (lines : Lines ω ρ) :
    (client.calls execute connect calls lines).2.length = calls.length := by
  induction calls generalizing lines with
  | nil => rfl
  | cons call rest ih => exact congrArg (· + 1) (ih _)

/-- Each call gives what it gives on the lines that the requests of the calls before it
leave. -/
theorem replies_getElem? {calls : List Call} {number : Nat} {call : Call}
    (made : calls[number]? = some call) (lines : Lines ω ρ) :
    (client.calls execute connect calls lines).2[number]? =
      some (client.call execute connect
        (client.calls execute connect (calls.take number) lines).1 call).2 := by
  induction calls generalizing number lines with
  | nil => cases made
  | cons first rest ih =>
      cases number with
      | zero =>
          cases made
          rfl
      | succ number => exact ih made _

end

/-! ## Queued responses -/

/-- Any mix of calls of a client whose requests are answered from a queue. The requests
of the queries and mutations whose params compile are made in the order of the calls, and
no others: the texts of their documents, with their values and their operations. Each takes
one response. Sessions are opened for the subscriptions whose params
compile, if there is a transport for them, and for no others. What a call gives is decided
by the response of its number among the requests and by the session opened for it: it
gives the same if it is the only call, with that response alone in the queue. -/
theorem calls_of_queue (client : Client ε σ) (execute : ε → Serving Scripted.Answers Json)
    (connect : σ → Serving ρ δ) (queueing : execute client.executor = Scripted.Answers.answer)
    (calls : List Call) (answers : Scripted.Answers) (opening : ρ) :
    let executed := calls.filterMap client.executed?
    let opened := calls.filterMap client.opened?
    let ending := client.calls execute connect calls ⟨answers, opening⟩
    (∀ call request,
      (client.executed? call = some request ↔
        call.subscribes = false ∧ ∃ document, call.compile client.catalog = .ok document ∧
          request = ⟨document.text, document.values, some document.operationName⟩) ∧
      (client.opened? call = some request ↔
        (call.subscribes = true ∧ client.subscriber.isSome) ∧
          ∃ document, call.compile client.catalog = .ok document ∧
            request = ⟨document.text, document.values, some document.operationName⟩)) ∧
    ending.1.executing.log.map Scripted.Exchange.request =
      answers.log.map Scripted.Exchange.request ++ executed ∧
    ending.1.executing.queued = answers.queued.drop executed.length ∧
    ending.1.opening = client.openingAfter connect opened opening ∧
    (∀ log, (client.calls execute (fun transport => (connect transport).recorded) calls
      ⟨answers, (opening, log)⟩).1.opening.2 = log ++ opened) ∧
    ending.2.length = calls.length ∧
    ∀ number call, calls[number]? = some call →
      let earlier := calls.take number
      let response := answers.response (earlier.filterMap client.executed?).length
      let line := client.openingAfter connect (earlier.filterMap client.opened?) opening
      ending.2[number]? =
        some (client.replyOn (fun _ => response) (client.session? connect line) call) ∧
      ending.2[number]? = some (client.call execute connect ⟨⟨[response], []⟩, line⟩ call).2 := by
  dsimp only
  refine ⟨fun call request => ⟨executed?_eq_some_iff, opened?_eq_some_iff⟩, ?_, ?_, ?_,
    fun log => ?_, length_replies calls _, fun number call made => ?_⟩
  · rw [lines_calls, queueing, Scripted.Answers.log_after]
  · rw [lines_calls, queueing, Scripted.Answers.queued_after]
  · rw [lines_calls]
  · rw [lines_calls, openingAfter_recorded]
  · have given : (client.calls execute connect calls ⟨answers, opening⟩).2[number]? =
        some (client.replyOn
          (fun _ => answers.response ((calls.take number).filterMap client.executed?).length)
          (client.session? connect (client.openingAfter connect
            ((calls.take number).filterMap client.opened?) opening)) call) := by
      rw [replies_getElem? made, lines_calls, call_eq, queueing,
        ← Scripted.Answers.next_after]
      rfl
    refine ⟨given, ?_⟩
    rw [given, call_eq, queueing]
    rfl

/-- A client at a desk, with the table of `aliasedClient`. -/
def deskClient : Scripted.DeskClient := ⟨aliasedClient.catalog, .scripted, some .scripted⟩

/-- The query of `aliasedQuery` between one that reads an unknown table and a
subscription, and once more after them. -/
def mixedCalls : List Call := [
  .query aliasedQuery,
  .query {
    tables := [("missing", ⟨none, none, none, none, none, none, [], none⟩)]
    flattenSingle := true
    distinct := by decide },
  .subscribe aliasedQuery,
  .query aliasedQuery]

/-- The request that `aliasedQuery` makes as an operation of a kind. -/
def aliasedRequest (kind : String) : Request where
  text := "fragment f4_post_fields on post \x7b id \x7d\n" ++ kind ++
    " recent($v0_post_limit: Int) \x7b recent: post(limit: $v0_post_limit) " ++
    "\x7b ...f4_post_fields \x7d \x7d"
  values := [("v0_post_limit", .int 3)]
  operationName := some "recent"

/-- The queries that compile make the same request twice. The first one is told of the fault
that comes first, and the last one gets the response that comes second. -/
theorem calls_of_queue_mixed :
    let ending := deskClient.calls (Scripted.Wiring.serve Scripted.Answers.answer)
      (Scripted.Wiring.serve Scripted.Sessions.answer) mixedCalls
      ⟨⟨[.error (.transport "reset"), .ok (.obj [("recent", .null)])], []⟩, []⟩
    ending.1.executing.log.map Scripted.Exchange.request =
        [aliasedRequest "query", aliasedRequest "query"] ∧
      ending.1.executing.queued = [] ∧
      ending.1.opening = [aliasedRequest "subscription"] ∧
      ending.2[0]? = some (.data (.error (.transport "reset"))) ∧
      ending.2[3]? = some (.data (.ok .null)) := by
  obtain ⟨_, log, queued, opened, _, _, replies⟩ :=
    calls_of_queue deskClient (Scripted.Wiring.serve Scripted.Answers.answer)
      (Scripted.Wiring.serve Scripted.Sessions.answer) rfl mixedCalls
      ⟨[.error (.transport "reset"), .ok (.obj [("recent", .null)])], []⟩ []
  have executed : mixedCalls.filterMap deskClient.executed? =
      [aliasedRequest "query", aliasedRequest "query"] := by rfl
  have subscribed : mixedCalls.filterMap deskClient.opened? =
      [aliasedRequest "subscription"] := by rfl
  rw [executed] at log queued
  rw [subscribed] at opened
  exact ⟨log, queued, opened, (replies 0 (.query aliasedQuery) rfl).1.trans rfl,
    (replies 3 (.query aliasedQuery) rfl).1.trans rfl⟩

end Client

end GraphBatch
