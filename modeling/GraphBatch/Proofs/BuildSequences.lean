import GraphBatch.Client.Assembly
import GraphBatch.Proofs.Introspection
import GraphBatch.Scripted.Desk
import Mathlib.Data.List.DropRight

/-!
# Builds one after the other

An assembly is given parts and built, in any order and any number of times. What it holds
can be told from what happened before: the transport of introspection and the schema were
given last of all, the other parts were given last since a client was built. A build that
fails has asked a few questions at most. One that does not fail takes the parts of the
client away, so that no client can be built before a transport of requests is given again.
-/

namespace GraphBatch

namespace Catalog

/-- Introspection that keeps its queries behind others, and is the same otherwise. -/
theorem introspect_recording_eq {σ : Type} (answering : Answering σ) (schema : String)
    (state : σ) (log : List String) :
    introspect (recording answering) schema (state, log) =
      (((introspect answering schema state).1, log ++ (transcript answering schema state).1),
        (introspect answering schema state).2) := by
  have plain := ask_recording answering schema Question.all .empty state log
  have kept : (ask (recording answering) schema Question.all .empty (state, log)).1.2 =
      log ++ (transcript answering schema state).1 := by
    rw [ask_log, transcript_eq]
  unfold introspect
  rw [plain, ← kept]
  obtain ⟨⟨reached, said⟩, outcome⟩ :=
    ask (recording answering) schema Question.all .empty (state, log)
  cases outcome <;> rfl

end Catalog

namespace Assembly

variable {α ι ε σ ω : Type} {answering : ι → Catalog.Answering ω}
variable {assembly : Assembly ι ε σ} {state : ω}

/-! ## One build -/

/-- The queries that a build sends. -/
def sent (answering : ι → Catalog.Answering ω) (assembly : Assembly ι ε σ) (state : ω) :
    List String :=
  (assembly.build (fun transport => Catalog.recording (answering transport)) (state, [])).1.2

/-- What a build sends and what comes of it. -/
inductive Builds (answering : ι → Catalog.Answering ω) (assembly : Assembly ι ε σ) (state : ω) :
    List String → Outcome (Client ε σ) → Prop where
  | noExecutor (execution : assembly.executor = none) :
      Builds answering assembly state [] (.error missingExecute)
  | noSource {executor : ε} (execution : assembly.executor = some executor)
      (catalog : assembly.catalog = none) (introspection : assembly.introspector = none) :
      Builds answering assembly state [] (.error missingCatalog)
  | refused {executor : ε} {introspector : ι} {sent : List String} {error : Error}
      (execution : assembly.executor = some executor) (catalog : assembly.catalog = none)
      (introspection : assembly.introspector = some introspector)
      (said : Catalog.transcript (answering introspector) (assembly.schema.getD "public") state =
        (sent, .error error)) :
      Builds answering assembly state sent (.error error)
  | introspected {executor : ε} {introspector : ι} {sent : List String} {found : Catalog}
      (execution : assembly.executor = some executor) (catalog : assembly.catalog = none)
      (introspection : assembly.introspector = some introspector)
      (said : Catalog.transcript (answering introspector) (assembly.schema.getD "public") state =
        (sent, .ok found)) :
      Builds answering assembly state sent (.ok ⟨found, executor, assembly.subscriber⟩)
  | supplied {executor : ε} {held : Catalog} (execution : assembly.executor = some executor)
      (catalog : assembly.catalog = some held) :
      Builds answering assembly state [] (.ok ⟨held, executor, assembly.subscriber⟩)

/-- What a build leaves: all of it if it fails, and else what is no part of the client. -/
def leaving (assembly : Assembly ι ε σ) : Outcome (Client ε σ) → Assembly ι ε σ
  | .error _ => assembly
  | .ok _ => { assembly with catalog := none, executor := none, subscriber := none }

theorem builds (answering : ι → Catalog.Answering ω) (assembly : Assembly ι ε σ) (state : ω) :
    Builds answering assembly state (assembly.sent answering state)
      (assembly.build answering state).2.2 := by
  cases execution : assembly.executor with
  | none =>
      rw [sent, build, build, execution]
      exact .noExecutor execution
  | some executor =>
      rw [sent, build, build, execution]
      cases catalog : assembly.catalog with
      | some held =>
          simp only [findCatalog, catalog]
          exact .supplied execution catalog
      | none =>
          cases introspection : assembly.introspector with
          | none =>
              simp only [findCatalog, catalog, introspection]
              exact .noSource execution catalog introspection
          | some introspector =>
              have said := Catalog.introspect_recording (answering introspector)
                (assembly.schema.getD Config.defaultSchema) state
              simp only [findCatalog, catalog, introspection, Catalog.introspect_recording_eq]
              cases asked : Catalog.introspect (answering introspector)
                  (assembly.schema.getD Config.defaultSchema) state with
              | mk moved outcome =>
                  rw [asked] at said
                  cases outcome with
                  | error error =>
                      exact .refused execution catalog introspection (Prod.ext rfl said.symm)
                  | ok found =>
                      exact .introspected execution catalog introspection (Prod.ext rfl said.symm)

theorem leaving_build (answering : ι → Catalog.Answering ω) (assembly : Assembly ι ε σ)
    (state : ω) :
    (assembly.build answering state).2.1 =
      assembly.leaving (assembly.build answering state).2.2 := by
  unfold build
  split
  · rfl
  · split <;> rfl

theorem Builds.of_sent {queries : List String} {outcome : Outcome (Client ε σ)}
    (builds : Builds answering assembly state queries outcome) (asked : queries ≠ []) :
    assembly.executor.isSome ∧ assembly.catalog = none := by
  cases builds with
  | noExecutor _ => exact absurd rfl asked
  | noSource _ _ _ => exact absurd rfl asked
  | refused execution catalog _ _ => exact ⟨execution ▸ rfl, catalog⟩
  | introspected execution catalog _ _ => exact ⟨execution ▸ rfl, catalog⟩
  | supplied _ _ => exact absurd rfl asked

/-- Without a transport of requests nothing is sent. -/
theorem Builds.of_noExecutor {queries : List String} {outcome : Outcome (Client ε σ)}
    (builds : Builds answering assembly state queries outcome)
    (missing : assembly.executor = none) : queries = [] ∧ outcome = .error missingExecute := by
  cases builds with
  | noExecutor _ => exact ⟨rfl, rfl⟩
  | noSource execution _ _ => cases missing.symm.trans execution
  | refused execution _ _ _ => cases missing.symm.trans execution
  | introspected execution _ _ _ => cases missing.symm.trans execution
  | supplied execution _ => cases missing.symm.trans execution

/-! ## Calls and what happens -/

/-- A part that is given to an assembly. -/
inductive Given (ι ε σ : Type) where
  | introspector (transport : ι)
  | executor (transport : ε)
  | subscriber (transport : σ)
  | catalog (catalog : Catalog)
  | schema (name : String)

namespace Given

def introspector? : Given ι ε σ → Option ι
  | .introspector transport => some transport
  | _ => none

def executor? : Given ι ε σ → Option ε
  | .executor transport => some transport
  | _ => none

def subscriber? : Given ι ε σ → Option σ
  | .subscriber transport => some transport
  | _ => none

def catalog? : Given ι ε σ → Option Catalog
  | .catalog held => some held
  | _ => none

def schema? : Given ι ε σ → Option String
  | .schema name => some name
  | _ => none

end Given

def give (assembly : Assembly ι ε σ) : Given ι ε σ → Assembly ι ε σ
  | .introspector transport => { assembly with introspector := some transport }
  | .executor transport => { assembly with executor := some transport }
  | .subscriber transport => { assembly with subscriber := some transport }
  | .catalog catalog => { assembly with catalog := some catalog }
  | .schema name => { assembly with schema := some name }

/-- A call on an assembly. In between, the transports may move on by themselves. -/
inductive Call (ι ε σ ω : Type) where
  | give (given : Given ι ε σ)
  | moveOn (change : ω → ω)
  | build

/-- What happened to an assembly: it was given a part, or it was built, with what was sent
and what came of it. -/
inductive Event (ι ε σ : Type) where
  | gave (given : Given ι ε σ)
  | built (sent : List String) (outcome : Outcome (Client ε σ))

/-- An assembly and the state of the transports, with what happened so far. -/
structure Course (ι ε σ ω : Type) where
  assembly : Assembly ι ε σ
  state : ω
  events : List (Event ι ε σ)

namespace Course

/-- The course of a new assembly. -/
def start (state : ω) : Course ι ε σ ω := ⟨.empty, state, []⟩

def step (answering : ι → Catalog.Answering ω) (course : Course ι ε σ ω) :
    Call ι ε σ ω → Course ι ε σ ω
  | .give given =>
      { course with
        assembly := course.assembly.give given
        events := course.events ++ [.gave given] }
  | .moveOn change => { course with state := change course.state }
  | .build =>
      match course.assembly.build answering course.state with
      | (after, left, outcome) =>
          ⟨left, after, course.events ++
            [.built (course.assembly.sent answering course.state) outcome]⟩

def run (answering : ι → Catalog.Answering ω) (course : Course ι ε σ ω)
    (calls : List (Call ι ε σ ω)) : Course ι ε σ ω :=
  calls.foldl (step answering) course

end Course

/-! ## What is there, told from what happened -/

namespace Event

/-- The part that was given. -/
def given? : Event ι ε σ → Option (Given ι ε σ)
  | .gave given => some given
  | .built _ _ => none

def isClient : Event ι ε σ → Bool
  | .built _ (.ok _) => true
  | _ => false

end Event

variable {events : List (Event ι ε σ)} {event : Event ι ε σ}

/-- The last part of a kind that was given. -/
def lastGiven (read : Given ι ε σ → Option α) (events : List (Event ι ε σ)) : Option α :=
  (events.filterMap fun event => event.given?.bind read).getLast?

/-- What happened since the last client was built. -/
def sinceClient (events : List (Event ι ε σ)) : List (Event ι ε σ) :=
  events.rtakeWhile fun event => !event.isClient

/-- What an assembly holds after all that happened. -/
def ofEvents (events : List (Event ι ε σ)) : Assembly ι ε σ where
  introspector := lastGiven Given.introspector? events
  executor := lastGiven Given.executor? (sinceClient events)
  subscriber := lastGiven Given.subscriber? (sinceClient events)
  catalog := lastGiven Given.catalog? (sinceClient events)
  schema := lastGiven Given.schema? events

theorem lastGiven_concat (read : Given ι ε σ → Option α) (events : List (Event ι ε σ))
    (event : Event ι ε σ) :
    lastGiven read (events ++ [event]) =
      (event.given?.bind read).or (lastGiven read events) := by
  rw [lastGiven, List.filterMap_append]
  cases given : event.given?.bind read with
  | none => simp [given, lastGiven]
  | some part => simp [given]

theorem sinceClient_concat (events : List (Event ι ε σ)) (event : Event ι ε σ) :
    sinceClient (events ++ [event]) =
      if event.isClient then [] else sinceClient events ++ [event] := by
  rw [sinceClient, List.rtakeWhile_concat]
  cases event.isClient <;> rfl

theorem ofEvents_gave (events : List (Event ι ε σ)) (given : Given ι ε σ) :
    ofEvents (events ++ [.gave given]) = (ofEvents events).give given := by
  have since : sinceClient (events ++ [.gave given]) = sinceClient events ++ [.gave given] :=
    sinceClient_concat events _
  simp only [ofEvents, since, lastGiven_concat]
  cases given <;> rfl

theorem ofEvents_built (events : List (Event ι ε σ)) (queries : List String)
    (outcome : Outcome (Client ε σ)) :
    ofEvents (events ++ [.built queries outcome]) = (ofEvents events).leaving outcome := by
  cases outcome with
  | error error =>
      have since : sinceClient (events ++ [.built queries (.error error)]) =
          sinceClient events ++ [.built queries (.error error)] := sinceClient_concat events _
      simp only [ofEvents, since, lastGiven_concat]
      rfl
  | ok client =>
      have since : sinceClient (events ++ [.built queries (.ok client)]) = [] :=
        sinceClient_concat events _
      simp only [ofEvents, since, lastGiven_concat]
      rfl

namespace Course

variable {course : Course ι ε σ ω}

theorem run_cons (answering : ι → Catalog.Answering ω) (course : Course ι ε σ ω)
    (call : Call ι ε σ ω) (calls : List (Call ι ε σ ω)) :
    course.run answering (call :: calls) = (course.step answering call).run answering calls :=
  rfl

theorem step_build (answering : ι → Catalog.Answering ω) (course : Course ι ε σ ω) :
    course.step answering .build =
      ⟨(course.assembly.build answering course.state).2.1,
        (course.assembly.build answering course.state).1, course.events ++
          [.built (course.assembly.sent answering course.state)
            (course.assembly.build answering course.state).2.2]⟩ :=
  rfl

/-- One call keeps what the assembly holds and what happened in agreement. -/
theorem assembly_step (agrees : course.assembly = ofEvents course.events)
    (call : Call ι ε σ ω) :
    (course.step answering call).assembly = ofEvents (course.step answering call).events := by
  cases call with
  | give given =>
      rw [step, ofEvents_gave, ← agrees]
  | moveOn change => exact agrees
  | build =>
      rw [step_build, ofEvents_built, ← agrees]
      exact leaving_build answering course.assembly course.state

theorem assembly_run (agrees : course.assembly = ofEvents course.events)
    (calls : List (Call ι ε σ ω)) :
    (course.run answering calls).assembly = ofEvents (course.run answering calls).events := by
  induction calls generalizing course with
  | nil => exact agrees
  | cons call calls ih => exact ih (assembly_step agrees call)

/-- What happened before has no bearing on what happens next, but for the assembly. -/
theorem run_events (answering : ι → Catalog.Answering ω) (calls : List (Call ι ε σ ω))
    (assembly : Assembly ι ε σ) (state : ω) (events : List (Event ι ε σ)) :
    run answering ⟨assembly, state, events⟩ calls =
      { run answering ⟨assembly, state, []⟩ calls with
        events := events ++ (run answering ⟨assembly, state, []⟩ calls).events } := by
  induction calls generalizing assembly state events with
  | nil => simp [run]
  | cons call calls ih =>
      rw [run_cons, run_cons]
      cases call with
      | give given =>
          simp only [step]
          rw [ih _ _ (events ++ _), ih _ _ ([] ++ _)]
          simp
      | moveOn change => exact ih assembly (change state) events
      | build =>
          rw [step_build, step_build, ih _ _ (events ++ _), ih _ _ ([] ++ _)]
          simp

/-- Without a transport of requests no client is built, and nothing is sent. -/
theorem built_of_noExecutor {calls : List (Call ι ε σ ω)}
    (ungiven : ∀ transport, .give (.executor transport) ∉ calls)
    (missing : course.assembly.executor = none)
    (fine : ∀ queries outcome, .built queries outcome ∈ course.events →
      queries = [] ∧ outcome = .error missingExecute) :
    ∀ queries outcome, .built queries outcome ∈ (course.run answering calls).events →
      queries = [] ∧ outcome = .error missingExecute := by
  induction calls generalizing course with
  | nil => exact fine
  | cons call calls ih =>
      rw [run_cons]
      have later : ∀ transport, .give (.executor transport) ∉ calls :=
        fun transport inside => ungiven transport (List.mem_cons_of_mem _ inside)
      cases call with
      | give given =>
          refine ih later ?_ ?_
          · cases given with
            | executor transport => exact absurd List.mem_cons_self (ungiven transport)
            | introspector transport => exact missing
            | subscriber transport => exact missing
            | catalog catalog => exact missing
            | schema name => exact missing
          · intro queries outcome inside
            rcases List.mem_append.mp inside with before | now
            · exact fine queries outcome before
            · cases List.mem_singleton.mp now
      | moveOn change => exact ih later missing fine
      | build =>
          obtain ⟨silent, failed⟩ :=
            (builds answering course.assembly course.state).of_noExecutor missing
          refine ih later ?_ ?_
          · rw [step_build, leaving_build, failed]
            exact missing
          · intro queries outcome inside
            rw [step_build] at inside
            rcases List.mem_append.mp inside with before | now
            · exact fine queries outcome before
            · cases List.mem_singleton.mp now
              exact ⟨silent, failed⟩

end Course

open Course

/-- A build after any calls on a new assembly. The assembly holds the introspection and the
schema that were given last, and the other parts that were given last since a client was
built; `Builds` says what the build sends and what comes of it. It sends queries only with
a transport of requests and without a catalog. If it fails, the assembly is as it was, and
all goes on as it would have without the build. If it does not fail, the catalog and the
transports of the client are gone from the assembly, and builds fail without a query until
a transport of requests is given. -/
theorem build_after_calls (answering : ι → Catalog.Answering ω) (calls : List (Call ι ε σ ω))
    (state : ω) {course : Course ι ε σ ω} (reached : (start state).run answering calls = course)
    {after : ω} {left : Assembly ι ε σ} {queries : List String} {outcome : Outcome (Client ε σ)}
    (built : course.assembly.build answering course.state = (after, left, outcome))
    (asked : course.assembly.sent answering course.state = queries) :
    course.assembly = ofEvents course.events ∧
    Builds answering course.assembly course.state queries outcome ∧
    (queries ≠ [] → course.assembly.executor.isSome ∧ course.assembly.catalog = none) ∧
    (∀ error, outcome = .error error → left = course.assembly ∧
      ∀ later : List (Call ι ε σ ω), course.run answering (.build :: later) =
        { run answering ⟨course.assembly, after, []⟩ later with
          events := course.events ++ .built queries outcome ::
            (run answering ⟨course.assembly, after, []⟩ later).events }) ∧
    ∀ client, outcome = .ok client →
      left = { course.assembly with catalog := none, executor := none, subscriber := none } ∧
      ∀ later : List (Call ι ε σ ω), (∀ transport, .give (.executor transport) ∉ later) →
        ∀ sent result, .built sent result ∈ (run answering ⟨left, after, []⟩ later).events →
          sent = [] ∧ result = .error missingExecute := by
  have builds := builds answering course.assembly course.state
  have leaving := leaving_build answering course.assembly course.state
  have next : course.step answering .build =
      ⟨left, after, course.events ++ [.built queries outcome]⟩ := by
    rw [step_build, built, asked]
  rw [built, asked] at builds
  rw [built] at leaving
  refine ⟨?_, builds, builds.of_sent, ?_, ?_⟩
  · rw [← reached]
    exact assembly_run rfl calls
  · rintro error rfl
    have kept : left = course.assembly := leaving
    refine ⟨kept, fun later => ?_⟩
    rw [run_cons, next, run_events, kept, List.append_assoc, List.singleton_append]
  · rintro client rfl
    have taken : left =
        { course.assembly with catalog := none, executor := none, subscriber := none } := leaving
    refine ⟨taken, fun later ungiven => built_of_noExecutor ungiven ?_ ?_⟩
    · exact congrArg executor taken
    · exact fun _ _ impossible => absurd impossible List.not_mem_nil

open Scripted

/-- Calls at a desk that give a way to the catalog and a transport of requests. -/
def tenantCalls : List (Call (Wiring Postgres.Connection) (Wiring Http) (Wiring WebSocket) Rows) :=
  [.give (.introspector .scripted), .give (.schema "tenant"), .give (.executor .scripted)]

/-- Rows for two attempts, the first of which fails in the second pass. -/
def tenantRows : Rows := .ofQueue [
  .ok [], .error (.transport "reset"),
  .ok [[("table_name", .str "user"), ("table_type", .str "BASE TABLE")]], .ok [], .ok []]

/-- The build is tried again, with a way to subscribe, and there is a client. After that a
catalog is not enough for another one. -/
theorem build_after_calls_tenant :
    ∃ course after left, (start tenantRows).run (Wiring.answer Rows.answer) tenantCalls = course ∧
      course.assembly.build (Wiring.answer Rows.answer) course.state =
        (after, left, .error (.transport "reset")) ∧ left = course.assembly ∧
      ∃ again last rest client, (start tenantRows).run (Wiring.answer Rows.answer)
          (tenantCalls ++ [.build, .give (.subscriber .scripted)]) = again ∧
        again.assembly.build (Wiring.answer Rows.answer) again.state = (last, rest, .ok client) ∧
        again.assembly = ofEvents again.events ∧
        client.catalog.toList.map Table.name = ["user"] ∧ client.subscriber.isSome ∧
        rest.catalog = none ∧ rest.schema = some "tenant" ∧
        ∀ sent result, .built sent result ∈ (run (Wiring.answer Rows.answer) ⟨rest, last, []⟩
            [.give (.catalog .empty), .build]).events →
          sent = [] ∧ result = .error missingExecute := by
  have failing := build_after_calls (Wiring.answer Rows.answer) tenantCalls tenantRows rfl rfl rfl
  obtain ⟨_, _, _, kept, _⟩ := failing
  have building := build_after_calls (Wiring.answer Rows.answer)
    (tenantCalls ++ [.build, .give (.subscriber .scripted)]) tenantRows rfl rfl rfl
  obtain ⟨agrees, _, _, _, taken⟩ := building
  obtain ⟨left_behind, refused⟩ := taken _ rfl
  refine ⟨_, _, _, rfl, rfl, (kept _ rfl).1, _, _, _, _, rfl, rfl, agrees, rfl, rfl, rfl, rfl, ?_⟩
  exact refused _ (by simp)

end Assembly

end GraphBatch
