import GraphBatch.Session.Basic

/-!
# The conduct of a session

What a session says and gives is read off the frames that it has read, without its
stages. The handshake lasts as long as nothing but pings is said; if it is
acknowledged, the operation is subscribed to once, and what follows is the stream of
the operation up to the frame that ends it. Every ping is answered once, every
response to the operation is given once, and an operation that has not ended when the
session is dropped is completed once, where that can be sent.
-/

namespace GraphBatch.Session

/-! ## Frames -/

namespace Arrival

def message? : Arrival → Option ServerMessage
  | .text content => (ServerMessage.ofText content).toOption
  | _ => none

/-- Whether a frame carries a message of a type. -/
def carries (kind : ServerMessage.Kind) (arrival : Arrival) : Bool :=
  arrival.message?.any fun message => message.kind = kind

/-- Whether a handshake goes on after a frame: it has no text, or it carries a ping. -/
def waits (arrival : Arrival) : Bool := arrival = .binary ∨ arrival.carries .ping

/-- Whether a frame ends an operation: it closes the connection or loses it, its text is
no message, or its message is an error or completes an operation. -/
def ends : Arrival → Bool
  | .text content =>
      match ServerMessage.ofText content with
      | .ok message => message.kind = .error ∨ message.kind = .complete
      | .error _ => true
  | .binary => false
  | .close => true
  | .loss => true

/-- The response of a frame to the operation of the session. -/
def response? (arrival : Arrival) : Option Response :=
  match arrival.message? with
  | some (.next id response) => if id = operationId then some response else none
  | _ => none

/-- What a caller is told of the frame that ends an operation: an error that the server
reports, a text that is no message, or the loss of the connection. -/
def fault? : Arrival → Option TransportFault
  | .text content =>
      match ServerMessage.ofText content with
      | .ok (.error _ errors) => some (.reported (.transport (ReportedError.joined errors)))
      | .ok _ => none
      | .error error => some (decodingFault error)
  | .binary => none
  | .close => none
  | .loss => some .connection

/-- What a caller receives of a frame. -/
def item? (arrival : Arrival) : Option Item :=
  (arrival.response?.map fun response => TransportFault.ofOutcome response.outcome).or
    (arrival.fault?.map .error)

end Arrival

/-! ## What is read, said and given -/

def handshake (arrivals : List Arrival) : List Arrival :=
  arrivals.takeWhile Arrival.waits

/-- The frames after the acknowledgement, if it comes before any other message, and before
any text that is no message, a close or a loss. -/
def acknowledged? (arrivals : List Arrival) : Option (List Arrival) :=
  match arrivals.dropWhile Arrival.waits with
  | first :: stream => if first.carries .connectionAck then some stream else none
  | [] => none

/-- The frames that an operation reads: up to the one that ends it. -/
def consumed : List Arrival → List Arrival
  | [] => []
  | arrival :: rest => if arrival.ends then [arrival] else arrival :: consumed rest

def pongs (arrivals : List Arrival) : List ClientMessage :=
  List.replicate (arrivals.countP (Arrival.carries .ping)) .pong

/-- What is said of an operation: it is subscribed to, every ping that it reads is
answered, and it is completed if it is dropped before it has ended, where that can be
sent. -/
def saidOf (request : Request) (canSend : Bool) (stream : List Arrival) : List ClientMessage :=
  .subscribe operationId request :: pongs (consumed stream) ++
    if canSend ∧ ¬ stream.any Arrival.ends then [.complete operationId] else []

/-- What a session says that reads frames and is dropped then. -/
def said (payload : Option Json) (request : Request) (canSend : Bool)
    (arrivals : List Arrival) : List ClientMessage :=
  .connectionInit payload :: pongs (handshake arrivals) ++
    ((acknowledged? arrivals).map (saidOf request canSend)).getD []

/-- What an operation gives: the outcome of every response to it, and then the fault that
it has ended with, if any. -/
def givenOf (stream : List Arrival) : List Item :=
  ((consumed stream).filterMap Arrival.response?).map
      (fun response => TransportFault.ofOutcome response.outcome) ++
    (((stream.find? Arrival.ends).bind Arrival.fault?).map .error).toList

/-- What a session gives that reads frames. -/
def given (arrivals : List Arrival) : List Item :=
  ((acknowledged? arrivals).map givenOf).getD []

/-! ## Steps -/

theorem Arrival.text_cases (content : String) :
    (∃ message, ServerMessage.ofText content = .ok message ∧
      (Arrival.text content).message? = some message) ∨
    ∃ error, ServerMessage.ofText content = .error error ∧
      (Arrival.text content).message? = none := by
  cases decoded : ServerMessage.ofText content with
  | ok message => exact Or.inl ⟨message, rfl, congrArg Except.toOption decoded⟩
  | error error => exact Or.inr ⟨error, rfl, congrArg Except.toOption decoded⟩

theorem pongs_singleton (arrival : Arrival) :
    pongs [arrival] = if arrival.carries .ping then [.pong] else [] := by
  rw [pongs, List.countP_singleton]
  split <;> rfl

theorem pongs_cons (arrival : Arrival) (rest : List Arrival) :
    pongs (arrival :: rest) = pongs [arrival] ++ pongs rest := by
  unfold pongs
  rw [List.replicate_append_replicate, ← List.countP_append, List.singleton_append]

/-- A live session by what a frame is: it ends or goes on, it answers a ping, and it gives
an item or none. -/
theorem live_eq (arrival : Arrival) :
    live arrival =
      ⟨if arrival.ends then .ended else .live, pongs [arrival], arrival.item?⟩ := by
  rw [pongs_singleton]
  cases arrival with
  | binary => rfl
  | close => rfl
  | loss => rfl
  | text content =>
      rcases Arrival.text_cases content with ⟨message, decoded, carried⟩ | ⟨error, failed, carried⟩
      · simp only [live, decoded, Arrival.ends, Arrival.carries, carried, Arrival.item?,
          Arrival.response?, Arrival.fault?]
        cases message with
        | next id response =>
            by_cases own : id = operationId
            · simp [liveMessage, own, Reaction.giving, ServerMessage.kind]
            · simp [liveMessage, own, Reaction.quiet, ServerMessage.kind]
        | error id errors => rfl
        | complete id => rfl
        | connectionAck => rfl
        | ping => rfl
        | pong => rfl
      · simp only [live, failed, Arrival.ends, Arrival.carries, carried, Arrival.item?,
          Arrival.response?, Arrival.fault?]
        rfl

/-- An opening session by what a frame is: it waits and answers a ping, or it subscribes to
the operation, or it is refused. -/
theorem opening_cases (request : Request) (arrival : Arrival) :
    (arrival.waits = true ∧ opening request arrival = ⟨.opening, pongs [arrival], none⟩) ∨
    (arrival.waits = false ∧ arrival.carries .connectionAck = true ∧
      opening request arrival = .sending .live (.subscribe operationId request)) ∨
    (arrival.waits = false ∧ arrival.carries .connectionAck = false ∧
      ∃ fault, opening request arrival = .quiet (.refused fault)) := by
  rw [pongs_singleton]
  cases arrival with
  | binary => exact Or.inl ⟨rfl, rfl⟩
  | close => exact Or.inr (Or.inr ⟨rfl, rfl, _, rfl⟩)
  | loss => exact Or.inr (Or.inr ⟨rfl, rfl, _, rfl⟩)
  | text content =>
      rcases Arrival.text_cases content with ⟨message, decoded, carried⟩ | ⟨error, failed, carried⟩
      · simp only [opening, decoded, Arrival.waits, Arrival.carries, carried]
        cases message with
        | connectionAck => exact Or.inr (Or.inl ⟨rfl, rfl, rfl⟩)
        | ping => exact Or.inl ⟨rfl, rfl⟩
        | pong => exact Or.inr (Or.inr ⟨rfl, rfl, _, rfl⟩)
        | next id response => exact Or.inr (Or.inr ⟨rfl, rfl, _, rfl⟩)
        | error id errors => exact Or.inr (Or.inr ⟨rfl, rfl, _, rfl⟩)
        | complete id => exact Or.inr (Or.inr ⟨rfl, rfl, _, rfl⟩)
      · simp only [opening, failed, Arrival.waits, Arrival.carries, carried]
        exact Or.inr (Or.inr ⟨rfl, rfl, _, rfl⟩)

namespace Arrival

theorem response?_of_ends {arrival : Arrival} (last : arrival.ends = true) :
    arrival.response? = none := by
  cases arrival with
  | binary => rfl
  | close => rfl
  | loss => rfl
  | text content =>
      rcases text_cases content with ⟨message, decoded, carried⟩ | ⟨error, failed, carried⟩
      · simp only [ends, decoded] at last
        rw [response?, carried]
        cases message with
        | next id response => cases last
        | error id errors => rfl
        | complete id => rfl
        | connectionAck => rfl
        | ping => rfl
        | pong => rfl
      · rw [response?, carried]

theorem fault?_of_goes_on {arrival : Arrival} (goes_on : arrival.ends = false) :
    arrival.fault? = none := by
  cases arrival with
  | binary => rfl
  | close => rfl
  | loss => cases goes_on
  | text content =>
      rcases text_cases content with ⟨message, decoded, _⟩ | ⟨error, failed, _⟩
      · simp only [ends, decoded] at goes_on
        simp only [fault?, decoded]
        cases message with
        | error id errors => cases goes_on
        | next id response => rfl
        | complete id => rfl
        | connectionAck => rfl
        | ping => rfl
        | pong => rfl
      · simp only [ends, failed] at goes_on
        cases goes_on

/-- What a caller receives of frames, one after the other. -/
def items (arrivals : List Arrival) : List Item := arrivals.filterMap item?

theorem items_cons (arrival : Arrival) (rest : List Arrival) :
    items (arrival :: rest) = arrival.item?.toList ++ items rest := by
  unfold items
  rw [List.filterMap_cons]
  cases arrival.item? <;> rfl

end Arrival

section Consumed

variable {arrival : Arrival} (rest : List Arrival)

theorem consumed_of_ends (last : arrival.ends = true) : consumed (arrival :: rest) = [arrival] :=
  if_pos last

theorem consumed_of_goes_on (goes_on : arrival.ends = false) :
    consumed (arrival :: rest) = arrival :: consumed rest :=
  if_neg (by simp [goes_on])

/-- What an operation gives is what the caller receives of the frames that it reads. -/
theorem items_consumed (stream : List Arrival) :
    Arrival.items (consumed stream) = givenOf stream := by
  induction stream with
  | nil => rfl
  | cons arrival rest ih =>
      unfold givenOf at ih ⊢
      by_cases last : arrival.ends = true
      · rw [consumed_of_ends rest last, Arrival.items_cons, Arrival.item?,
          Arrival.response?_of_ends last, List.find?_cons_of_pos last]
        simp [Arrival.items, Arrival.response?_of_ends last]
      · have goes_on := eq_false_of_ne_true last
        rw [consumed_of_goes_on rest goes_on, Arrival.items_cons, ih, Arrival.item?,
          Arrival.fault?_of_goes_on goes_on, List.find?_cons_of_neg last, List.filterMap_cons]
        cases arrival.response? <;> rfl

end Consumed

/-! ## Runs -/

/-- A session that is refused, or that has ended, does nothing about what arrives. -/
theorem proceed_idle (request : Request) {stage : Stage}
    (idle : ∀ arrival, react request stage arrival = .quiet stage) (sent : List ClientMessage)
    (items : List Item) (arrivals : List Arrival) :
    proceed request ⟨stage, sent, items⟩ arrivals = ⟨stage, sent, items⟩ := by
  induction arrivals with
  | nil => rfl
  | cons arrival rest ih =>
      rw [proceed, idle arrival]
      simpa [Record.after, Reaction.quiet] using ih

/-- A live session reads up to the frame that ends its operation. -/
theorem proceed_live (request : Request) (sent : List ClientMessage) (items : List Item)
    (arrivals : List Arrival) :
    proceed request ⟨.live, sent, items⟩ arrivals =
      ⟨if arrivals.any Arrival.ends then .ended else .live,
        sent ++ pongs (consumed arrivals), items ++ Arrival.items (consumed arrivals)⟩ := by
  induction arrivals generalizing sent items with
  | nil => simp [proceed, consumed, pongs, Arrival.items]
  | cons arrival rest ih =>
      rw [proceed, react, live_eq, Record.after]
      by_cases last : arrival.ends = true
      · rw [if_pos last, proceed_idle request (fun _ => rfl), consumed_of_ends rest last,
          Arrival.items_cons, List.any_cons, last]
        simp [Arrival.items]
      · have goes_on := eq_false_of_ne_true last
        rw [if_neg last, ih, consumed_of_goes_on rest goes_on, Arrival.items_cons,
          pongs_cons arrival (consumed rest), List.any_cons, goes_on]
        simp

/-- An opening session answers the pings of the handshake. If the handshake is
acknowledged, it subscribes to the operation and is live. -/
theorem proceed_opening (request : Request) (sent : List ClientMessage) (items : List Item)
    (arrivals : List Arrival) :
    (acknowledged? arrivals = none ∧ ∃ stage, stage ≠ .live ∧
      proceed request ⟨.opening, sent, items⟩ arrivals =
        ⟨stage, sent ++ pongs (handshake arrivals), items⟩) ∨
    ∃ stream, acknowledged? arrivals = some stream ∧
      proceed request ⟨.opening, sent, items⟩ arrivals =
        proceed request
          ⟨.live, sent ++ pongs (handshake arrivals) ++ [.subscribe operationId request], items⟩
          stream := by
  induction arrivals generalizing sent with
  | nil => exact Or.inl ⟨rfl, .opening, by simp, by simp [proceed, handshake, pongs]⟩
  | cons arrival rest ih =>
      rw [proceed, react]
      rcases opening_cases request arrival with
        ⟨waits, answered⟩ | ⟨speaks, accepted, subscribed⟩ | ⟨speaks, refused, fault, quiet⟩
      · have same : acknowledged? (arrival :: rest) = acknowledged? rest := by
          rw [acknowledged?, List.dropWhile_cons_of_pos waits, acknowledged?]
        have longer : pongs (handshake (arrival :: rest)) =
            pongs [arrival] ++ pongs (handshake rest) := by
          rw [handshake, List.takeWhile_cons_of_pos waits, pongs_cons, handshake]
        rw [answered, same, longer, ← List.append_assoc]
        simpa [Record.after] using ih (sent ++ pongs [arrival])
      · have none_left : handshake (arrival :: rest) = [] :=
          List.takeWhile_cons_of_neg (by simp [speaks])
        refine Or.inr ⟨rest, ?_, ?_⟩
        · rw [acknowledged?, List.dropWhile_cons_of_neg (by simp [speaks])]
          exact if_pos accepted
        · rw [subscribed, none_left]
          simp [Record.after, Reaction.sending, pongs]
      · have none_left : handshake (arrival :: rest) = [] :=
          List.takeWhile_cons_of_neg (by simp [speaks])
        refine Or.inl ⟨?_, .refused fault, by simp, ?_⟩
        · rw [acknowledged?, List.dropWhile_cons_of_neg (by simp [speaks])]
          exact if_neg (by simp [refused])
        · rw [quiet, none_left, Record.after, proceed_idle request (fun _ => rfl)]
          simp [Reaction.quiet, pongs]

theorem dropped_of_not_live (canSend : Bool) {stage : Stage} (idle : stage ≠ .live) :
    dropped canSend stage = [] := by
  cases stage with
  | live => exact absurd rfl idle
  | opening => rfl
  | refused fault => rfl
  | ended => rfl

/-- What a session says and gives that reads frames and is dropped then. -/
theorem run_eq (payload : Option Json) (request : Request) (canSend : Bool)
    (arrivals : List Arrival) :
    (run payload request arrivals).sent ++ dropped canSend (run payload request arrivals).stage =
        said payload request canSend arrivals ∧
      (run payload request arrivals).items = given arrivals := by
  have start : run payload request arrivals =
      proceed request ⟨.opening, [.connectionInit payload], []⟩ arrivals := rfl
  rw [start, said, given]
  rcases proceed_opening request [.connectionInit payload] [] arrivals with
    ⟨unacknowledged, stage, idle, reached⟩ | ⟨stream, acknowledged, reached⟩
  · rw [reached, unacknowledged, dropped_of_not_live canSend idle]
    exact ⟨by simp, rfl⟩
  · rw [reached, proceed_live, acknowledged, items_consumed]
    refine ⟨?_, rfl⟩
    by_cases ended : stream.any Arrival.ends = true
    · simp [saidOf, ended, dropped]
    · simp [saidOf, ended, dropped]

def userSubscription : Request where
  text := "subscription user \x7b user \x7d"
  values := []
  operationName := none

end GraphBatch.Session
