import GraphBatch.Proofs.Session.Conduct

/-!
# Messages of other operations

A session carries one operation, and a server may speak of others. A response to
another operation is passed over. An error or a completion ends the session whatever
operation it is about. So messages of other operations leave a session as it is, at
every point, exactly if the frame that ends the session is not one of them.
-/

namespace GraphBatch.Session

namespace Arrival

/-- Whether a frame carries a message of another operation. -/
def foreign (arrival : Arrival) : Bool :=
  match arrival.message? with
  | some (.next id _) => id ≠ operationId
  | some (.error id _) => id ≠ operationId
  | some (.complete id) => id ≠ operationId
  | _ => false

end Arrival

def ownFrames (arrivals : List Arrival) : List Arrival :=
  arrivals.filter fun arrival => !arrival.foreign

/-- At every point of what arrives, a session has done what it does without messages of
other operations: it has said the same, given the same, and stands the same. -/
def Undisturbed (request : Request) (record : Record) (arrivals : List Arrival) : Prop :=
  ∀ count, proceed request record (ownFrames (arrivals.take count)) =
    proceed request record (arrivals.take count)

/-- A message of another operation that does not end the session is passed over. -/
theorem live_of_foreign {arrival : Arrival} (foreign : arrival.foreign = true)
    (goes_on : arrival.ends = false) : live arrival = .quiet .live := by
  cases arrival with
  | binary => cases foreign
  | close => cases foreign
  | loss => cases foreign
  | text content =>
      rcases Arrival.text_cases content with ⟨message, decoded, carried⟩ | ⟨error, failed, carried⟩
      · simp only [Arrival.foreign, carried] at foreign
        simp only [Arrival.ends, decoded] at goes_on
        simp only [live, decoded]
        cases message with
        | next id response =>
            have other : id ≠ operationId := of_decide_eq_true foreign
            rw [liveMessage, if_neg other]
        | error id errors => cases goes_on
        | complete id => cases goes_on
        | connectionAck => cases foreign
        | ping => cases foreign
        | pong => cases foreign
      · simp only [Arrival.foreign, carried] at foreign
        cases foreign

/-- A response does not end an operation. -/
theorem goes_on_of_next {arrival : Arrival} (carried : arrival.carries .next = true) :
    arrival.ends = false := by
  cases arrival with
  | binary => cases carried
  | close => cases carried
  | loss => cases carried
  | text content =>
      rcases Arrival.text_cases content with ⟨message, decoded, held⟩ | ⟨error, failed, held⟩
      · rw [Arrival.carries, held] at carried
        have kind : message.kind = .next := of_decide_eq_true carried
        simp [Arrival.ends, decoded, kind]
      · rw [Arrival.carries, held] at carried
        cases carried

/-- The frame that ends an operation is the last that the operation reads. -/
theorem find?_of_mem_consumed {arrival : Arrival} {arrivals : List Arrival}
    (read : arrival ∈ consumed arrivals) (last : arrival.ends = true) :
    arrivals.find? Arrival.ends = some arrival := by
  induction arrivals with
  | nil => cases read
  | cons first rest ih =>
      by_cases first_last : first.ends = true
      · rw [consumed_of_ends rest first_last] at read
        rw [List.mem_singleton.mp read, List.find?_cons_of_pos first_last]
      · rw [consumed_of_goes_on rest (eq_false_of_ne_true first_last)] at read
        rw [List.find?_cons_of_neg first_last]
        rcases List.mem_cons.mp read with rfl | later
        · exact absurd last first_last
        · exact ih later

/-- Frames that a live session passes over may be left out. -/
theorem proceed_filter (request : Request) {keep : Arrival → Bool} {record : Record}
    (is_live : record.stage = .live) {arrivals : List Arrival}
    (passed : ∀ arrival ∈ consumed arrivals, keep arrival = false →
      live arrival = .quiet .live) :
    proceed request record (arrivals.filter keep) = proceed request record arrivals := by
  obtain ⟨stage, sent, items⟩ := record
  cases is_live
  induction arrivals generalizing sent items with
  | nil => rfl
  | cons arrival rest ih =>
      by_cases last : arrival.ends = true
      · have kept : keep arrival = true := by
          cases choice : keep arrival with
          | true => rfl
          | false =>
              have inside : arrival ∈ consumed (arrival :: rest) := by
                rw [consumed_of_ends rest last]
                exact List.mem_cons_self
              have quiet := passed arrival inside choice
              rw [live_eq, if_pos last] at quiet
              cases congrArg Reaction.stage quiet
        rw [List.filter_cons_of_pos kept, proceed, proceed, react, live_eq, if_pos last,
          Record.after, proceed_idle request (fun _ => rfl), proceed_idle request (fun _ => rfl)]
      · have goes_on := eq_false_of_ne_true last
        rw [consumed_of_goes_on rest goes_on] at passed
        obtain ⟨here, later⟩ := List.forall_mem_cons.mp passed
        by_cases kept : keep arrival = true
        · rw [List.filter_cons_of_pos kept, proceed, proceed, react, live_eq, if_neg last,
            Record.after]
          exact ih later _ _
        · rw [List.filter_cons_of_neg kept, proceed, react, here (eq_false_of_ne_true kept),
            ih later _ _]
          simp [Record.after, Reaction.quiet]

/-- If a message of another operation does not end the session, the session is undisturbed. -/
theorem undisturbed_of_own_end (request : Request) {record : Record}
    (is_live : record.stage = .live) {arrivals : List Arrival}
    (own : ∀ last, arrivals.find? Arrival.ends = some last → last.foreign = false) :
    Undisturbed request record arrivals := by
  intro count
  refine proceed_filter request is_live ?_
  intro arrival read left_out
  have foreign : arrival.foreign = true := by simpa using left_out
  refine live_of_foreign foreign ?_
  cases last : arrival.ends with
  | false => rfl
  | true =>
      have found := find?_of_mem_consumed read last
      have whole := (List.take_prefix count arrivals).find?_eq_some found
      exact absurd foreign (by simp [own arrival whole])

/-- If a message of another operation ends the session, the session would go on without it. -/
theorem disturbed_of_foreign_end (request : Request) {record : Record}
    (is_live : record.stage = .live) {arrivals : List Arrival} {last : Arrival}
    (found : arrivals.find? Arrival.ends = some last) (foreign : last.foreign = true) :
    ¬ Undisturbed request record arrivals := by
  intro undisturbed
  obtain ⟨ends, before, after, split, fine⟩ := List.find?_eq_some_iff_append.mp found
  have point := undisturbed (before.length + 1)
  have read : arrivals.take (before.length + 1) = before ++ [last] := by
    rw [split, List.append_cons]
    exact List.take_left' (by simp)
  obtain ⟨stage, sent, items⟩ := record
  cases is_live
  have own : ∀ arrival ∈ ownFrames (before ++ [last]), arrival.ends = false := by
    intro arrival inside
    obtain ⟨inside, kept⟩ := List.mem_filter.mp inside
    rcases List.mem_append.mp inside with earlier | here
    · simpa using fine arrival earlier
    · rw [List.mem_singleton.mp here, foreign] at kept
      cases kept
  have without : (ownFrames (before ++ [last])).any Arrival.ends = false :=
    List.any_eq_false.mpr fun arrival inside => by simp [own arrival inside]
  have with_it : (before ++ [last]).any Arrival.ends = true := by simp [ends]
  rw [read, proceed_live, proceed_live, without, with_it] at point
  cases congrArg Record.stage point

/-- An acknowledged session is undisturbed by messages of other operations exactly if it
is not one of them that ends it. Responses to other operations never disturb it. -/
theorem undisturbed_iff (request : Request) (record : Record) (is_live : record.stage = .live)
    (arrivals : List Arrival) :
    (Undisturbed request record arrivals ↔
      ∀ last, arrivals.find? Arrival.ends = some last → last.foreign = false) ∧
    proceed request record
        (arrivals.filter fun arrival => !(arrival.foreign && arrival.carries .next)) =
      proceed request record arrivals := by
  refine ⟨⟨?_, undisturbed_of_own_end request is_live⟩, ?_⟩
  · intro undisturbed last found
    cases foreign : last.foreign with
    | false => rfl
    | true => exact absurd undisturbed (disturbed_of_foreign_end request is_live found foreign)
  · refine proceed_filter request is_live ?_
    intro arrival _ left_out
    obtain ⟨foreign, carried⟩ : arrival.foreign = true ∧ arrival.carries .next = true := by
      simpa using left_out
    exact live_of_foreign foreign (goes_on_of_next carried)

def acknowledgement : Arrival := .text "\x7b\"type\":\"connection_ack\"\x7d"

def responseTo (id : String) : Arrival :=
  .text ("\x7b\"type\":\"next\",\"id\":\"" ++ id ++ "\",\"payload\":\x7b\"data\":1\x7d\x7d")

def completionOf (id : String) : Arrival :=
  .text ("\x7b\"type\":\"complete\",\"id\":\"" ++ id ++ "\"\x7d")

/-- A session whose own operation is completed is undisturbed by a response to another. -/
theorem undisturbed_iff_passed :
    (run none userSubscription [acknowledgement]).stage = .live ∧
      Undisturbed userSubscription (run none userSubscription [acknowledgement])
        [responseTo "2", completionOf "1", completionOf "2"] := by
  have is_live : (run none userSubscription [acknowledgement]).stage = .live := by
    decide +kernel
  have found : [responseTo "2", completionOf "1", completionOf "2"].find? Arrival.ends =
      some (completionOf "1") := by decide +kernel
  refine ⟨is_live, (undisturbed_iff userSubscription _ is_live _).1.mpr ?_⟩
  intro last ended
  cases found.symm.trans ended
  decide +kernel

/-- The completion of another operation ends a session, which would give an item without
it and go on. -/
theorem disturbed_by_completion :
    let record := run none userSubscription [acknowledgement]
    let arrivals := [completionOf "2", responseTo "1"]
    record.stage = .live ∧
      (proceed userSubscription record arrivals).items.length = 0 ∧
      (proceed userSubscription record arrivals).stage = .ended ∧
      (proceed userSubscription record (ownFrames arrivals)).items.length = 1 ∧
      (proceed userSubscription record (ownFrames arrivals)).stage = .live ∧
      ¬ Undisturbed userSubscription record arrivals := by
  intro record arrivals
  have is_live : record.stage = .live := by decide +kernel
  refine ⟨is_live, by decide +kernel, by decide +kernel, by decide +kernel, by decide +kernel,
    ?_⟩
  have found : arrivals.find? Arrival.ends = some (completionOf "2") := by decide +kernel
  exact disturbed_of_foreign_end userSubscription is_live found (by decide +kernel)

end GraphBatch.Session
