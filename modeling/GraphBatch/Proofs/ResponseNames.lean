import GraphBatch.Client.Basic
import GraphBatch.Proofs.Composability
import GraphBatch.Proofs.Forwarding

/-!
# Names in responses

A response to a query has one member for each root field, under the response name
of the field. These names are the keys of the batch, in order, whichever table a
key reads. So the key that a single read is flattened to is the name of the only
root field, and what a subscription delivers for a message is what the query
would have returned for it.
-/

namespace GraphBatch

def Query.rootFields (query : Query) (catalog : Catalog) : List RootField :=
  (Reading.drafts (readings catalog query.tables) 0).map Draft.rootField

/-- The response name of a read is its key: the alias is left out only where the
table has that name itself. -/
theorem Reading.responseName_draft (reading : Reading) (index : Nat) :
    (reading.draft index).rootField.responseName = reading.key := by
  unfold RootField.responseName Draft.rootField Reading.draft
  by_cases same : reading.key = reading.table.name
  · simp [same]
  · simp [same]

theorem Reading.responseNames_drafts (items : List Reading) (index : Nat) :
    ((Reading.drafts items index).map Draft.rootField).map RootField.responseName =
      items.map Reading.key := by
  rw [List.map_map]
  exact map_numbered Reading.responseName_draft items index

/-- The text of a document for a query is that of its fragments and of one
operation with its root fields. -/
theorem Document.text_ofReads {kind : OperationKind} {catalog : Catalog} {query : Query}
    {document : Document} (compiled : Document.ofReads kind catalog query = .ok document) :
    ∃ fragments declared, document.text = Document.fragmentsText fragments ++
      Document.operationText kind document.operationName declared
        ((query.rootFields catalog).map RootField.render) := by
  obtain ⟨_, _, composed⟩ := Document.ofReads_eq_ok compiled
  have text := (Document.composedOf composed).text
  rw [← Document.fragmentsText_fragmentTexts] at text
  exact ⟨_, _, text⟩

theorem Query.responseNames {kind : OperationKind} {catalog : Catalog} {query : Query}
    {document : Document} (compiled : Document.ofReads kind catalog query = .ok document) :
    (query.rootFields catalog).map RootField.responseName = query.tables.keys := by
  obtain ⟨keys, _⟩ := Document.ofReads_eq_ok compiled
  exact (Reading.responseNames_drafts _ 0).trans keys

namespace Query

theorem flattenKey?_of_many {query : Query}
    (whole : query.flattenSingle = false ∨ 1 < query.tables.length) :
    query.flattenKey? = none := by
  unfold flattenKey?
  split
  · rename_i key select single one
    rw [single, one] at whole
    simp at whole
  · rfl

theorem flattenKey?_of_single {query : Query} {key : String}
    (single : query.flattenSingle = true) (one : query.tables.keys = [key]) :
    query.flattenKey? = some key := by
  unfold flattenKey?
  obtain ⟨⟨name, select⟩, tables, rfl⟩ := List.map_eq_singleton_iff.mp one
  rw [single, tables]

end Query

/-! ## Flattening -/

namespace Response

theorem flatten_of_member {data value : Json} {members : Entries Json} {key : String}
    (object : data = .obj members) (held : members.find? key = some value) :
    flatten data (some key) = .ok value := by
  simp [flatten, object, held]

theorem flatten_of_no_member {data : Json} {key : String}
    (missing : ∀ members, data = .obj members → key ∉ Entries.keys members) :
    flatten data (some key) = .error (.malformedResponse key key) := by
  have absent : data.member? key = none := by
    cases data with
    | obj members =>
        exact (Entries.find?_eq_none_iff members key).mpr (missing members rfl)
    | _ => rfl
  simp [flatten, absent]

end Response

/-! ## Clients -/

namespace Client

variable {ε σ : Type} {client : Client ε σ} {query : Query} {document : Document}

def answered (client : Client ε σ) (query : Query) (message : Outcome Json) : Outcome Json :=
  (client.query (fun _ (state : Unit) _ => (state, message)) query ()).2

theorem query_of_served {ω : Type} {serve : ε → Serving ω Json} {state next : ω}
    {message : Outcome Json}
    (compiled : Document.ofQuery client.catalog query = .ok document)
    (served : serve client.executor state document.request = (next, message)) :
    client.query serve query state =
      (next, message >>= fun data => Response.flatten data query.flattenKey?) := by
  unfold Client.query run
  rw [compiled]
  dsimp only
  rw [served]
  cases message with
  | error error => rfl
  | ok data => rfl

theorem answered_eq (compiled : Document.ofQuery client.catalog query = .ok document)
    (message : Outcome Json) :
    client.answered query message =
      message >>= fun data => Response.flatten data query.flattenKey? := by
  unfold answered
  rw [query_of_served compiled rfl]

theorem flattenKey_of_subscribe {ω δ : Type} {serve : σ → Serving ω δ} {state next : ω}
    {opened : Opened δ}
    (subscribed : client.subscribe serve query state = (next, .ok opened)) :
    opened.flattenKey = query.flattenKey? := by
  unfold subscribe at subscribed
  split at subscribed
  · cases subscribed
  · cases subscribed
  · split at subscribed
    · cases subscribed
    · cases subscribed
      rfl

end Client

def aliasedClient : Client Unit Unit where
  catalog := {
    tables := [("post", ⟨"post", .baseTable, [("id", ⟨"id", "integer", "int4"⟩)], ["id"]⟩)]
    distinct := by decide
    named := by decide }
  executor := ()
  subscriber := some ()

/-- One read of the table under another name. -/
def aliasedQuery : Query where
  tables := [("recent", ⟨some "post", none, none, some 3, none, none, [], some ""⟩)]
  flattenSingle := true
  distinct := by decide

end GraphBatch
