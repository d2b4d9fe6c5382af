import Mathlib.Data.List.Basic
import GraphBatch.Proofs.Composability
import GraphBatch.Response.Reshape

/-!
# Results of mutations

The rows that a mutation returns stand at its root fields; the caller expects
them by table and action. For a compiled mutation the one arrangement becomes the
other exactly: every present action of every table finds its own rows, whatever
the names of the tables are. If rows are missing, the error names the first root
field, in document order, that has none.
-/

namespace GraphBatch

def Action.rootName : Action → String → String
  | .insert, table => "insert_" ++ table
  | .update, table => "update_" ++ table
  | .delete, table => "delete_" ++ table

theorem Action.root_eq_rootName (action : Action) (table : Table) :
    action.root table = action.rootName table.name := by
  cases action <;> rfl

theorem Write.nodup_action_texts (write : Write) :
    (write.actions.map Action.text).Nodup := by
  have all : (Action.all.map Action.text).Nodup := by decide
  exact all.sublist (List.Sublist.map Action.text List.filter_sublist)

theorem Write.actions_eq_nil {write : Write} :
    write.actions = [] ↔ write.isEmpty = true := by
  obtain ⟨insert, update, delete⟩ := write
  cases insert <;> cases update <;> cases delete <;>
    simp [actions, Action.all, has, isEmpty]

namespace Mutation

/-- The present actions of a mutation with their tables, in order. -/
def parts (mutation : Mutation) : List (String × Action) :=
  mutation.tables.flatMap fun entry => entry.2.actions.map fun action => (entry.1, action)

def arranged (mutation : Mutation) (rows : String → Action → Json) : Json :=
  .obj ((mutation.tables.filter fun entry => !entry.2.isEmpty).map fun entry =>
    (entry.1, .obj (entry.2.actions.map fun action => (action.text, rows entry.1 action))))

end Mutation

namespace Response

/-- The rows that a response holds for a root field. -/
def returned? (response : Json) (root : String) : Option Json :=
  (response.member? root).bind fun field => field.member? "returning"

def partPath (part : String × Action) : FlatPath :=
  ⟨⟨[part.1, part.2.text]⟩, ⟨[part.2.rootName part.1, "returning"]⟩⟩

variable {response : Json}

/-! ## Resolving one root field -/

theorem resolve_eq_ok {part : String × Action} {rows : Json} :
    resolve response (partPath part).endpoint = .ok rows ↔
      returned? response (part.2.rootName part.1) = some rows := by
  unfold resolve returned? partPath
  simp only [follow]
  cases response.member? (part.2.rootName part.1) with
  | none => simp
  | some field =>
      dsimp only [Option.bind]
      cases field.member? "returning" with
      | none => simp
      | some found => simp

/-- A root field is unresolved because it is missing itself, or because it has no
rows. -/
theorem resolve_eq_error {part : String × Action} {error : Error}
    (failed : resolve response (partPath part).endpoint = .error error) :
    (response.member? (part.2.rootName part.1) = none ∧
        error = .malformedResponse (part.2.rootName part.1 ++ ".returning")
          (part.2.rootName part.1)) ∨
      ∃ field, response.member? (part.2.rootName part.1) = some field ∧
        field.member? "returning" = none ∧
        error = .malformedResponse (part.2.rootName part.1 ++ ".returning") "returning" := by
  have named : (partPath part).endpoint.text = part.2.rootName part.1 ++ ".returning" := by
    simp [partPath, Path.text, String.append_assoc]
  unfold resolve at failed
  rw [named] at failed
  unfold partPath at failed
  simp only [follow] at failed
  cases first : response.member? (part.2.rootName part.1) with
  | none =>
      rw [first] at failed
      cases failed
      exact Or.inl ⟨rfl, rfl⟩
  | some field =>
      rw [first] at failed
      dsimp only at failed
      cases second : field.member? "returning" with
      | none =>
          rw [second] at failed
          cases failed
          exact Or.inr ⟨field, rfl, second, rfl⟩
      | some found =>
          rw [second] at failed
          cases failed

/-! ## Writing one result -/

/-- Rows under a table that has none yet. -/
theorem writeAt_fresh (path : Path) (rows : Json) (action : String)
    {members : Entries Json} {key : String} (fresh : key ∉ members.keys) :
    writeAt path rows [key, action] (.obj members) =
      .ok (.obj (members ++ [(key, .obj [(action, rows)])])) := by
  have absent : members.find? key = none := (Entries.find?_eq_none_iff members key).mpr fresh
  simp only [writeAt, Json.members?_obj, absent, Option.getD_none, Json.empty, Entries.put]
  rw [← Entries.put_of_not_mem members _ fresh]
  rfl

/-- Rows beside the rows of other actions on the same table. -/
theorem writeAt_beside (path : Path) (rows : Json) {members inner : Entries Json}
    {key action : String} (fresh : key ∉ members.keys) (free : action ∉ inner.keys) :
    writeAt path rows [key, action] (.obj (members ++ [(key, .obj inner)])) =
      .ok (.obj (members ++ [(key, .obj (inner ++ [(action, rows)]))])) := by
  have held : Entries.find? (members ++ [(key, Json.obj inner)]) key = some (.obj inner) := by
    rw [Entries.find?_append_of_not_mem members _ fresh]
    simp [Entries.find?]
  simp only [writeAt, Json.members?_obj, held, Option.getD_some]
  rw [Entries.put_of_not_mem inner rows free]
  change Except.ok (Json.obj (Entries.put _ _ _)) = _
  rw [Entries.put_append_of_not_mem members _ _ fresh]
  simp [Entries.put]

/-- An object whose members are objects. -/
def Nested (target : Json) : Prop :=
  ∃ members : Entries Json, target = .obj members ∧
    ∀ member ∈ members, ∃ inner, member.2 = .obj inner

/-- Writing at a table and an action never fails on nested objects, and leaves
nested objects. -/
theorem Nested.writeAt {target : Json} (nested : Nested target) (path : Path) (rows : Json)
    (key action : String) :
    ∃ next, Response.writeAt path rows [key, action] target = .ok next ∧ Nested next := by
  obtain ⟨members, rfl, inside⟩ := nested
  have child : ∃ inner, (members.find? key).getD .empty = .obj inner := by
    cases found : members.find? key with
    | none => exact ⟨[], rfl⟩
    | some held =>
        obtain ⟨inner, same⟩ := inside _ (Entries.mem_of_find? found)
        exact ⟨inner, same⟩
  obtain ⟨inner, same⟩ := child
  refine ⟨.obj (members.put key (.obj (Entries.put inner action rows))), ?_, _, rfl, ?_⟩
  · simp only [Response.writeAt, Json.members?_obj, same]
    rfl
  · intro member stored
    rcases Entries.mem_put stored with written | kept
    · exact ⟨_, by rw [written]⟩
    · exact inside member kept

/-! ## A run over all parts -/

theorem remapInto_append (first second : List FlatPath) (target : Json) :
    remapInto response (first ++ second) target =
      remapInto response first target >>= remapInto response second := by
  induction first generalizing target with
  | nil => rfl
  | cons flatPath rest ih =>
      rw [List.cons_append, remapInto, remapInto]
      cases resolve response flatPath.endpoint with
      | error error => rfl
      | ok value =>
          change (writeAt _ _ _ _ >>= _) = (writeAt _ _ _ _ >>= _) >>= _
          cases writeAt flatPath.caller value flatPath.caller.segments target with
          | error error => rfl
          | ok next => exact ih next

theorem remapInto_cons_of_written {flatPath : FlatPath} {rest : List FlatPath}
    {target value next : Json} (resolved : resolve response flatPath.endpoint = .ok value)
    (written : writeAt flatPath.caller value flatPath.caller.segments target = .ok next) :
    remapInto response (flatPath :: rest) target = remapInto response rest next := by
  rw [remapInto, resolved]
  change (writeAt _ _ _ _ >>= _) = _
  rw [written]
  rfl

section Arranging

variable {rows : String → Action → Json}

/-- The rows of further actions on a table join those that are there. -/
theorem remapInto_actions_beside {members inner : Entries Json} {key : String}
    {actions : List Action} (fresh : key ∉ members.keys)
    (free : (inner.keys ++ actions.map Action.text).Nodup)
    (returned : ∀ action ∈ actions,
      returned? response (action.rootName key) = some (rows key action)) :
    remapInto response (actions.map fun action => partPath (key, action))
        (.obj (members ++ [(key, .obj inner)])) =
      .ok (.obj (members ++ [(key, .obj (inner ++ actions.map fun action =>
        (action.text, rows key action)))])) := by
  induction actions generalizing inner with
  | nil => simp [remapInto]
  | cons action rest ih =>
      have absent : action.text ∉ inner.keys := by
        intro inside
        exact (List.nodup_append.mp free).2.2 _ inside _ (by simp) rfl
      have resolved : resolve response (partPath (key, action)).endpoint =
          .ok (rows key action) :=
        resolve_eq_ok.mpr (returned action List.mem_cons_self)
      have written := writeAt_beside (partPath (key, action)).caller (rows key action)
        fresh absent
      rw [List.map_cons, remapInto_cons_of_written resolved written, ih]
      · simp
      · simpa using free
      · exact fun one inside => returned one (List.mem_cons_of_mem _ inside)

/-- The rows of the actions on one table, if there are any, make one member. -/
theorem remapInto_actions {members : Entries Json} {key : String} {actions : List Action}
    (some_action : actions ≠ []) (fresh : key ∉ members.keys)
    (free : (actions.map Action.text).Nodup)
    (returned : ∀ action ∈ actions,
      returned? response (action.rootName key) = some (rows key action)) :
    remapInto response (actions.map fun action => partPath (key, action)) (.obj members) =
      .ok (.obj (members ++ [(key, .obj (actions.map fun action =>
        (action.text, rows key action)))])) := by
  cases actions with
  | nil => exact absurd rfl some_action
  | cons action rest =>
      have resolved : resolve response (partPath (key, action)).endpoint =
          .ok (rows key action) :=
        resolve_eq_ok.mpr (returned action List.mem_cons_self)
      have written := writeAt_fresh (partPath (key, action)).caller (rows key action)
        action.text fresh
      rw [List.map_cons, remapInto_cons_of_written resolved written,
        remapInto_actions_beside fresh (by simpa using free)
          fun one inside => returned one (List.mem_cons_of_mem _ inside)]
      rfl

/-- The rows of tables that have none yet are added table by table. -/
theorem remapInto_tables {tables : Entries Write} {members : Entries Json}
    (fresh : (members.keys ++ tables.keys).Nodup)
    (returned : ∀ entry ∈ tables, ∀ action ∈ entry.2.actions,
      returned? response (action.rootName entry.1) = some (rows entry.1 action)) :
    remapInto response
        (tables.flatMap fun entry => entry.2.actions.map fun action =>
          partPath (entry.1, action)) (.obj members) =
      .ok (.obj (members ++ (tables.filter fun entry => !entry.2.isEmpty).map fun entry =>
        (entry.1, .obj (entry.2.actions.map fun action =>
          (action.text, rows entry.1 action))))) := by
  induction tables generalizing members with
  | nil => simp [remapInto]
  | cons entry rest ih =>
      obtain ⟨key, write⟩ := entry
      have absent : key ∉ members.keys := by
        intro inside
        exact (List.nodup_append.mp fresh).2.2 _ inside _ (by simp) rfl
      have later : ∀ entry ∈ rest, ∀ action ∈ entry.2.actions,
          returned? response (action.rootName entry.1) = some (rows entry.1 action) :=
        fun entry inside => returned entry (List.mem_cons_of_mem _ inside)
      rw [List.flatMap_cons, remapInto_append]
      by_cases blank : write.isEmpty = true
      · have none_present : write.actions = [] := Write.actions_eq_nil.mpr blank
        have shorter : (members.keys ++ Entries.keys rest).Nodup :=
          fresh.sublist (List.Sublist.append_left (List.sublist_cons_self _ _) _)
        rw [none_present, List.filter_cons_of_neg (by simp [blank])]
        exact ih shorter later
      · have some_present : write.actions ≠ [] := fun none_present =>
          blank (Write.actions_eq_nil.mp none_present)
        have longer : ((members ++ [(key, Json.obj (write.actions.map fun action =>
            (action.text, rows key action)))] : Entries Json).keys ++
              Entries.keys rest).Nodup := by
          simpa using fresh
        rw [remapInto_actions some_present absent write.nodup_action_texts
          (returned (key, write) List.mem_cons_self),
          List.filter_cons_of_pos (by simpa using blank)]
        refine (ih longer later).trans ?_
        simp

end Arranging

theorem returned?_of_remapInto_eq_ok {parts : List (String × Action)} {target result : Json}
    (moved : remapInto response (parts.map partPath) target = .ok result) :
    ∀ part ∈ parts, ∃ rows, returned? response (part.2.rootName part.1) = some rows := by
  induction parts generalizing target with
  | nil => simp
  | cons first rest ih =>
      obtain ⟨rows, resolved, moved⟩ := Outcome.bind_eq_ok.mp moved
      obtain ⟨next, _, moved⟩ := Outcome.bind_eq_ok.mp moved
      intro part inside
      cases inside with
      | head => exact ⟨rows, resolve_eq_ok.mp resolved⟩
      | tail _ inside => exact ih moved part inside

/-- The error of a run is the one of the first root field that has no rows. -/
theorem remapInto_eq_error {parts : List (String × Action)} {target : Json}
    (nested : Nested target) {error : Error}
    (failed : remapInto response (parts.map partPath) target = .error error) :
    ∃ before part after, parts = before ++ part :: after ∧
      (∀ earlier ∈ before, ∃ rows,
        returned? response (earlier.2.rootName earlier.1) = some rows) ∧
      resolve response (partPath part).endpoint = .error error := by
  induction parts generalizing target with
  | nil => cases failed
  | cons first rest ih =>
      rw [List.map_cons, remapInto] at failed
      cases resolved : resolve response (partPath first).endpoint with
      | error fault =>
          rw [resolved] at failed
          cases failed
          exact ⟨[], first, rest, rfl, by simp, resolved⟩
      | ok rows =>
          obtain ⟨next, written, nested⟩ :=
            nested.writeAt (partPath first).caller rows first.1 first.2.text
          rw [resolved] at failed
          change (writeAt _ rows [first.1, first.2.text] target >>= _) = _ at failed
          rw [written] at failed
          obtain ⟨before, part, after, rfl, earlier, unresolved⟩ := ih nested failed
          refine ⟨first :: before, part, after, rfl, ?_, unresolved⟩
          intro one inside
          cases inside with
          | head => exact ⟨rows, resolve_eq_ok.mp resolved⟩
          | tail _ inside => exact earlier one inside

/-- If every root field has rows, the result is made of exactly these. -/
theorem remap_parts {mutation : Mutation} {rows : String → Action → Json}
    (returned : ∀ part ∈ mutation.parts,
      returned? response (part.2.rootName part.1) = some (rows part.1 part.2)) :
    remap (mutation.parts.map partPath) response = .ok (mutation.arranged rows) := by
  have paths : mutation.parts.map partPath =
      mutation.tables.flatMap fun entry => entry.2.actions.map fun action =>
        partPath (entry.1, action) := by
    simp [Mutation.parts, List.map_flatMap, Function.comp_def]
  have fresh : (Entries.keys ([] : Entries Json) ++ mutation.tables.keys).Nodup :=
    mutation.distinct
  rw [paths]
  refine remapInto_tables fresh ?_
  intro entry inside action present
  exact returned (entry.1, action)
    (List.mem_flatMap.mpr ⟨entry, inside, List.mem_map.mpr ⟨action, present, rfl⟩⟩)

end Response

/-! ## The results of a compiled mutation -/

def Writing.part (writing : Writing) : String × Action :=
  (writing.key, writing.action)

theorem name_of_mem_writings {catalog : Catalog} {writes : List (String × Write)}
    {writing : Writing} (inside : writing ∈ writings catalog writes) :
    writing.table.name = writing.key :=
  Catalog.name_of_get? (of_mem_writings inside).2.2

/-- If every key is a table, no action is left out. -/
theorem parts_writings {catalog : Catalog} {writes : List (String × Write)}
    (known : ∀ entry ∈ writes, ∃ table, catalog.get? entry.1 = some table) :
    (writings catalog writes).map Writing.part =
      writes.flatMap fun entry => entry.2.actions.map fun action => (entry.1, action) := by
  rw [writings, List.map_flatMap]
  refine List.flatMap_congr ?_
  intro entry inside
  obtain ⟨table, found⟩ := known entry inside
  simp [found, Write.writings, Writing.part]

theorem flatPaths_writings {catalog : Catalog} {writes : List (String × Write)}
    (known : ∀ entry ∈ writes, ∃ table, catalog.get? entry.1 = some table) :
    (writings catalog writes).map Writing.flatPath =
      (writes.flatMap fun entry => entry.2.actions.map fun action => (entry.1, action)).map
        Response.partPath := by
  rw [← parts_writings known, List.map_map]
  refine List.map_congr_left ?_
  intro writing inside
  simp [Writing.flatPath, Writing.root, Writing.part, Response.partPath,
    Action.root_eq_rootName, name_of_mem_writings inside]

theorem flatPaths_drafts (items : List Writing) (index : Nat) :
    (Writing.drafts items index).filterMap Draft.flatPath = items.map Writing.flatPath := by
  have own : ∀ (item : Writing) number,
      (item.draft number).flatPath = (some ∘ Writing.flatPath) item := fun _ _ => rfl
  rw [← List.filterMap_eq_map]
  exact filterMap_numbered own items index

/-- The flat paths of a compiled mutation: one for every action that is present. -/
theorem Document.flatPaths_ofMutation {catalog : Catalog} {mutation : Mutation}
    {document : Document} (compiled : Document.ofMutation catalog mutation = .ok document) :
    document.flatPaths = mutation.parts.map Response.partPath := by
  obtain ⟨known, composed⟩ := Document.ofMutation_eq_ok compiled
  rw [(Document.composedOf composed).flatPaths, flatPaths_drafts]
  exact flatPaths_writings known

/-- Moving the results of a compiled mutation to its caller: it succeeds exactly
if every root field has rows; it then gives every action its own rows and nothing
else; and otherwise the error names the first root field that has none. -/
theorem remap_ofMutation {catalog : Catalog} {mutation : Mutation} {document : Document}
    (compiled : Document.ofMutation catalog mutation = .ok document) (response : Json) :
    ((∃ result, Response.remap document.flatPaths response = .ok result) ↔
      ∀ part ∈ mutation.parts, ∃ field rows,
        response.member? (part.2.rootName part.1) = some field ∧
        field.member? "returning" = some rows) ∧
    (∀ result, Response.remap document.flatPaths response = .ok result →
      ∃ rows : String → Action → Json, result = mutation.arranged rows ∧
        ∀ part ∈ mutation.parts, Response.returned? response (part.2.rootName part.1) =
          some (rows part.1 part.2)) ∧
    ∀ error, Response.remap document.flatPaths response = .error error →
      ∃ before part after, mutation.parts = before ++ part :: after ∧
        (∀ earlier ∈ before, ∃ rows,
          Response.returned? response (earlier.2.rootName earlier.1) = some rows) ∧
        ((response.member? (part.2.rootName part.1) = none ∧
            error = .malformedResponse (part.2.rootName part.1 ++ ".returning")
              (part.2.rootName part.1)) ∨
          ∃ field, response.member? (part.2.rootName part.1) = some field ∧
            field.member? "returning" = none ∧
            error = .malformedResponse (part.2.rootName part.1 ++ ".returning")
              "returning") := by
  rw [Document.flatPaths_ofMutation compiled]
  let rows : String → Action → Json := fun key action =>
    (Response.returned? response (action.rootName key)).getD .null
  -- If every root field has rows, they are the ones that `rows` reads.
  have complete (all : ∀ part ∈ mutation.parts, ∃ found,
      Response.returned? response (part.2.rootName part.1) = some found) :
      ∀ part ∈ mutation.parts, Response.returned? response (part.2.rootName part.1) =
        some (rows part.1 part.2) := by
    intro part inside
    obtain ⟨found, held⟩ := all part inside
    simp [rows, held]
  refine ⟨⟨?_, ?_⟩, ?_, ?_⟩
  · rintro ⟨result, moved⟩ part inside
    obtain ⟨found, held⟩ := Response.returned?_of_remapInto_eq_ok moved part inside
    obtain ⟨field, first, second⟩ := Option.bind_eq_some_iff.mp held
    exact ⟨field, found, first, second⟩
  · intro all
    refine ⟨mutation.arranged rows, Response.remap_parts (complete ?_)⟩
    intro part inside
    obtain ⟨field, found, first, second⟩ := all part inside
    exact ⟨found, Option.bind_eq_some_iff.mpr ⟨field, first, second⟩⟩
  · intro result moved
    have returned := complete (Response.returned?_of_remapInto_eq_ok moved)
    rw [Response.remap_parts returned] at moved
    cases moved
    exact ⟨rows, rfl, returned⟩
  · intro error failed
    obtain ⟨before, part, after, split, earlier, unresolved⟩ :=
      Response.remapInto_eq_error ⟨[], rfl, by simp⟩ failed
    exact ⟨before, part, after, split, earlier, Response.resolve_eq_error unresolved⟩

def separatedCatalog : Catalog where
  tables := [
    ("a.b", ⟨"a.b", .baseTable, [], ["id"]⟩),
    ("a_b", ⟨"a_b", .baseTable, [("id", ⟨"id", "integer", "int4"⟩)], []⟩)]
  distinct := by decide
  named := by decide

def separatedMutation : Mutation where
  tables := [
    ("a_b", ⟨some (.ofObjects .empty), none, some (.ofFilter .empty)⟩),
    ("a.b", ⟨none, none, some (.ofFilter .empty)⟩)]
  distinct := by decide

/-- Every action gets its own rows, `null` included. -/
theorem remap_ofMutation_separated :
    ∃ document, Document.ofMutation separatedCatalog separatedMutation = .ok document ∧
      ∃ rows : String → Action → Json,
        Response.remap document.flatPaths (.obj [
            ("delete_a.b", .obj [("returning", .arr [])]),
            ("insert_a_b", .obj [("returning", .null)]),
            ("delete_a_b", .obj [("returning", .bool true)])]) =
          .ok (separatedMutation.arranged rows) ∧
        rows "a_b" .insert = .null ∧ rows "a.b" .delete = .arr [] := by
  obtain ⟨document, compiled⟩ :
      ∃ document, Document.ofMutation separatedCatalog separatedMutation = .ok document :=
    ⟨_, rfl⟩
  obtain ⟨succeeds, own, _⟩ := remap_ofMutation compiled (.obj [
    ("delete_a.b", .obj [("returning", .arr [])]),
    ("insert_a_b", .obj [("returning", .null)]),
    ("delete_a_b", .obj [("returning", .bool true)])])
  obtain ⟨result, moved⟩ := succeeds.mpr (by
    intro part inside
    have listed : part ∈ [("a_b", Action.insert), ("a_b", .delete), ("a.b", .delete)] := inside
    simp only [List.mem_cons, List.not_mem_nil, or_false] at listed
    rcases listed with rfl | rfl | rfl <;> exact ⟨_, _, rfl, rfl⟩)
  obtain ⟨rows, rfl, held⟩ := own result moved
  refine ⟨document, compiled, rows, moved, ?_, ?_⟩
  · exact (Option.some.inj (held ("a_b", .insert) (by decide))).symm
  · exact (Option.some.inj (held ("a.b", .delete) (by decide))).symm

end GraphBatch
