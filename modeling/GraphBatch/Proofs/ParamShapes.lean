import Mathlib.Data.Option.Basic
import GraphBatch.Params.Basic
import GraphBatch.Proofs.RecordMembers
import GraphBatch.Proofs.SelectionGrammar

/-!
# The shapes of params

The values that give a read or the writes to a table, and what the params they hold are
then. A `null` stands for a param that is left out, except where a param is a selection
or has to be given.
-/

namespace GraphBatch

namespace Json

/-- `null`, or a value of a kind. -/
def OrNull (fits : Json → Prop) (value : Json) : Prop := value = .null ∨ fits value

def IsText (value : Json) : Prop := ∃ text, value = .str text

def IsTexts (value : Json) : Prop := ∃ texts, value = ofStrings texts

/-- A whole number that 64 bits hold. -/
def IsCount (value : Json) : Prop := ∃ number, number < Nat.pow 2 64 ∧ value = ofNat number

/-- What is given by a member: nothing if it is left out or `null`. -/
def present? : Option Json → Option Json
  | some .null => none
  | given => given

theorem present?_some {value : Json} (differ : value ≠ .null) :
    present? (some value) = some value := by
  cases value with
  | null => exact absurd rfl differ
  | bool | int | float | str | arr | obj => rfl

end Json

open Json (IsText IsTexts IsCount Given present?)

namespace Select

/-- A member that a read may be given, with its value. -/
@[mk_iff]
inductive Param : String → Json → Prop where
  | table {value : Json} (fits : value.OrNull IsText) : Param "table" value
  | filter {value : Json} : Param "where" value
  | order {value : Json} : Param "order_by" value
  | limit {value : Json} (fits : value.OrNull IsCount) : Param "limit" value
  | offset {value : Json} (fits : value.OrNull IsCount) : Param "offset" value
  | distinctOn {value : Json} (fits : value.OrNull IsTexts) : Param "distinct_on" value
  | fields {value : Json} (fits : Selection.Accepts value) : Param "fields" value
  | fragment {value : Json} (fits : value.OrNull IsText) : Param "fragment" value

def Accepts (value : Json) : Prop :=
  ∃ members : Entries Json, value = .obj members ∧
    ∀ member ∈ members, Param member.1 member.2

/-- A read that holds what is given by members, and nothing else. -/
structure Holds (members : Entries Json) (select : Select) : Prop where
  table : select.table.map .str = present? (members.find? "table")
  filter : select.filter = present? (members.find? "where")
  order : select.order = present? (members.find? "order_by")
  limit : select.limit.map .ofNat = present? (members.find? "limit")
  offset : select.offset.map .ofNat = present? (members.find? "offset")
  distinctOn : select.distinctOn.map .ofStrings = present? (members.find? "distinct_on")
  fields : select.fields = ((members.find? "fields").map Selection.ofJson).getD []
  fragment : select.fragment.map .str = present? (members.find? "fragment")

end Select

namespace Insert

/-- A member that an insert may be given, with its value. -/
@[mk_iff]
inductive Param : String → Json → Prop where
  | objects {value : Json} : Param "objects" value
  | onConflict {value : Json} : Param "on_conflict" value
  | returning {value : Json} (fits : Selection.Accepts value) : Param "returning" value

def Accepts (value : Json) : Prop :=
  ∃ members : Entries Json, value = .obj members ∧
    (∀ member ∈ members, Param member.1 member.2) ∧ "objects" ∈ members.keys

/-- An insert that holds what is given by members, and nothing else. -/
structure Holds (members : Entries Json) (insert : Insert) : Prop where
  objects : insert.objects = .ofOption (members.find? "objects")
  onConflict : insert.onConflict = present? (members.find? "on_conflict")
  returning : insert.returning = ((members.find? "returning").map Selection.ofJson).getD []

end Insert

namespace Update

/-- A member that an update may be given, with its value. -/
@[mk_iff]
inductive Param : String → Json → Prop where
  | filter {value : Json} : Param "where" value
  | setMarked {value : Json} : Param "_set" value
  | set {value : Json} : Param "set" value
  | incrementMarked {value : Json} : Param "_inc" value
  | increment {value : Json} : Param "inc" value
  | returning {value : Json} (fits : Selection.Accepts value) : Param "returning" value

/-- A value that gives an update: new values and increments in one spelling at most. -/
def Accepts (value : Json) : Prop :=
  ∃ members : Entries Json, value = .obj members ∧
    (∀ member ∈ members, Param member.1 member.2) ∧ "where" ∈ members.keys ∧
    ¬ ("set" ∈ members.keys ∧ "_set" ∈ members.keys) ∧
    ¬ ("inc" ∈ members.keys ∧ "_inc" ∈ members.keys)

/-- An update that holds what is given by members, and nothing else. -/
structure Holds (members : Entries Json) (update : Update) : Prop where
  filter : update.filter = .ofOption (members.find? "where")
  set : update.set = present? ((members.find? "set").or (members.find? "_set"))
  increment : update.increment = present? ((members.find? "inc").or (members.find? "_inc"))
  returning : update.returning = ((members.find? "returning").map Selection.ofJson).getD []

end Update

namespace Delete

/-- A member that a deletion may be given, with its value. -/
@[mk_iff]
inductive Param : String → Json → Prop where
  | filter {value : Json} : Param "where" value
  | returning {value : Json} (fits : Selection.Accepts value) : Param "returning" value

def Accepts (value : Json) : Prop :=
  ∃ members : Entries Json, value = .obj members ∧
    (∀ member ∈ members, Param member.1 member.2) ∧ "where" ∈ members.keys

/-- A deletion that holds what is given by members, and nothing else. -/
structure Holds (members : Entries Json) (delete : Delete) : Prop where
  filter : delete.filter = .ofOption (members.find? "where")
  returning : delete.returning = ((members.find? "returning").map Selection.ofJson).getD []

end Delete

namespace Write

/-- A member that the writes to a table may be given, with its value. -/
@[mk_iff]
inductive Param : String → Json → Prop where
  | insert {value : Json} (fits : value.OrNull Insert.Accepts) : Param "insert" value
  | update {value : Json} (fits : value.OrNull Update.Accepts) : Param "update" value
  | delete {value : Json} (fits : value.OrNull Delete.Accepts) : Param "delete" value

def Accepts (value : Json) : Prop :=
  ∃ members : Entries Json, value = .obj members ∧
    ∀ member ∈ members, Param member.1 member.2

/-- Writes that hold what is given by members, and nothing else. -/
structure Holds (members : Entries Json) (write : Write) : Prop where
  insert : Option.Rel (Given Insert.Holds) (present? (members.find? "insert")) write.insert
  update : Option.Rel (Given Update.Holds) (present? (members.find? "update")) write.update
  delete : Option.Rel (Given Delete.Holds) (present? (members.find? "delete")) write.delete

/-- A value in which no write is given as a list. -/
def Unlisted (value : Json) : Prop :=
  ∀ members : Entries Json, value = .obj members →
    ∀ (action : Action) (given : Json), (action.text, given) ∈ members → ¬ given.IsList

end Write

end GraphBatch
