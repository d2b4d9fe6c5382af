import GraphBatch.Entries
import GraphBatch.Binary64.Basic

/-!
# JSON values

A value keeps the order of its object members. Whole numbers from `-2 ^ 63` to
`2 ^ 64 - 1` are exact; every other number is a 64-bit floating point number.
-/

namespace GraphBatch

inductive Json where
  | null
  | bool (value : Bool)
  | int (value : Int)
  | float (value : Binary64)
  | str (value : String)
  | arr (items : List Json)
  | obj (members : List (String × Json))
deriving Repr, Inhabited, BEq

namespace Json

/-- The greatest whole number that is kept exactly: `2 ^ 64 - 1`. -/
def greatestInt : Int := 18446744073709551615

def ofNat (value : Nat) : Json := .int value

def ofStrings (texts : List String) : Json := .arr (texts.map .str)

/-- The absent value is `null`. -/
def ofOption (value : Option Json) : Json := value.getD .null

def members? : Json → Option (Entries Json)
  | .obj members => some members
  | _ => none

def member? (value : Json) (name : String) : Option Json := do
  (← value.members?).find? name

def empty : Json := .obj []

@[simp] theorem members?_obj (members : List (String × Json)) :
    (Json.obj members).members? = some members := rfl

@[simp] theorem member?_obj (members : List (String × Json)) (name : String) :
    (Json.obj members).member? name = Entries.find? members name := rfl

end Json

end GraphBatch
