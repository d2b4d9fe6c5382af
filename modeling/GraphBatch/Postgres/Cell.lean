import GraphBatch.Catalog.Registry
import GraphBatch.Text.Utf8
import GraphBatch.Transport.Fault

/-!
# Database cells

Introspection reads names, type names, flags and positions. A cell comes as the
bytes of its column's type, or not at all, and becomes a JSON value. Columns of
any other type are refused, whether or not their cells have bytes.
-/

namespace GraphBatch.Postgres

inductive CellType where
  | text
  | bool
  /-- A whole number of a width in bytes, with its sign. -/
  | int (width : Nat)
deriving DecidableEq, Repr

def CellType.ofName? (name : String) : Option CellType :=
  if ["text", "varchar", "name"].contains name then some .text
  else if name = "bool" then some .bool
  else if name = "int2" then some (.int 2)
  else if name = "int4" then some (.int 4)
  else if name = "int8" then some (.int 8)
  else none

/-- The number that bytes spell, the most significant first. -/
def natOfBytes (bytes : List Nat) : Nat :=
  bytes.foldl (fun number byte => number * 256 + byte) 0

/-- The number that bytes spell in two's complement. -/
def intOfBytes (bytes : List Nat) : Int :=
  Int.bmod (natOfBytes bytes) (Nat.pow 256 bytes.length)

/-- The bytes of a number in two's complement, the most significant first. -/
def bytesOfInt : Nat → Int → List Nat
  | 0, _ => []
  | width + 1, number => bytesOfInt width (number / 256) ++ [(number % 256).toNat]

def CellType.read? : CellType → List Nat → Option Json
  | .text, bytes => (Text.ofUtf8? bytes).map .str
  | .bool, [byte] => some (.bool (byte ≠ 0))
  | .bool, _ => none
  | .int width, bytes =>
      if bytes.length = width then some (.int (intOfBytes bytes)) else none

/-- The width in bytes in which whole numbers are sent to a column of a type. -/
def intWidth : Option CellType → Nat
  | some (.int width) => width
  | _ => 4

/-- The bytes in which a column of a type is sent a value; a list is sent as the
bytes that it holds, and any other value not at all. -/
def sentBytes (type : Option CellType) : Json → Option (List Nat)
  | .str text => some (Text.toUtf8 text.toList)
  | .bool value => some [if value then 1 else 0]
  | .int number => some (bytesOfInt (intWidth type) number)
  | .arr items => some (items.filterMap fun
      | .int byte => some byte.toNat
      | _ => none)
  | _ => none

/-- A column of an answer: its name and the name of its type. -/
structure AnswerColumn where
  name : String
  type : String
deriving DecidableEq, Repr

/-- A cell as it is sent: its bytes, unless it is null. -/
abbrev Cell := Option (List Nat)

def AnswerColumn.read (column : AnswerColumn) (cell : Cell) : Transported Json :=
  match CellType.ofName? column.type, cell with
  | none, _ =>
      .error (.reported (.invalidIntrospection
        ("column `" ++ column.name ++ "` has unsupported type `" ++ column.type ++ "`")))
  | some _, none => .ok .null
  | some type, some bytes =>
      match type.read? bytes with
      | some value => .ok value
      | none => .error .database

def readCells : List (AnswerColumn × Cell) → Transported (List (String × Json))
  | [] => .ok []
  | (column, cell) :: rest => do
      let value ← column.read cell
      let values ← readCells rest
      .ok ((column.name, value) :: values)

/-- The row that cells make: of columns with one name the first place and the
last value count. -/
def readRow (columns : List AnswerColumn) (cells : List Cell) : Transported Catalog.Row := do
  let values ← readCells (columns.zip cells)
  .ok (Entries.ofPairs values)

inductive Answer where
  | rows (columns : List AnswerColumn) (cells : List (List Cell))
  /-- A query that fails, with the code of the failing state. -/
  | refused (code : String)
  /-- A database that goes away. -/
  | hangup
deriving DecidableEq, Repr

def Answer.read : Answer → Transported (List Catalog.Row)
  | .rows columns cells => cells.mapM (readRow columns)
  | .refused code => .error (.refusedQuery code)
  | .hangup => .error .database

/-- Asks a database whose answer is known: the queries that reach it, and the rows.
A query is sent with a zero at its end, so one that holds a zero is not sent. -/
def ask (sql : String) (answer : Answer) : List String × Transported (List Catalog.Row) :=
  if sql.toList.contains '\x00' then ([], .error .database) else ([sql], answer.read)

end GraphBatch.Postgres
