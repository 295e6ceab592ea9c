import Latchkey.Error
import Latchkey.Time.Instant

set_option autoImplicit false

/-! # Answers of a database

A database answers a statement with a number of affected rows, with rows of named cells, or with a
fault. Cells are read by the name of their column, and a cell of the wrong kind counts as missing.
-/

namespace Latchkey.Database

/-- Why a statement has no usable answer. -/
inductive Fault
  /-- The server reports an error. -/
  | server (code : Int) (state text : String)
  /-- There is no row where one is needed. -/
  | noRow
  /-- The first row has no column. -/
  | noColumn
  /-- There is nothing where a number is needed. -/
  | nullNumber
  /-- There is something else where a number is needed. -/
  | otherNumber
  /-- The connections were closed before. -/
  | closed
  /-- No connection came about in time. -/
  | late
deriving DecidableEq, Repr

/-- The wording of a fault. -/
def Fault.message : Fault → String
  | .server code state text => s!"error returned from database: {code} ({state}): {text}"
  | .noRow => "no rows returned by a query that expected to return at least one row"
  | .noColumn => "column index out of bounds: the len is 0, but the index is 0"
  | .nullNumber =>
    "error occurred while decoding column 0: unexpected null; try decoding as an \x60Option\x60"
  | .otherNumber => "error occurred while decoding column 0: mismatched types"
  | .closed => "attempted to acquire a connection on a closed pool"
  | .late => "pool timed out while waiting for an open connection"

/-- A cell of a row. -/
inductive Cell
  | null
  | text (text : String)
  | integer (number : Int)
  | flag (value : Bool)
  | time (time : Instant)
deriving DecidableEq, Repr

/-- The cells of a row under the names of their columns. -/
abbrev Row := List (String × Cell)

/-- What a statement is answered with. -/
inductive Answer
  /-- So many rows were changed. -/
  | affected (number : Nat)
  /-- These rows were found. -/
  | rows (list : List Row)

namespace Answer

/-- How many rows were changed. -/
def count : Answer → Nat
  | .affected number => number
  | .rows _ => 0

/-- The rows that were found. -/
def found : Answer → List Row
  | .affected _ => []
  | .rows list => list

/-- The number in the first column of the first row. -/
def number? (answer : Answer) : Except Fault Int :=
  match answer.found with
  | [] => .error .noRow
  | [] :: _ => .error .noColumn
  | ((_, cell) :: _) :: _ =>
    match cell with
    | .integer n => .ok n
    | .flag b => .ok (if b then 1 else 0)
    | .null => .error .nullNumber
    | _ => .error .otherNumber

end Answer

namespace Row

/-- The cell of a column; of several columns of a name the last one counts. -/
def cell? (row : Row) (name : String) : Option Cell :=
  (row.reverse.find? fun cell => cell.1 = name).map (·.2)

/-- What reading a column fails with. -/
def missing (name : String) : Error :=
  .storage ("Failed to get " ++ name ++ ":")

/-- Reads a column. -/
def column {α : Type} (read : Cell → Option α) (row : Row) (name : String) : Except Error α :=
  match (row.cell? name).bind read with
  | some a => .ok a
  | none => .error (missing name)

/-- The text of a column. -/
def text (row : Row) (name : String) : Except Error String :=
  row.column (fun | .text s => some s | _ => none) name

/-- The time of a column. -/
def time (row : Row) (name : String) : Except Error Instant :=
  row.column (fun | .time t => some t | _ => none) name

/-- The time of a column that may be null. -/
def time? (row : Row) (name : String) : Except Error (Option Instant) :=
  row.column (fun | .time t => some (some t) | .null => some none | _ => none) name

/-- The truth value of a column; small numbers other than zero are true. -/
def truth (row : Row) (name : String) : Except Error Bool :=
  row.column
    (fun
      | .flag b => some b
      | .integer n => if -128 ≤ n ∧ n ≤ 127 then some (n != 0) else none
      | _ => none) name

/-- An identifier that was read as text; `noun` says what it identifies. -/
def identifier (noun text : String) : Except Error Uuid :=
  match Uuid.parse text with
  | .ok id => .ok id
  | .error fault => .error (.storage ("Invalid " ++ noun ++ " UUID: " ++ fault.message))

end Row

end Latchkey.Database
