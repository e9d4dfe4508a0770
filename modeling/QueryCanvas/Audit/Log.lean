import QueryCanvas.Session.Basic

/-!
# The execution log

One row per execution that reached the warehouse. Rows are only ever added, get ascending numbers,
and are read by the value of one column, counted by the values of several, or listed newest first.
-/

namespace QueryCanvas

/-- What is recorded of an execution. -/
structure AuditEntry where
  sessionId : String
  queryId : Value
  queryName : Value
  sql : String
  rowCount : Option Int
  executionTime : Option Numeral.Binary64
  success : Bool
  errorType : Option String
  errorMessage : Option String
  executedAt : Value
  deriving Repr

/-- A recorded execution and its number. -/
structure AuditRow extends AuditEntry where
  id : Nat
  deriving Repr

namespace AuditRow

/-- A number that may be missing. -/
def optionalInt : Option Int → Value
  | none => .null
  | some n => .int n

/-- A double that may be missing. -/
def optionalFloat : Option Numeral.Binary64 → Value
  | none => .null
  | some x => .float x

/-- The columns of a row with their values. -/
def columns (r : AuditRow) : List (String × Value) :=
  [("id", .int r.id), ("session_id", .text r.sessionId), ("query_id", r.queryId), ("query_name", r.queryName),
   ("sql_text", .text r.sql), ("row_count", optionalInt r.rowCount),
   ("execution_time_ms", optionalFloat r.executionTime), ("success", .bool r.success),
   ("error_type", Canvas.optionalText r.errorType), ("error_message", Canvas.optionalText r.errorMessage),
   ("executed_at", r.executedAt)]

/-- The value of a column. -/
def column? (r : AuditRow) (name : String) : Option Value :=
  Value.field? r.columns name

end AuditRow

namespace AuditLog

/-! ## Comparing cells -/

/-- A number as a double-precision one, for truth values and numbers. -/
def cellNumber? : Value → Option Numeral.Binary64
  | .bool b => some (.ofInt b.toNat)
  | .int n => some (.ofInt n)
  | .float x => some x
  | _ => none

/-- The order of two cells: a missing value comes first, numbers before texts. -/
def compareCells (a b : Value) : Ordering :=
  match a, b with
  | .null, .null => .eq
  | .null, _ => .lt
  | _, .null => .gt
  | .int m, .int n => compare m n
  | _, _ =>
    match cellNumber? a, cellNumber? b with
    | some x, some y => (x.compare? y).getD .eq
    | some _, none => .lt
    | none, some _ => .gt
    | none, none => compare a.toText b.toText

/-- Whether a cell has a given value; a text cell also equals a number that is written so. -/
def cellMatches (cell wanted : Value) : Bool :=
  match cell, wanted with
  | .null, w => match w with
    | .null => true
    | _ => false
  | _, .null => false
  | .text s, w => s == w.toText
  | c, .text s => c.toText == s
  | c, w => compareCells c w == .eq

/-! ## Reading -/

/-- The first `limit` items; all of them for no limit and for a negative one. -/
def limited {α : Type} (limit : Option Int) (xs : List α) : List α :=
  match limit with
  | none => xs
  | some n => if n < 0 then xs else xs.take n.toNat

/-- The rows in descending order of a column; rows of equal value keep their order. -/
def descending (name : String) (rows : List AuditRow) : List AuditRow :=
  rows.mergeSort fun a b =>
    compareCells ((a.column? name).getD .null) ((b.column? name).getD .null) != .lt

/-- The names of the columns. -/
def columnNames : List String :=
  ["id", "session_id", "query_id", "query_name", "sql_text", "row_count", "execution_time_ms", "success",
   "error_type", "error_message", "executed_at"]

/-- The rows in which a column has a value, at most `limit`, in descending order of `orderBy` if that
is a column. There are none if the column does not exist. -/
def byField (rows : List AuditRow) (name : String) (wanted : Value) (limit : Option Int)
    (orderBy : Option String) : List AuditRow :=
  let found := rows.filter fun r => (r.column? name).any (cellMatches · wanted)
  limited limit
    (match orderBy with
    | some o => if columnNames.contains o then descending o found else found
    | none => found)

/-- The rows of a session, newest first. -/
def bySession (rows : List AuditRow) (session : Value) (limit : Option Int) : List AuditRow :=
  byField rows "session_id" session limit (some "executed_at")

/-- Whether a row passes a filter; a filter without value, or on no column, lets every row pass. -/
def passes (r : AuditRow) (filter : String × Value) : Bool :=
  match filter.2, r.column? filter.1 with
  | .null, _ => true
  | _, none => true
  | wanted, some cell => cellMatches cell wanted

/-- The number of rows that pass all filters. -/
def count (rows : List AuditRow) (filters : List (String × Value)) : Nat :=
  rows.countP fun r => filters.all (passes r)

/-- Adds a row with the next number. -/
def create (rows : List AuditRow) (entry : AuditEntry) : AuditRow × List AuditRow :=
  let row : AuditRow := { entry with id := rows.length + 1 }
  (row, rows ++ [row])

/-! ## Summary -/

/-- How many executions of a session are recorded, by outcome. -/
structure Summary where
  total : Nat
  succeeded : Nat
  failed : Nat
  deriving DecidableEq, Repr

/-- The summary of a session. -/
def summary (rows : List AuditRow) (session : String) : Summary :=
  let total := count rows [("session_id", .text session)]
  let failed := count rows [("session_id", .text session), ("success", .bool false)]
  ⟨total, total - failed, failed⟩

end AuditLog

end QueryCanvas
