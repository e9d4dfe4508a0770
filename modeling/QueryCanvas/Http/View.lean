import QueryCanvas.Audit.Record
import QueryCanvas.Canvas.Snapshot

/-!
# Views

What responses show of sessions, catalogs, results and the execution log. Values that JSON has no
form for are shown as text, and doubles that are not finite as null.
-/

namespace QueryCanvas.Http

/-- A moment as responses write it: universal time is marked by a letter. -/
def momentText (m : Moment) : String :=
  if m.time.offset = some 0 then
    String.ofList (Calendar.momentChars 'T' { m with time := { m.time with offset := none } } ++ ['Z'])
  else String.ofList (Calendar.momentChars 'T' m)

/-- A time of day as responses write it. -/
def timeText (t : TimeOfDay) : String :=
  if t.offset = some 0 then String.ofList (Calendar.timeChars { t with offset := none } ++ ['Z'])
  else String.ofList (Calendar.timeChars t)

mutual
/-- A value as responses carry it. -/
def wire : Value → Value
  | .float x => if x.isFinite then .float x else .null
  | .decimal d => .text d.text
  | .date d => .text (Value.date d).toText
  | .moment m => .text (momentText m)
  | .time t => .text (timeText t)
  | .list vs | .tuple vs | .unordered vs => .list (wireAll vs)
  | .record fs => .record (wireFields fs)
  | v => v

/-- Values as responses carry them. -/
def wireAll : List Value → List Value
  | [] => []
  | v :: vs => wire v :: wireAll vs

/-- Fields as responses carry them. -/
def wireFields : List (String × Value) → List (String × Value)
  | [] => []
  | (k, v) :: fs => (k, wire v) :: wireFields fs
end

/-- A warning. -/
def warningView (w : Warning) : Value :=
  .record [("table", .text w.table.toText), ("reason", .text w.reason)]

/-- A column of the catalog. -/
def columnView (c : Column) : Value :=
  .record
    [("name", .text c.name), ("declared_type", .text c.declaredType), ("is_primary_key", .bool c.isPrimaryKey),
     ("is_foreign_key", .bool c.isForeignKey), ("is_nullable", .bool c.isNullable),
     ("referenced_table", c.referencedTable), ("referenced_column", c.referencedColumn)]

/-- A table of the catalog. -/
def tableView (t : Table) : Value :=
  .record [("name", .text t.name), ("columns", .list (t.columns.map columnView))]

/-- The catalog of a session. -/
def catalogView (c : Catalog) : Value :=
  .record [("tables", .list (c.tables.map tableView)), ("warnings", .list (c.warnings.map warningView))]

/-- A canvas. -/
def canvasView (c : Canvas) : Value :=
  wire c.toValue

/-- The values that an operand is made of. -/
def operandValues : FilterValue → List Value
  | .scalar v => [v]
  | .list vs => vs
  | .range lo hi => [lo, hi]
  | .none => []

/-- The values that the operands of a canvas are made of. -/
def operandsOf (c : Canvas) : List Value :=
  c.filters.flatMap fun f => operandValues f.value

/-- A statement of a canvas. It is as torn as the first operand in it that is. -/
def statementView (c : Canvas) (sql : String) : Value :=
  ((operandsOf c).find? Value.isTorn).getD (.text sql)

/-- Whether a row about a run of a canvas can be written: its name and its statement are not torn. -/
def isRecordable (c : Canvas) : Bool :=
  !c.name.isTorn && !(operandsOf c).any Value.isTorn

/-- The statement of a session. -/
def sqlView (s : Session) : Except Sql.CompileError Value := do
  let sql ← s.sql
  return .record [("sql", statementView s.canvas sql), ("executable", .bool (Sql.isExecutable sql))]

/-- A session: its canvas, its statement and what is known of its catalog. -/
def sessionView (s : Session) : Except Sql.CompileError Value := do
  let sql ← s.sql
  return .record
    [("session_id", .text s.id), ("query", canvasView s.canvas), ("sql", statementView s.canvas sql),
     ("executable", .bool (Sql.isExecutable sql)), ("is_executing", .bool s.isExecuting),
     ("catalog_table_count", .int s.catalog.tables.length),
     ("catalog_warnings", .list (s.catalog.warnings.map warningView))]

/-- The result of the execution of a canvas. -/
def resultView (c : Canvas) (r : QueryResult) : Value :=
  .record
    [("sql", statementView c r.sql), ("columns", .list (r.columns.map .text)),
     ("rows", .list (r.rows.map fun row => wire (.record row))), ("row_count", .int r.rows.length),
     ("execution_time_ms", .float .zero)]

/-- The summary of the executions of a session. -/
def summaryView (session : String) (s : AuditLog.Summary) : Value :=
  .record
    [("session_id", .text session), ("total", .int s.total), ("succeeded", .int s.succeeded),
     ("failed", .int s.failed)]

end QueryCanvas.Http
