import QueryCanvas.Audit.Log
import QueryCanvas.Text.Shortened

/-!
# Recording executions

What the execution log says about the outcome of an execution. Executions that were refused before
they reached the warehouse are not recorded, and a failed write is not noticed by anyone.
-/

namespace QueryCanvas

namespace AuditEntry

/-- The most characters of an error message that are kept. -/
def maxMessage : Nat := 1000

/-- Whether a failed execution is recorded. -/
def isRecorded (e : RunError) : Bool :=
  e.kind.isExecution && e.kind != .nothingToExecute && e.kind != .sessionBusy

/-- What is recorded of an execution, with the statement it ran and the canvas that the session has
when it ends. -/
def ofOutcome (s : Session) (sql : String) (outcome : Outcome) (executedAt : Value) : Option AuditEntry :=
  let entry : AuditEntry :=
    { sessionId := s.id
      queryId := s.canvas.id
      queryName := s.canvas.name
      sql := sql
      rowCount := none
      executionTime := none
      success := false
      errorType := none
      errorMessage := none
      executedAt := executedAt }
  match outcome with
  | .ok r =>
    some { entry with
      sql := r.sql, rowCount := some r.rows.length, executionTime := some .zero, success := true }
  | .error e =>
    if isRecorded e then
      some { entry with errorType := some e.kind.name, errorMessage := some (Text.shortened maxMessage e.message) }
    else none

end AuditEntry

/-- The execution log, or that it can be neither written nor read. -/
abbrev AuditStore := Option (List AuditRow)

namespace AuditStore

/-- Records an execution, if it is one to record and the log can be written. -/
def record (store : AuditStore) (s : Session) (sql : String) (outcome : Outcome) (clock : Clock) :
    AuditStore × Clock :=
  match store with
  | none => (none, clock)
  | some rows =>
    let (now, after) := clock.read
    match AuditEntry.ofOutcome s sql outcome (.moment (Calendar.afterNewYear now)) with
    | none => (some rows, clock)
    | some entry => (some (AuditLog.create rows entry).2, after)

end AuditStore

end QueryCanvas
