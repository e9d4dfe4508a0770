import QueryCanvas.Sql.Statement

/-!
# Runs

One run of a statement against the warehouse: what the warehouse may answer, and what becomes of the
answer. A run that is called off ends cancelled if its cancellation was asked for, and is abandoned by
its caller otherwise; a failure of the warehouse that is none of the execution kinds is wrapped in one.
-/

namespace QueryCanvas

/-- A row of a result: names and values in order. -/
abbrev Row := List (String × Value)

/-- The rows that a statement gave. -/
structure QueryResult where
  sql : String
  rows : List Row
  deriving Repr

/-- The names in the first row. -/
def QueryResult.columns (r : QueryResult) : List String :=
  match r.rows with
  | [] => []
  | row :: _ => row.map (·.1)

/-- What comes of a statement that was handed to the warehouse: rows or none, a fault, nothing
within the time limit, or that nobody waits any more. -/
inductive Answer where
  | rows (rows : Option (List Row))
  | fault (f : Fault)
  | silence
  | abandoned
  deriving Repr

/-- How strongly an answer ends the wait for it: the end of the time limit counts although the
warehouse has answered, and that nobody waits any more counts in any case. -/
def Answer.force : Answer → Nat
  | .rows _ | .fault _ => 0
  | .silence => 1
  | .abandoned => 2

/-- A run under way: the statement, and whether its cancellation was asked for. -/
structure Run where
  sql : String
  cancelRequested : Bool
  deriving DecidableEq, Repr

/-- Why an execution gave no rows. -/
inductive RunError where
  | nothing
  | busy
  | uncompilable (e : Sql.CompileError)
  | timedOut (limit : Value)
  | cancelled
  | passedOn (f : Fault)
  | wrapped (f : Fault)
  | abandoned
  deriving Repr

namespace RunError

/-- The kind a failed execution is reported as. -/
def kind : RunError → FaultKind
  | .nothing => .nothingToExecute
  | .busy => .sessionBusy
  | .uncompilable e => e.kind
  | .timedOut _ => .queryTimeout
  | .cancelled => .queryCancelled
  | .passedOn f => f.kind
  | .wrapped _ => .execution
  | .abandoned => .abandoned

/-- The wording of a failed execution. -/
def message : RunError → String
  | .nothing => "No tables selected, nothing to execute"
  | .busy => "A query is already executing in this session"
  | .uncompilable e => e.message
  | .timedOut limit => "Query did not complete within " ++ limit.toText ++ " seconds"
  | .cancelled => "Query execution was cancelled"
  | .passedOn f => f.message
  | .wrapped f => f.reason
  | .abandoned => ""

/-- The kind of the failure behind a failed execution, if it was wrapped. -/
def cause? : RunError → Option FaultKind
  | .wrapped f => some f.kind
  | _ => none

end RunError

/-- What an execution gives. -/
abbrev Outcome := Except RunError QueryResult

/-- What a fault of the warehouse makes of an execution: its own time limit counts as the run's. -/
def RunError.ofFault (limit : Value) (f : Fault) : RunError :=
  if f.kind.isTimeout then .timedOut limit
  else if f.kind.isExecution then .passedOn f
  else .wrapped f

/-- What becomes of a run that is called off: it ends cancelled only if that was asked for. -/
def Run.calledOff (run : Run) : RunError :=
  if run.cancelRequested then .cancelled else .abandoned

/-- What becomes of a run under a time limit that goes on with an answer. -/
def Run.outcome (limit : Value) (run : Run) : Answer → Outcome
  | .rows rows => .ok ⟨run.sql, rows.getD []⟩
  | .fault f => .error (if f.kind = .abandoned then run.calledOff else RunError.ofFault limit f)
  | .silence => .error (.timedOut limit)
  | .abandoned => .error run.calledOff

end QueryCanvas
