import QueryCanvas.Value

/-!
# Faults

The kinds of failure that can be reported, and faults: failures that a collaborator (the schema
reader, the warehouse) reports with a text of its own. Failures that the console finds itself have
types of their own and name their kind with `FaultKind`.
-/

namespace QueryCanvas

/-- The kinds of failure. A collaborator may report a kind that the console does not name: a foreign kind
has a name of its own, and may count as the end of a time limit and as one of the execution kinds. -/
inductive FaultKind where
  | runtime
  | badValue
  | missingKey
  | wrongType
  | missingMethod
  | timeout
  | connection
  | permission
  | abandoned
  | builder
  | reference
  | validation
  | execution
  | queryTimeout
  | sessionBusy
  | queryCancelled
  | nothingToExecute
  | readOnlyViolation
  | foreign (name : String) (isTimeout isExecution : Bool)
  deriving DecidableEq, Repr

namespace FaultKind

/-- The kinds that the console names, in order of declaration. -/
def all : List FaultKind :=
  [.runtime, .badValue, .missingKey, .wrongType, .missingMethod, .timeout, .connection, .permission, .abandoned,
   .builder, .reference, .validation, .execution, .queryTimeout, .sessionBusy, .queryCancelled, .nothingToExecute,
   .readOnlyViolation]

/-- The name under which reports and logs show a kind. -/
def name : FaultKind → String
  | .runtime => "RuntimeError"
  | .badValue => "ValueError"
  | .missingKey => "KeyError"
  | .wrongType => "TypeError"
  | .missingMethod => "AttributeError"
  | .timeout => "TimeoutError"
  | .connection => "ConnectionError"
  | .permission => "PermissionError"
  | .abandoned => "CancelledError"
  | .builder => "QueryBuilderError"
  | .reference => "QueryReferenceError"
  | .validation => "QueryValidationError"
  | .execution => "QueryExecutionError"
  | .queryTimeout => "QueryTimeoutError"
  | .sessionBusy => "SessionBusyError"
  | .queryCancelled => "QueryCancelledError"
  | .nothingToExecute => "NothingToExecuteError"
  | .readOnlyViolation => "ReadOnlyViolationError"
  | .foreign name _ _ => name

/-- The kind that the console gives a name. -/
def ofName? (s : String) : Option FaultKind :=
  all.find? fun k => k.name == s

/-- Whether a kind says that some time limit has ended. -/
def isTimeout : FaultKind → Bool
  | .timeout => true
  | .foreign _ isTimeout _ => isTimeout
  | _ => false

/-- Whether a kind says that the warehouse could not produce rows. -/
def isExecution : FaultKind → Bool
  | .execution | .queryTimeout | .sessionBusy | .queryCancelled | .nothingToExecute | .readOnlyViolation => true
  | .foreign _ _ isExecution => isExecution
  | _ => false

/-- Whether a kind is one of the query builder's own. -/
def isBuilder : FaultKind → Bool
  | .builder | .reference | .validation => true
  | k => k.isExecution

/-- The response status that reports a kind. -/
def status : FaultKind → Nat
  | .reference => 404
  | .validation => 422
  | .nothingToExecute => 400
  | .sessionBusy => 409
  | .queryTimeout => 504
  | k => if k.isExecution then 502 else 400

/-- A named kind is found by its name. -/
theorem ofName?_name : ∀ k ∈ all, ofName? k.name = some k := by decide +kernel

end FaultKind

/-- A failure that a collaborator reports: its kind and the text it came with, if any. -/
structure Fault where
  kind : FaultKind
  argument : Option String
  deriving DecidableEq, Repr

namespace Fault

/-- The text of a fault: a missing key is shown quoted, a missing table is named, any other fault
has the text it came with. -/
def message (f : Fault) : String :=
  match f.kind, f.argument with
  | _, none => ""
  | .missingKey, some s => Text.quoted s
  | .reference, some s => "Unknown table '" ++ s ++ "'"
  | _, some s => s

/-- The text of a fault, or the name of its kind if it has none. -/
def reason (f : Fault) : String :=
  if f.message = "" then f.kind.name else f.message

/-- A fault whose message is given. -/
def ofMessage (kind : FaultKind) (s : String) : Fault :=
  ⟨kind, some s⟩

end Fault

end QueryCanvas
