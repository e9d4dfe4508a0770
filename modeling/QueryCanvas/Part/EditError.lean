import QueryCanvas.Fault
import QueryCanvas.Part.Choice

/-!
# Refused edits

Why an edit of the canvas, or the building of one of its parts, is refused. Each refusal has a kind
and one wording.
-/

namespace QueryCanvas

/-- The shapes a filter value can have. -/
inductive FilterShape where
  | scalar | list | range | none
  deriving DecidableEq, Repr

/-- The name of a shape in messages. -/
def FilterShape.name : FilterShape → String
  | .scalar => "ScalarValue"
  | .list => "ListValue"
  | .range => "RangeValue"
  | .none => "NoValue"

/-- The five collections whose items have an id of their own. -/
inductive PartKind where
  | join | filter | sort | group | aggregate
  deriving DecidableEq, Repr

/-- The singular name of a kind of item. -/
def PartKind.name : PartKind → String
  | .join => "join"
  | .filter => "filter"
  | .sort => "sort"
  | .group => "group"
  | .aggregate => "aggregate"

/-- A failed reference to a table or to one of its columns, with a wording of its own if it has
one. -/
structure Reference where
  table : Value
  column : Value
  wording : Value
  deriving Repr

/-- The wording of a failed reference: its own, or that the table or the column is unknown. -/
def Reference.message (r : Reference) : String :=
  match r.wording, r.column with
  | .null, .null => "Unknown table '" ++ r.table.toText ++ "'"
  | .null, c => "Unknown column '" ++ r.table.toText ++ "." ++ c.toText ++ "'"
  | w, _ => w.toText

/-- Why an edit is refused. -/
inductive EditError where
  | unknownTable (table : Value)
  | unknownColumn (table column : Value)
  | notOnCanvas (table : Value)
  | notSelected (table column : Value)
  | notAChoice (what : String) (given : Value) (allowed : List String)
  | notAnOperator (given : Value)
  | aliasNotPlain (name : Value)
  | operandMissing (operator : FilterOperator)
  | operandNotSingle (operator : FilterOperator) (typeName : String)
  | operandRefused (operator : FilterOperator)
  | operandsMissing
  | boundsMissing
  | shapeMismatch (operator : FilterOperator) (expected got : FilterShape)
  | noSuchPart (kind : PartKind) (id : Value)
  | limitNotWhole (given : Value)
  | limitNegative (given : Int)
  | nameBlank
  | keyMissing (key : String)
  | wrongType
  | missingMethod
  deriving Repr

namespace EditError

/-- The kind a refusal is reported as. -/
def kind : EditError → FaultKind
  | .unknownTable _ | .unknownColumn .. | .notOnCanvas _ | .notSelected .. => .reference
  | .notAnOperator _ => .badValue
  | .keyMissing _ => .missingKey
  | .wrongType => .wrongType
  | .missingMethod => .missingMethod
  | _ => .validation

/-- The wording of a refusal. -/
def message : EditError → String
  | .unknownTable t => Reference.message ⟨t, .null, .null⟩
  | .unknownColumn t c => Reference.message ⟨t, c, .null⟩
  | .notOnCanvas t => "Table '" ++ t.toText ++ "' is not part of the query"
  | .notSelected t c => "Column '" ++ t.toText ++ "." ++ c.toText ++ "' is not selected"
  | .notAChoice what given allowed =>
    "Invalid " ++ what ++ " '" ++ given.toText ++ "'. Expected one of: " ++ ", ".intercalate allowed
  | .notAnOperator given => given.display ++ " is not a valid FilterOperator"
  | .aliasNotPlain name => "Alias '" ++ name.toText ++ "' must be a plain identifier"
  | .operandMissing o => "Operator '" ++ o.name ++ "' requires a value"
  | .operandNotSingle o ty => "Operator '" ++ o.name ++ "' requires a single value, got " ++ ty
  | .operandRefused o => "Operator '" ++ o.name ++ "' does not take a value"
  | .operandsMissing => "Operator 'in' requires at least one value"
  | .boundsMissing => "Operator 'between' requires a value with 'min' and 'max'"
  | .shapeMismatch o expected got =>
    "Operator '" ++ o.name ++ "' requires " ++ expected.name ++ ", got " ++ got.name
  | .noSuchPart kind id => "No " ++ kind.name ++ " with id '" ++ id.toText ++ "'"
  | .limitNotWhole given => "Limit must be an integer, got " ++ given.display
  | .limitNegative n => "Limit must not be negative, got " ++ toString n
  | .nameBlank => "Query name must not be blank"
  | .keyMissing key => Text.quoted key
  | .wrongType | .missingMethod => ""

/-- The values that the wording of a refusal gives as they are, neither quoted nor counted. -/
def given : EditError → List Value
  | .unknownTable t | .notOnCanvas t => [t]
  | .unknownColumn t c | .notSelected t c => [t, c]
  | .notAChoice _ v _ | .aliasNotPlain v | .noSuchPart _ v => [v]
  | _ => []

/-- The table and the column that a failed reference names. -/
def reference? : EditError → Option (Value × Value)
  | .unknownTable t | .notOnCanvas t => some (t, .null)
  | .unknownColumn t c | .notSelected t c => some (t, c)
  | _ => none

end EditError

end QueryCanvas
