import QueryCanvas.Part.FilterValue
import QueryCanvas.Text.Blank

/-!
# Parts of a query

What is placed on a canvas besides tables: selected columns, joins, filters, sorts, groups and
aggregates; the ids that five of them carry; aliases, which must be plain identifiers because they are
written into the statement; and the names of queries.
-/

namespace QueryCanvas

/-- A supply of ids that never gives one twice: it counts the ids given so far. -/
structure IdSupply where
  given : Nat
  deriving DecidableEq, Repr

namespace IdSupply

/-- A supply that has given no id yet. -/
def fresh : IdSupply := ⟨0⟩

/-- The `n`-th id. -/
def nth (n : Nat) : String :=
  "id-" ++ toString n

/-- The next id and the supply after it. -/
def next (s : IdSupply) : String × IdSupply :=
  (nth (s.given + 1), ⟨s.given + 1⟩)

end IdSupply

/-- A column that the statement selects. -/
structure SelectedColumn where
  table : String
  column : String
  aliasName : Option String
  deriving DecidableEq, Repr

/-- A join edge; the right table is the one that the join clause names. -/
structure Join where
  id : String
  leftTable : String
  leftColumn : String
  rightTable : String
  rightColumn : String
  kind : JoinKind
  deriving DecidableEq, Repr

/-- A condition on a column. -/
structure Filter where
  id : String
  table : String
  column : String
  operator : FilterOperator
  value : FilterValue
  connective : Option Connective
  deriving Repr

/-- A column that orders the rows. -/
structure Sorting where
  id : String
  table : String
  column : String
  direction : Direction
  deriving DecidableEq, Repr

/-- A column that groups the rows. -/
structure Grouping where
  id : String
  table : String
  column : String
  deriving DecidableEq, Repr

/-- A function over the values of a column. -/
structure Aggregate where
  id : String
  function : Aggregation
  table : String
  column : String
  aliasName : Option String
  deriving DecidableEq, Repr

/-- Whether a character may start a plain identifier. -/
def isIdentifierStart (c : Char) : Bool :=
  c.isAlpha || c == '_'

/-- Whether a text is a plain identifier: a letter or underscore, then letters, digits and
underscores. -/
def isPlainIdentifier (s : String) : Bool :=
  match s.toList with
  | [] => false
  | c :: cs => isIdentifierStart c && cs.all fun c => c.isAlphanum || c == '_'

/-- The alias that a loose value gives: none if it is missing or blank, else the trimmed text, which
has to be a plain identifier. -/
def aliasOf (v : Value) : Except EditError (Option String) :=
  match v with
  | .null => .ok none
  | .text s =>
    let name := Text.trim s
    if name = "" then .ok none
    else if isPlainIdentifier name then .ok (some name)
    else .error (.aliasNotPlain (.text name))
  | .torn t => .error (.aliasNotPlain (.torn t.trim))
  | _ => .error .missingMethod

/-- The name that a loose value gives a query: it is trimmed, and must not be missing or blank. -/
def nameOf (v : Value) : Except EditError Value :=
  match v with
  | .null => .error .nameBlank
  | .text s => if Text.trim s = "" then .error .nameBlank else .ok (.text (Text.trim s))
  | .torn t => .ok (.torn t.trim)
  | _ => .error .missingMethod

/-- A filter as it is built: refused unless its operator accepts its operand. -/
def Filter.checked (f : Filter) : Except EditError Filter := do
  FilterValue.check f.operator f.value
  return f

/-- The filter with these fields and the next id, if the operator accepts the operand. -/
def Filter.build (ids : IdSupply) (table column : String) (o : FilterOperator) (v : FilterValue)
    (connective : Option Connective) : Except EditError (Filter × IdSupply) := do
  let (id, ids) := ids.next
  return (← Filter.checked ⟨id, table, column, o, v, connective⟩, ids)

/-- A filter that connects to nothing. -/
def Filter.unconnected (f : Filter) : Filter :=
  { f with connective := none }

end QueryCanvas
