import QueryCanvas.Canvas.Basic
import QueryCanvas.Sql.Literal

/-!
# Statements

A canvas with at least one table describes a `Statement`: what is selected, the first table, the
joins, the conditions, the groups, the sorts and the limit. `Statement.chars` writes it in a dialect,
one clause a line in a fixed order, and `compile` does both steps.
-/

namespace QueryCanvas.Sql

/-- A column qualified by its table. -/
structure ColumnRef where
  table : String
  column : String
  deriving DecidableEq, Repr

/-- An entry of the select list. -/
inductive SelectItem where
  | column (ref : ColumnRef) (aliasName : Option String)
  | aggregate (function : Aggregation) (ref : ColumnRef) (aliasName : Option String)
  deriving DecidableEq, Repr

/-- How a comparison is written. -/
inductive Comparison where
  | equal | notEqual | greater | less
  deriving DecidableEq, Repr

/-- A condition on a column. -/
inductive Condition where
  | compare (ref : ColumnRef) (op : Comparison) (v : Value)
  | like (ref : ColumnRef) (part : String)
  | oneOf (ref : ColumnRef) (vs : List Value)
  | between (ref : ColumnRef) (lo hi : Value)
  | isNull (ref : ColumnRef)
  | isNotNull (ref : ColumnRef)
  deriving Repr

/-- A join clause: the table it introduces and the two columns it equates. -/
structure JoinClause where
  kind : JoinKind
  table : String
  left : ColumnRef
  right : ColumnRef
  deriving DecidableEq, Repr

/-- A query statement. -/
structure Statement where
  items : List SelectItem
  source : String
  joins : List JoinClause
  conditions : List (Connective × Condition)
  groups : List ColumnRef
  sorts : List (ColumnRef × Direction)
  limit : Option Int
  deriving Repr

/-! ## From the canvas -/

/-- The sign of a comparison. -/
def Comparison.sign : Comparison → String
  | .equal => "="
  | .notEqual => "!="
  | .greater => ">"
  | .less => "<"

/-- Whether the column of a filter is numeric in a catalog. -/
def isNumericIn (cat : Catalog) (f : Filter) : Bool :=
  ((cat.lookup? f.table).bind fun t => t.column? f.column).any Column.isNumeric

/-- Why a canvas cannot be compiled: a number cannot be written, an operand has another shape than its
operator requires, or an operator that compares with several operands has one only. -/
inductive CompileError where
  | numeral (e : NumeralTooLong)
  | misfit (o : FilterOperator) (v : FilterValue)
  | noComparison (o : FilterOperator)
  deriving Repr

namespace CompileError

/-- The kind a compile error is reported as. -/
def kind : CompileError → FaultKind
  | .numeral _ => .badValue
  | .misfit .. => .wrongType
  | .noComparison _ => .missingKey

/-- The wording of a compile error. -/
def message : CompileError → String
  | .numeral e => e.message
  | .misfit o v => "Filter value " ++ v.display ++ " does not fit operator '" ++ o.name ++ "'"
  | .noComparison o => "<FilterOperator." ++ Text.upper o.name ++ ": '" ++ o.name ++ "'>"

end CompileError

instance : MonadLift (Except NumeralTooLong) (Except CompileError) := ⟨Except.mapError .numeral⟩

@[simp] theorem liftM_eq_ok {α : Type} {x : Except NumeralTooLong α} {a : α} :
    (liftM x : Except CompileError α) = .ok a ↔ x = .ok a := by
  cases x with
  | ok b => exact ⟨fun h => congrArg _ (Except.ok.inj h), fun h => congrArg _ (Except.ok.inj h)⟩
  | error e => exact ⟨nofun, nofun⟩

/-- The condition that a filter stands for. -/
def conditionOf (cat : Catalog) (f : Filter) : Except CompileError Condition :=
  let ref : ColumnRef := ⟨f.table, f.column⟩
  match f.operator, f.value with
  | .isNull, _ => .ok (.isNull ref)
  | .isNotNull, _ => .ok (.isNotNull ref)
  | .isIn, .list vs => do return .oneOf ref (← (vs.mapM writable : Except NumeralTooLong _))
  | .between, .range lo hi => do return .between ref (← writable lo) (← writable hi)
  | .like, .scalar v => do return .like ref (← writable v).toText
  | .equals, .scalar v => do return .compare ref .equal (← writable v)
  | .notEquals, .scalar v => do return .compare ref .notEqual (← writable v)
  | .greaterThan, .scalar v => do
    return .compare ref .greater (← writable (← numericIfPossible (isNumericIn cat f) v))
  | .lessThan, .scalar v => do return .compare ref .less (← writable (← numericIfPossible (isNumericIn cat f) v))
  | .isIn, .scalar _ | .between, .scalar _ => .error (.noComparison f.operator)
  | o, v => .error (.misfit o v)

/-- A row limit, or why it cannot be written. -/
def writableLimit : Option Int → Except NumeralTooLong (Option Int)
  | none => .ok none
  | some n => do
    let _ ← writable (.int n)
    return some n

/-- The statement that a canvas describes, none if it has no table. -/
def statement? (cat : Catalog) (c : Canvas) : Except CompileError (Option Statement) :=
  match c.tables with
  | [] => .ok none
  | source :: _ => do
    let conditions ← c.filters.mapM fun f => do return (f.connective.getD .and, ← conditionOf cat f)
    let limit ← writableLimit c.limit
    return some
      { items :=
          c.columns.map (fun s => .column ⟨s.table, s.column⟩ s.aliasName)
            ++ c.aggregates.map fun a => .aggregate a.function ⟨a.table, a.column⟩ a.aliasName
        source := source
        joins := c.joins.map fun j =>
          ⟨j.kind, j.rightTable, ⟨j.leftTable, j.leftColumn⟩, ⟨j.rightTable, j.rightColumn⟩⟩
        conditions := conditions
        groups := c.groups.map fun g => ⟨g.table, g.column⟩
        sorts := c.sorts.map fun s => (⟨s.table, s.column⟩, s.direction)
        limit := limit }

/-! ## Written form -/

/-- Pieces with a separator between them. -/
def separated (separator : String) (pieces : List (List Char)) : List Char :=
  separator.toList.intercalate pieces

/-- A qualified column as a dialect writes it. -/
def ColumnRef.chars (d : Dialect) (r : ColumnRef) : List Char :=
  nameChars d r.table ++ '.' :: nameChars d r.column

/-- An alias clause, if there is an alias. -/
def aliasChars (d : Dialect) : Option String → List Char
  | some a => if a = "" then [] else " AS ".toList ++ nameChars d a
  | none => []

/-- An entry of the select list as a dialect writes it. -/
def SelectItem.chars (d : Dialect) : SelectItem → List Char
  | .column r a => r.chars d ++ aliasChars d a
  | .aggregate f r a => f.name.toList ++ '(' :: r.chars d ++ ')' :: aliasChars d a

/-- A join clause as a dialect writes it. -/
def JoinClause.chars (d : Dialect) (j : JoinClause) : List Char :=
  j.kind.name.toList ++ " JOIN ".toList ++ nameChars d j.table ++ " ON ".toList ++ j.left.chars d
    ++ " = ".toList ++ j.right.chars d

/-- A condition as a dialect writes it. -/
def Condition.chars (d : Dialect) : Condition → List Char
  | .compare r op v => r.chars d ++ ' ' :: op.sign.toList ++ ' ' :: literal d v
  | .like r part => r.chars d ++ " ILIKE ".toList ++ literal d (.text ("%" ++ part ++ "%"))
  | .oneOf r vs => r.chars d ++ " IN (".toList ++ separated ", " (vs.map (literal d)) ++ [')']
  | .between r lo hi => r.chars d ++ " BETWEEN ".toList ++ literal d lo ++ " AND ".toList ++ literal d hi
  | .isNull r => r.chars d ++ " IS NULL".toList
  | .isNotNull r => r.chars d ++ " IS NOT NULL".toList

/-- The conditions of a statement: the first alone, each later one behind its connective. -/
def conditionChars (d : Dialect) : List (Connective × Condition) → List (List Char)
  | [] => []
  | (_, c) :: rest => c.chars d :: rest.map fun (k, c) => k.name.toList ++ ' ' :: c.chars d

/-- A clause that is written only if it has entries. -/
def clause (opening separator : String) (entries : List (List Char)) : List (List Char) :=
  if entries.isEmpty then [] else [opening.toList ++ separated separator entries]

/-- The clauses of a statement in the fixed order. -/
def Statement.clauses (d : Dialect) (s : Statement) : List (List Char) :=
  ["SELECT ".toList ++ (if s.items.isEmpty then ['*'] else separated ", " (s.items.map (SelectItem.chars d))),
    "FROM ".toList ++ nameChars d s.source]
  ++ s.joins.map (JoinClause.chars d)
  ++ clause "WHERE " " " (conditionChars d s.conditions)
  ++ clause "GROUP BY " ", " (s.groups.map (ColumnRef.chars d))
  ++ clause "ORDER BY " ", " (s.sorts.map fun (r, dir) => r.chars d ++ ' ' :: dir.name.toList)
  ++ (match s.limit with
    | some n => ["LIMIT ".toList ++ (toString n).toList]
    | none => [])

/-- A statement as a dialect writes it. -/
def Statement.chars (d : Dialect) (s : Statement) : List Char :=
  separated "\n" (s.clauses d)

/-- What stands in place of a statement when no table has been placed. -/
def noTables : String := "-- No tables selected"

/-- The text that a canvas compiles to over a catalog. -/
def compile (d : Dialect) (cat : Catalog) (c : Canvas) : Except CompileError String := do
  match ← statement? cat c with
  | none => return noTables
  | some s => return String.ofList (s.chars d)

/-- Whether a compiled text is a statement. -/
def isExecutable (sql : String) : Bool :=
  sql != noTables

end QueryCanvas.Sql
