import QueryCanvas.Catalog.Basic

/-!
# The canvas

The state of one query under construction: tables, selected columns, joins, filters, sorts, groups,
aggregates and a row limit; and the checks that an edit makes before it changes anything. Every edit
is a value of type `Edit` with loose arguments.

* A part may only name a table on the canvas and a column that this table has in the catalog.
* The first filter connects to nothing; each later one is connected by AND or OR.
-/

namespace QueryCanvas

/-- A query under construction. A query restored from saved data keeps the id and the name that the
data gives, whatever they are, so both are loose. -/
structure Canvas where
  id : Value
  name : Value
  tables : List String
  columns : List SelectedColumn
  joins : List Join
  filters : List Filter
  sorts : List Sorting
  groups : List Grouping
  aggregates : List Aggregate
  limit : Option Int
  deriving Repr

/-- An edit of the canvas, its arguments as loose as they arrive. -/
inductive Edit where
  | addTable (table : Value)
  | removeTable (table : Value)
  | toggleColumn (table column aliasName : Value)
  | setColumnAlias (table column aliasName : Value)
  | addJoin (leftTable leftColumn rightTable rightColumn kind : Value)
  | addFilter (table column operator value connective : Value)
  | addSort (table column direction : Value)
  | addGroup (table column : Value)
  | addAggregate (function table column aliasName : Value)
  | remove (kind : PartKind) (id : Value)
  | setLimit (limit : Value)
  | rename (name : Value)
  deriving Repr

/-- What an accepted edit answers. -/
inductive Reply where
  | done
  | flag (b : Bool)
  | column (c : SelectedColumn)
  | join (j : Join)
  | filter (f : Filter)
  | sort (s : Sorting)
  | group (g : Grouping)
  | aggregate (a : Aggregate)
  deriving Repr

/-- A canvas, and the supply that its next parts take their ids from. -/
structure Draft where
  canvas : Canvas
  ids : IdSupply

namespace Canvas

/-- The name of a query that was given none. -/
def defaultName : String := "New Query"

/-- An empty canvas with an id and a name. -/
def empty (id name : Value) : Canvas :=
  ⟨id, name, [], [], [], [], [], [], [], none⟩

/-- An empty canvas; it takes the next id if it is given none. -/
def new (name id : Value) (ids : IdSupply) : Canvas × IdSupply :=
  if id.truthy then (empty id name, ids)
  else
    let (fresh, ids) := ids.next
    (empty (.text fresh) name, ids)

/-- A draft with nothing on its canvas. -/
def opened (name id : Value) (ids : IdSupply) : Draft :=
  let (c, ids) := new name id ids
  ⟨c, ids⟩

/-- Whether nothing has been placed yet. -/
def isEmpty (c : Canvas) : Bool :=
  c.tables.isEmpty

/-- The table on the canvas that a loose value names. -/
def requireTable (c : Canvas) (table : Value) : Except EditError String :=
  match table with
  | .text t => if c.tables.contains t then .ok t else .error (.notOnCanvas table)
  | _ => .error (.notOnCanvas table)

/-- The table on the canvas and the column of it that two loose values name. -/
def requireColumn (c : Canvas) (cat : Catalog) (table column : Value) : Except EditError (String × String) := do
  let t ← c.requireTable table
  let some info := cat.lookup? t | throw (.unknownTable table)
  match info.columnOf? column, column with
  | some col, _ => return (t, col.name)
  | none, .null => throw (.unknownTable table)
  | none, _ => throw (.unknownColumn table column)

/-- The member of a closed set that a value names, or the refusal that lists the members. -/
def choose {α : Type} (what : String) (all : List α) (name : α → String) (v : Value) : Except EditError α :=
  match chosen? all name v with
  | some a => .ok a
  | none => .error (.notAChoice what v (all.map name))

/-- The filter operator that a value spells. -/
def chooseOperator (v : Value) : Except EditError FilterOperator :=
  match v.text?.bind FilterOperator.ofText? with
  | some o => .ok o
  | none => .error (.notAChoice "filter operator" v (FilterOperator.all.map FilterOperator.name))

/-- The filters when the first one may have lost what it connects to; that one is built again. -/
def detachFirst : List Filter → Except EditError (List Filter)
  | [] => .ok []
  | f :: fs => if f.connective.isSome then do return (← f.unconnected.checked) :: fs else .ok (f :: fs)

/-- Whether a selected column is this column of this table. -/
def selects (table column : String) (s : SelectedColumn) : Bool :=
  s.table == table && s.column == column

/-- Replaces the first entry that satisfies `p`. -/
def replaceFirst {α : Type} (p : α → Bool) (b : α) : List α → List α
  | [] => []
  | a :: as => if p a then b :: as else a :: replaceFirst p b as

/-- The connective that a loose value gives, none if it is missing. -/
def connectiveOf : Value → Except EditError (Option Connective)
  | .null => .ok none
  | v => do return some (← choose "logical connective" Connective.all Connective.name v)

/-- The connective under which a filter is added: none for the first one, AND for a later one that
asks for none. -/
def placedConnective (c : Canvas) (asked : Option Connective) : Option Connective :=
  if c.filters.isEmpty then none else some (asked.getD .and)

/-- The items without the one of an id; refused if there is none. -/
def withoutId {α : Type} (kind : PartKind) (idOf : α → String) (id : Value) (items : List α) :
    Except EditError (List α) :=
  let remaining := items.filter fun a => id.text? != some (idOf a)
  if remaining.length = items.length then .error (.noSuchPart kind id) else .ok remaining

/-! ## Inspection -/

/-- The tables that columns, joins, filters, sorts, groups and aggregates name. -/
def namedTables (c : Canvas) : List String :=
  c.columns.map (·.table) ++ c.joins.flatMap (fun j => [j.leftTable, j.rightTable])
    ++ c.filters.map (·.table) ++ c.sorts.map (·.table) ++ c.groups.map (·.table)
    ++ c.aggregates.map (·.table)

/-- The tables that parts name, each once, in ascending order. -/
def referencedTables (c : Canvas) : List String :=
  (c.namedTables.eraseDups).mergeSort (fun a b => decide (a ≤ b))

end Canvas

end QueryCanvas
