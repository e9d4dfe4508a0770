import QueryCanvas.Canvas.Basic

/-!
# Editing a canvas

`Canvas.perform` carries out an edit against a catalog. An edit works on the draft in place and step
by step: a refusal in the middle of it does not undo the steps before.

* Every edit makes its checks before its first change, but one: `removeTable` takes the parts of the
  table away and only then rebuilds the first filter that is left.
* A part takes its id when it is built.
* Removing a table removes everything that names it.
-/

namespace QueryCanvas

/-- An accepted edit: the answer, the new canvas and the ids left. -/
structure Applied where
  reply : Reply
  canvas : Canvas
  ids : IdSupply

/-- Steps of an edit: they may change the draft, and may be refused. What was changed before a
refusal stays changed. -/
abbrev Editing := ExceptT EditError (StateM Draft)

namespace Editing

/-- What steps come to on a draft, and the draft they leave. -/
def outcome {α : Type} (x : Editing α) (d : Draft) : Except EditError α × Draft :=
  (x.run.run d).run

/-- The canvas as it is now. -/
def current : Editing Canvas :=
  return (← get).canvas

/-- Changes the canvas. -/
def alter (f : Canvas → Canvas) : Editing Unit :=
  modify fun d => { d with canvas := f d.canvas }

/-- Takes the next id. -/
def takeId : Editing String := do
  let (id, ids) := (← get).ids.next
  modify fun d => { d with ids := ids }
  return id

end Editing

namespace Canvas

open Editing

/-! ## Tables and columns -/

/-- Places a table; a table that is there already is left alone. -/
def addTable (cat : Catalog) (table : Value) : Editing Reply := do
  match table with
  | .text t =>
    if (← current).tables.contains t then return .flag false
    else if cat.contains t then
      alter fun c => { c with tables := c.tables ++ [t] }
      return .flag true
    else throw (.unknownTable table)
  | _ => throw (if table.isKey then .unknownTable table else .wrongType)

/-- Removes a table and every part that names it, one collection after the other. -/
def removeTable (table : Value) : Editing Reply := do
  let t ← (← current).requireTable table
  alter fun c => { c with tables := c.tables.filter (· != t) }
  alter fun c => { c with columns := c.columns.filter (·.table != t) }
  alter fun c => { c with joins := c.joins.filter fun j => j.leftTable != t && j.rightTable != t }
  alter fun c => { c with filters := c.filters.filter (·.table != t) }
  alter fun c => { c with sorts := c.sorts.filter (·.table != t) }
  alter fun c => { c with groups := c.groups.filter (·.table != t) }
  alter fun c => { c with aggregates := c.aggregates.filter (·.table != t) }
  let filters ← detachFirst (← current).filters
  alter fun c => { c with filters := filters }
  return .done

/-- Selects a column, or deselects it if it is selected. -/
def toggleColumn (cat : Catalog) (table column aliasName : Value) : Editing Reply := do
  let (t, col) ← (← current).requireColumn cat table column
  if (← current).columns.any (selects t col) then
    alter fun c => { c with columns := c.columns.eraseP (selects t col) }
    return .flag false
  else
    let name ← aliasOf aliasName
    alter fun c => { c with columns := c.columns ++ [⟨t, col, name⟩] }
    return .flag true

/-- Gives a selected column another alias, or none. -/
def setColumnAlias (cat : Catalog) (table column aliasName : Value) : Editing Reply := do
  let (t, col) ← (← current).requireColumn cat table column
  if (← current).columns.any (selects t col) then
    let name ← aliasOf aliasName
    alter fun c => { c with columns := replaceFirst (selects t col) ⟨t, col, name⟩ c.columns }
    return .column ⟨t, col, name⟩
  else throw (.notSelected table column)

/-! ## Parts with an id -/

/-- Adds a join. -/
def addJoin (cat : Catalog) (leftTable leftColumn rightTable rightColumn kind : Value) : Editing Reply := do
  let kind ← choose "join kind" JoinKind.all JoinKind.name kind
  let (lt, lc) ← (← current).requireColumn cat leftTable leftColumn
  let (rt, rc) ← (← current).requireColumn cat rightTable rightColumn
  let id ← takeId
  let join : Join := ⟨id, lt, lc, rt, rc, kind⟩
  alter fun c => { c with joins := c.joins ++ [join] }
  return .join join

/-- Adds a filter. It has its id before its operand is checked for the last time. -/
def addFilter (cat : Catalog) (table column operator value connective : Value) : Editing Reply := do
  let o ← chooseOperator operator
  let asked ← connectiveOf connective
  let (t, col) ← (← current).requireColumn cat table column
  let operand ← FilterValue.ofRaw o value
  let placed := (← current).placedConnective asked
  let id ← takeId
  let filter ← Filter.checked ⟨id, t, col, o, operand, placed⟩
  alter fun c => { c with filters := c.filters ++ [filter] }
  return .filter filter

/-- Adds a sort. -/
def addSort (cat : Catalog) (table column direction : Value) : Editing Reply := do
  let direction ← choose "sort direction" Direction.all Direction.name direction
  let (t, col) ← (← current).requireColumn cat table column
  let id ← takeId
  let sort : Sorting := ⟨id, t, col, direction⟩
  alter fun c => { c with sorts := c.sorts ++ [sort] }
  return .sort sort

/-- Adds a group. -/
def addGroup (cat : Catalog) (table column : Value) : Editing Reply := do
  let (t, col) ← (← current).requireColumn cat table column
  let id ← takeId
  let group : Grouping := ⟨id, t, col⟩
  alter fun c => { c with groups := c.groups ++ [group] }
  return .group group

/-- Adds an aggregate. -/
def addAggregate (cat : Catalog) (function table column aliasName : Value) : Editing Reply := do
  let function ← choose "aggregation function" Aggregation.all Aggregation.name function
  let (t, col) ← (← current).requireColumn cat table column
  let name ← aliasOf aliasName
  let id ← takeId
  let aggregate : Aggregate := ⟨id, function, t, col, name⟩
  alter fun c => { c with aggregates := c.aggregates ++ [aggregate] }
  return .aggregate aggregate

/-- Removes the item of a kind that has an id. -/
def remove (kind : PartKind) (id : Value) : Editing Reply := do
  match kind with
  | .join =>
    let rest ← withoutId kind Join.id id (← current).joins
    alter fun c => { c with joins := rest }
  | .filter =>
    let rest ← withoutId kind Filter.id id (← current).filters
    let rest ← detachFirst rest
    alter fun c => { c with filters := rest }
  | .sort =>
    let rest ← withoutId kind Sorting.id id (← current).sorts
    alter fun c => { c with sorts := rest }
  | .group =>
    let rest ← withoutId kind Grouping.id id (← current).groups
    alter fun c => { c with groups := rest }
  | .aggregate =>
    let rest ← withoutId kind Aggregate.id id (← current).aggregates
    alter fun c => { c with aggregates := rest }
  return .done

/-! ## Limit and name -/

/-- Sets the row limit, or clears it with a missing value. -/
def setLimit (limit : Value) : Editing Reply := do
  match limit with
  | .null => alter fun c => { c with limit := none }
  | .int n => if n < 0 then throw (.limitNegative n) else alter fun c => { c with limit := some n }
  | v => throw (.limitNotWhole v)
  return .done

/-- Names the query; the name is trimmed and must not be blank. -/
def rename (name : Value) : Editing Reply := do
  let name ← nameOf name
  alter fun c => { c with name := name }
  return .done

/-! ## Carrying out an edit -/

/-- The steps of an edit over a catalog. -/
def edit (cat : Catalog) : Edit → Editing Reply
  | .addTable t => addTable cat t
  | .removeTable t => removeTable t
  | .toggleColumn t col a => toggleColumn cat t col a
  | .setColumnAlias t col a => setColumnAlias cat t col a
  | .addJoin lt lc rt rc k => addJoin cat lt lc rt rc k
  | .addFilter t col o v k => addFilter cat t col o v k
  | .addSort t col d => addSort cat t col d
  | .addGroup t col => addGroup cat t col
  | .addAggregate f t col a => addAggregate cat f t col a
  | .remove k id => remove k id
  | .setLimit n => setLimit n
  | .rename n => rename n

/-- Carries out an edit: its answer or why it is refused, and the draft it leaves in either case. -/
def perform (cat : Catalog) (e : Edit) (d : Draft) : Except EditError Reply × Draft :=
  (edit cat e).outcome d

/-- An edit seen as a whole: what it gives if it is accepted, or why it is refused. -/
def apply (cat : Catalog) (e : Edit) (c : Canvas) (ids : IdSupply) : Except EditError Applied :=
  match perform cat e ⟨c, ids⟩ with
  | (.ok reply, d) => .ok ⟨reply, d.canvas, d.ids⟩
  | (.error e, _) => .error e

end Canvas

end QueryCanvas
