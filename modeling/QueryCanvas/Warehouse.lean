import QueryCanvas.Catalog.Load
import QueryCanvas.Session.Run
import QueryCanvas.Sql.Guard

/-!
# The warehouse

The database that is queried: the tables it reports, and what it answers to the statements it is
handed, in order. `Warehouse.reader` describes the tables as schema rows, and `Warehouse.run` lets a
statement through the read-only guard before it is handed over.
-/

namespace QueryCanvas

/-- The type of a column as the database reports it: a text, or a type of some class that has no
text. -/
inductive ReportedType where
  | text (s : String)
  | unprintable (className : String)
  deriving DecidableEq, Repr

/-- The name of a reported type in small letters. -/
def ReportedType.name : ReportedType → String
  | .text s => Text.lower s
  | .unprintable c => Text.lower c

/-- A column that the database reports. -/
structure ReportedColumn where
  name : String
  type : ReportedType
  isNullable : Bool
  deriving DecidableEq, Repr

/-- A foreign key that the database reports: columns, and the columns of another table they refer to,
in the same order. -/
structure ForeignKey where
  columns : List String
  table : String
  targets : List String
  deriving DecidableEq, Repr

/-- A table that the database reports. Asking for its columns may fail. -/
structure ReportedTable where
  name : String
  columns : List ReportedColumn
  primaryKey : List String
  foreignKeys : List ForeignKey
  fault : Option Fault
  deriving Repr

/-- A database: its dialect, what it reports, the answers it has left, and the statements that it
was handed. -/
structure Warehouse where
  dialect : Sql.Dialect
  tables : List ReportedTable
  listingFault : Option Fault
  answers : List Answer
  executed : List String

namespace ReportedTable

/-- What each referring column refers to; a later foreign key overrides an earlier one. -/
def references (t : ReportedTable) : List (String × String × String) :=
  t.foreignKeys.flatMap fun k => (k.columns.zip k.targets).map fun (c, target) => (c, k.table, target)

/-- The schema row of a column. -/
def row (t : ReportedTable) (c : ReportedColumn) : Value :=
  let reference := t.references.reverse.find? (·.1 == c.name)
  let part (f : String × String → String) : Value :=
    match reference with
    | some (_, r) => .text (f r)
    | none => .null
  .record
    [("column_name", .text c.name), ("data_type", .text c.type.name),
     ("is_primary_key", .bool (t.primaryKey.contains c.name)), ("is_foreign_key", .bool reference.isSome),
     ("is_nullable", .bool c.isNullable), ("referenced_table", part (·.1)), ("referenced_column", part (·.2))]

/-- The schema rows of a table. -/
def rows (t : ReportedTable) : Except Fault Value :=
  match t.fault with
  | some f => .error f
  | none => .ok (.list (t.columns.map t.row))

end ReportedTable

namespace Warehouse

/-- The names of the tables in ascending order. -/
def listing (w : Warehouse) : Except Fault (List String) :=
  match w.listingFault with
  | some f => .error f
  | none => .ok ((w.tables.map (·.name)).mergeSort fun a b => decide (a ≤ b))

/-- The schema rows of the table of a name. -/
def rows (w : Warehouse) (name : String) : Except Fault Value :=
  match w.tables.find? (·.name == name) with
  | some t => t.rows
  | none => .error ⟨.missingKey, some name⟩

/-- The warehouse as a schema reader. -/
def reader (w : Warehouse) : SchemaReader where
  listing := w.listing.map fun names => .list (names.map .text)
  rows name := w.rows name.toText

/-- Every table with its schema rows, in the order they are listed. -/
def introspect (w : Warehouse) : Except Fault (List (String × Value)) := do
  (← w.listing).mapM fun name => do return (name, ← w.rows name)

/-- Hands a statement to the database, which gives its next answer, or no rows if it has none
left. -/
def execute (w : Warehouse) (sql : String) : Answer × Warehouse :=
  (w.answers.head?.getD (.rows none), { w with answers := w.answers.tail, executed := w.executed ++ [sql] })

/-- Runs a statement if the guard lets it through. -/
def run (w : Warehouse) (sql : String) : Answer × Warehouse :=
  match Sql.Guard.check sql with
  | .error e => (.fault ⟨.readOnlyViolation, some e.message⟩, w)
  | .ok () => w.execute sql

end Warehouse

end QueryCanvas
