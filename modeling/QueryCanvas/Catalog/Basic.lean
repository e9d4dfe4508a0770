import QueryCanvas.Part.Basic

/-!
# The schema catalog

A snapshot of the warehouse: tables in the order they were listed, each with its columns in order.
Column names are distinct within a table and table names within a catalog; `Table.ofColumns` and
`Catalog.ofTables` refuse anything else. Foreign keys give the joins that `suggestJoins` offers.
-/

namespace QueryCanvas

/-- A column as the schema reader reports it. What a foreign key refers to is kept as reported. -/
structure Column where
  name : String
  declaredType : String
  isPrimaryKey : Bool
  isForeignKey : Bool
  isNullable : Bool
  referencedTable : Value
  referencedColumn : Value
  deriving Repr

/-- A table and its columns. -/
structure Table where
  name : String
  columns : List Column
  deriving Repr

/-- A table that could not be loaded, with the reason. -/
structure Warning where
  table : Value
  reason : String
  deriving Repr

/-- The tables that are available, and the warnings about those that are not. -/
structure Catalog where
  tables : List Table
  warnings : List Warning
  deriving Repr

/-- Why a catalog cannot be built. -/
inductive SchemaError where
  | columnNameless (row : Value)
  | rowWithoutFields (typeName : String)
  | rowsNotIterable (typeName : String)
  | noColumnInformation
  | columnTwice (column table : String)
  | tableTwice (table : String)
  deriving Repr

namespace SchemaError

/-- The kind a schema error is reported as. -/
def kind : SchemaError → FaultKind
  | .rowWithoutFields _ => .missingMethod
  | .rowsNotIterable _ => .wrongType
  | _ => .badValue

/-- The wording of a schema error. -/
def message : SchemaError → String
  | .columnNameless row => "Column entry without a name: " ++ row.toText
  | .rowWithoutFields ty => "'" ++ ty ++ "' object has no attribute 'get'"
  | .rowsNotIterable ty => "'" ++ ty ++ "' object is not iterable"
  | .noColumnInformation => "no column information returned"
  | .columnTwice c t => "Duplicate column '" ++ c ++ "' in table '" ++ t ++ "'"
  | .tableTwice t => "Duplicate table '" ++ t ++ "' in catalog"

/-- A schema error as the fault of the collaborator that caused it. -/
def fault (e : SchemaError) : Fault :=
  .ofMessage e.kind e.message

end SchemaError

/-- The wording of a warning. -/
def Warning.text (w : Warning) : String :=
  "Columns for table '" ++ w.table.toText ++ "' could not be loaded: " ++ w.reason

namespace Column

/-- The names of the numeric types. -/
def numericTypes : List String :=
  ["int", "integer", "bigint", "smallint", "tinyint", "mediumint", "int2", "int4", "int8", "serial", "bigserial",
   "smallserial", "numeric", "decimal", "real", "float", "float4", "float8", "double", "double precision", "money"]

/-- The name of a declared type: trimmed, in small letters, without what follows its first
parenthesis. -/
def typeBase (declaredType : String) : String :=
  String.ofList (Text.trimChars ((Text.lower (Text.trim declaredType)).toList.takeWhile (· ≠ '(')))

/-- Whether the declared type is numeric. -/
def isNumeric (c : Column) : Bool :=
  numericTypes.contains (typeBase c.declaredType)

end Column

/-- The first name that a list holds twice. -/
def firstRepeated? (seen : List String) : List String → Option String
  | [] => none
  | s :: rest => if seen.contains s then some s else firstRepeated? (s :: seen) rest

namespace Table

/-- The table of the given columns, unless two of them share a name. -/
def ofColumns (name : String) (columns : List Column) : Except SchemaError Table :=
  match firstRepeated? [] (columns.map (·.name)) with
  | some c => .error (.columnTwice c name)
  | none => .ok ⟨name, columns⟩

/-- The column of a name. -/
def column? (t : Table) (name : String) : Option Column :=
  t.columns.find? (·.name == name)

/-- The column that a loose value names. -/
def columnOf? (t : Table) (name : Value) : Option Column :=
  name.text?.bind t.column?

/-- Whether a table has the column that a loose value names. -/
def hasColumn (t : Table) (name : Value) : Bool :=
  (t.columnOf? name).isSome

/-- The names of the columns, in order. -/
def columnNames (t : Table) : List String :=
  t.columns.map (·.name)

/-- The columns of the primary key. -/
def primaryKeys (t : Table) : List Column :=
  t.columns.filter (·.isPrimaryKey)

/-- The columns that refer to another table. -/
def foreignKeys (t : Table) : List Column :=
  t.columns.filter (·.isForeignKey)

end Table

namespace Catalog

/-- The catalog without tables. -/
def empty : Catalog := ⟨[], []⟩

/-- The catalog of the given tables, unless two of them share a name. -/
def ofTables (tables : List Table) : Except SchemaError Catalog :=
  match firstRepeated? [] (tables.map (·.name)) with
  | some t => .error (.tableTwice t)
  | none => .ok ⟨tables, []⟩

/-- The table of a name. -/
def lookup? (c : Catalog) (name : String) : Option Table :=
  c.tables.find? (·.name == name)

/-- The table that a loose value names. -/
def lookupOf? (c : Catalog) (name : Value) : Option Table :=
  name.text?.bind c.lookup?

/-- Whether a catalog has a table of a name. -/
def contains (c : Catalog) (name : String) : Bool :=
  (c.lookup? name).isSome

/-- The names of the tables, in order. -/
def tableNames (c : Catalog) : List String :=
  c.tables.map (·.name)

/-- Whether some table could not be loaded. -/
def isPartial (c : Catalog) : Bool :=
  !c.warnings.isEmpty

/-- Whether a foreign key refers to an existing column of a table. -/
def refersTo (c : Column) (t : Table) : Bool :=
  c.referencedTable.text? == some t.name && t.hasColumn c.referencedColumn

/-- The text of the column that a foreign key refers to. -/
def target (c : Column) : String :=
  (c.referencedColumn.text?).getD ""

/-- The ends of the joins that foreign keys between two tables suggest, left end first: those of the
left table, then those of the right one. -/
def suggestedEnds (left right : Table) : List (String × String) :=
  (left.foreignKeys.filter (refersTo · right)).map (fun c => (c.name, target c))
    ++ (right.foreignKeys.filter (refersTo · left)).map (fun c => (target c, c.name))

/-- Gives each pair of ends the next id as an inner join. -/
def joinsOf (left right : String) : IdSupply → List (String × String) → List Join × IdSupply
  | ids, [] => ([], ids)
  | ids, (l, r) :: rest =>
    let (id, ids) := ids.next
    let (joins, ids) := joinsOf left right ids rest
    (⟨id, left, l, right, r, .inner⟩ :: joins, ids)

/-- The inner joins that foreign keys between two tables suggest, in either direction. -/
def suggestJoins (c : Catalog) (left right : Value) (ids : IdSupply) : List Join × IdSupply :=
  match c.lookupOf? left, c.lookupOf? right with
  | some l, some r => joinsOf l.name r.name ids (suggestedEnds l r)
  | _, _ => ([], ids)

/-! ## Lemmas -/

/-- Every pair of ends takes one id. -/
theorem given_joinsOf (left right : String) (ids : IdSupply) (ends : List (String × String)) :
    (joinsOf left right ids ends).2.given = ids.given + ends.length := by
  induction ends generalizing ids with
  | nil => rfl
  | cons e ends ih =>
    rw [joinsOf]
    simp only [ih, IdSupply.next, List.length_cons]
    omega

theorem given_suggestJoins (c : Catalog) (left right : Value) (ids : IdSupply) :
    ids.given ≤ (c.suggestJoins left right ids).2.given := by
  unfold suggestJoins
  split
  · rw [given_joinsOf]
    exact Nat.le_add_right _ _
  · exact Nat.le_refl _

end Catalog

end QueryCanvas
