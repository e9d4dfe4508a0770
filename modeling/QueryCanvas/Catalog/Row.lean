import QueryCanvas.Catalog.Basic

/-!
# Schema rows

A schema reader reports one loose row per column, in a long spelling (`column_name`, `data_type`, …)
or a short one (`name`, `type`, …). Flags may be truth values or the texts that a standard
information schema uses.
-/

namespace QueryCanvas

/-- The texts that stand for a true flag. -/
def trueFlagTexts : List String :=
  ["YES", "Y", "TRUE", "T", "1"]

/-- Reads a flag that may be a text such as `YES` or `NO`. -/
def flagOf : Value → Bool
  | .text s => trueFlagTexts.contains (Text.upper (Text.trim s))
  | v => v.truthy

namespace Column

/-- The column that a row describes. -/
def ofRow (row : Value) : Except SchemaError Column :=
  match row with
  | .record fs =>
    let get := Value.field? fs
    let name := (get "column_name").getD (Value.fieldOr fs "name" .null)
    if !name.truthy then .error (.columnNameless row)
    else
      let foreign := (Value.fieldOr fs "is_foreign_key" (.bool false)).truthy
      .ok
        { name := name.toText
          declaredType :=
            (((get "data_type").getD (Value.fieldOr fs "type" .null)).orElse (.text "unknown")).toText
          isPrimaryKey := (Value.fieldOr fs "is_primary_key" (.bool false)).truthy
          isForeignKey := foreign
          isNullable := flagOf (Value.fieldOr fs "is_nullable" (.bool true))
          referencedTable := if foreign then Value.fieldOr fs "referenced_table" .null else .null
          referencedColumn := if foreign then Value.fieldOr fs "referenced_column" .null else .null }
  | v => .error (.rowWithoutFields v.typeName)

end Column

/-- The entries that a loose value is read through one by one: the items of a list or a set, the
characters of a text, the names of a record. -/
def entriesOf? : Value → Option (List Value)
  | .list vs | .tuple vs | .unordered vs => some vs
  | .text s => some (s.toList.map fun c => .text (String.singleton c))
  | .record fs => some (fs.map fun f => .text f.1)
  | _ => none

/-- The table that rows describe. -/
def Table.ofRows (name : String) (rows : Value) : Except SchemaError Table := do
  let some entries := entriesOf? rows | throw (.rowsNotIterable rows.typeName)
  Table.ofColumns name (← entries.mapM Column.ofRow)

end QueryCanvas
