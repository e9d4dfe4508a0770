import QueryCanvas.Canvas.Editing
import QueryCanvas.Catalog.Row

/-!
# Saved queries

`Canvas.toValue` writes a canvas as a loose record, and `Canvas.restore` builds one from such a
record by replaying its parts as edits, so that every rule is checked again against the catalog. The
parts get new ids; the ids taken before a failure stay taken.
-/

namespace QueryCanvas

namespace Canvas

/-- A text that may be missing. -/
def optionalText : Option String → Value
  | none => .null
  | some s => .text s

/-- A selected column as a record. -/
def columnRecord (c : SelectedColumn) : Value :=
  .record [("table", .text c.table), ("column", .text c.column), ("alias", optionalText c.aliasName)]

/-- A join as a record. -/
def joinRecord (j : Join) : Value :=
  .record
    [("id", .text j.id), ("left_table", .text j.leftTable), ("left_column", .text j.leftColumn),
     ("right_table", .text j.rightTable), ("right_column", .text j.rightColumn),
     ("join_kind", .text j.kind.name)]

/-- A filter as a record. -/
def filterRecord (f : Filter) : Value :=
  .record
    [("id", .text f.id), ("table", .text f.table), ("column", .text f.column),
     ("operator", .text f.operator.name), ("value", f.value.toRaw),
     ("logical_connective", optionalText (f.connective.map Connective.name))]

/-- A sort as a record. -/
def sortRecord (s : Sorting) : Value :=
  .record
    [("id", .text s.id), ("table", .text s.table), ("column", .text s.column),
     ("direction", .text s.direction.name)]

/-- A group as a record. -/
def groupRecord (g : Grouping) : Value :=
  .record [("id", .text g.id), ("table", .text g.table), ("column", .text g.column)]

/-- An aggregate as a record. -/
def aggregateRecord (a : Aggregate) : Value :=
  .record
    [("id", .text a.id), ("function", .text a.function.name), ("table", .text a.table),
     ("column", .text a.column), ("alias", optionalText a.aliasName)]

/-- A limit as a value. -/
def limitValue : Option Int → Value
  | none => .null
  | some n => .int n

/-- A canvas as a loose record. -/
def toValue (c : Canvas) : Value :=
  .record
    [("id", c.id), ("name", c.name), ("tables", .list (c.tables.map .text)),
     ("selected_columns", .list (c.columns.map columnRecord)), ("joins", .list (c.joins.map joinRecord)),
     ("filters", .list (c.filters.map filterRecord)), ("sorts", .list (c.sorts.map sortRecord)),
     ("groups", .list (c.groups.map groupRecord)),
     ("aggregates", .list (c.aggregates.map aggregateRecord)), ("limit", limitValue c.limit)]

/-! ## Restoring -/

/-- The fields of an entry, which has to be a record. -/
def fieldsOf : Value → Except EditError (List (String × Value))
  | .record fs => .ok fs
  | _ => .error .wrongType

/-- A field that has to be there. -/
def require (fs : List (String × Value)) (name : String) : Except EditError Value :=
  match Value.field? fs name with
  | some v => .ok v
  | none => .error (.keyMissing name)

/-- The edit that a saved column stands for. -/
def columnEdit (entry : Value) : Except EditError Edit := do
  let fs ← fieldsOf entry
  return .toggleColumn (← require fs "table") (← require fs "column") (Value.fieldOr fs "alias" .null)

/-- The edit that a saved join stands for. -/
def joinEdit (entry : Value) : Except EditError Edit := do
  let fs ← fieldsOf entry
  return .addJoin (← require fs "left_table") (← require fs "left_column") (← require fs "right_table")
    (← require fs "right_column") (Value.fieldOr fs "join_kind" (.text JoinKind.inner.name))

/-- The edit that a saved filter stands for. -/
def filterEdit (entry : Value) : Except EditError Edit := do
  let fs ← fieldsOf entry
  return .addFilter (← require fs "table") (← require fs "column") (← require fs "operator")
    (Value.fieldOr fs "value" .null) (Value.fieldOr fs "logical_connective" .null)

/-- The edit that a saved sort stands for. -/
def sortEdit (entry : Value) : Except EditError Edit := do
  let fs ← fieldsOf entry
  return .addSort (← require fs "table") (← require fs "column")
    (Value.fieldOr fs "direction" (.text Direction.asc.name))

/-- The edit that a saved group stands for. -/
def groupEdit (entry : Value) : Except EditError Edit := do
  let fs ← fieldsOf entry
  return .addGroup (← require fs "table") (← require fs "column")

/-- The edit that a saved aggregate stands for. -/
def aggregateEdit (entry : Value) : Except EditError Edit := do
  let fs ← fieldsOf entry
  return .addAggregate (← require fs "function") (← require fs "table") (← require fs "column")
    (Value.fieldOr fs "alias" .null)

/-- The edits that the entries of a saved collection stand for; a collection that cannot be read
through is one failed edit, and one that is absent is empty. -/
def collectionEdits (fs : List (String × Value)) (name : String) (edit : Value → Except EditError Edit) :
    List (Except EditError Edit) :=
  match entriesOf? (Value.fieldOr fs name (.list [])) with
  | some entries => entries.map edit
  | none => [.error .wrongType]

/-- The edits that a saved query stands for, in the order they are replayed. -/
def savedEdits (fs : List (String × Value)) : List (Except EditError Edit) :=
  collectionEdits fs "tables" (fun t => .ok (.addTable t))
    ++ collectionEdits fs "selected_columns" columnEdit
    ++ collectionEdits fs "joins" joinEdit
    ++ collectionEdits fs "filters" filterEdit
    ++ collectionEdits fs "sorts" sortEdit
    ++ collectionEdits fs "groups" groupEdit
    ++ collectionEdits fs "aggregates" aggregateEdit
    ++ [.ok (.setLimit (Value.fieldOr fs "limit" .null))]

/-- Carries out edits one after the other up to the first that is refused. -/
def replay (cat : Catalog) : List (Except EditError Edit) → Draft → Except EditError Canvas × IdSupply
  | [], d => (.ok d.canvas, d.ids)
  | .error e :: _, d => (.error e, d.ids)
  | .ok edit :: rest, d =>
    match perform cat edit d with
    | (.error e, d) => (.error e, d.ids)
    | (.ok _, d) => replay cat rest d

/-- The canvas that a saved query describes. -/
def restore (cat : Catalog) (data : Value) (ids : IdSupply) : Except EditError Canvas × IdSupply :=
  match data with
  | .record fs =>
    let name := (Value.fieldOr fs "name" .null).orElse (.text defaultName)
    replay cat (savedEdits fs) (opened name (Value.fieldOr fs "id" .null) ids)
  | _ => (.error .missingMethod, ids)

end Canvas

end QueryCanvas
