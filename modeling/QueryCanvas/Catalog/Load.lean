import QueryCanvas.Catalog.Row

/-!
# Loading a catalog

A schema reader lists the tables and answers for each with its rows. The catalog is loaded batch by
batch; the tables of one batch are asked for together, and their answers are taken in the order of the
batch. A table whose rows are missing or malformed is left out with a warning, and the others are not
affected; only the fault of a reader that has been called off ends the loading.
-/

namespace QueryCanvas

/-- Where a catalog is loaded from: the listing of the tables and the rows of each. -/
structure SchemaReader where
  listing : Except Fault Value
  rows : Value → Except Fault Value

/-- Why no catalog could be loaded at all. -/
inductive LoadError where
  | passedOn (fault : Fault)
  | listingFailed (fault : Fault)
  | listingNotIterable
  | unbuildable (e : SchemaError)
  deriving Repr

namespace LoadError

/-- The kind a load error is reported as. -/
def kind : LoadError → FaultKind
  | .passedOn f => f.kind
  | .listingFailed _ => .execution
  | .listingNotIterable => .wrongType
  | .unbuildable e => e.kind

/-- The wording of a load error. -/
def message : LoadError → String
  | .passedOn f => f.message
  | .listingFailed f => "Failed to list tables: " ++ f.message
  | .listingNotIterable => ""
  | .unbuildable e => e.message

/-- The kind of the failure behind a load error, if it was wrapped. -/
def cause? : LoadError → Option FaultKind
  | .listingFailed f => some f.kind
  | _ => none

end LoadError

/-- What loading gives: the catalog, the names asked for in order, and the most that were asked for
at once. -/
structure LoadReport where
  catalog : Catalog
  requested : List Value
  inFlight : Nat

namespace Catalog

/-- The name that an entry of the listing gives: a text is the name, a record has it in a field. -/
def entryName (entry : Value) : Value :=
  match entry with
  | .text s => .text s
  | .record fs => (Value.fieldOr fs "table_name" .null).orElse (Value.fieldOr fs "name" .null)
  | _ => .null

/-- Whether two listed names are the same. -/
def sameName : Value → Value → Bool
  | .text s, .text t => s == t
  | .text _, _ | _, .text _ => false
  | a, b => a.display == b.display

/-- The names that entries give, without blanks and repetitions, in order. -/
def distinctNames (entries : List Value) : List Value :=
  (entries.map entryName).foldl
    (fun names n => if n.truthy && !names.any (sameName n) then names ++ [n] else names) []

/-- The number of tables asked for at once if nothing else is said. -/
def defaultBatchSize : Nat := 10

/-- A list cut into pieces of a size; the last piece may be shorter. -/
def chunks {α : Type} (size : Nat) (xs : List α) : List (List α) :=
  if xs = [] ∨ size = 0 then [] else xs.take size :: chunks size (xs.drop size)
termination_by xs.length
decreasing_by
  rename_i h
  have hx : xs.length ≠ 0 := fun e => h (.inl (List.length_eq_zero_iff.1 e))
  simp only [List.length_drop]
  omega

/-- The batch size that a setting gives: the default for none and for zero, and nothing is asked for
with a negative one. -/
def batchSizeOf (setting : Option Int) : Nat :=
  match setting with
  | none => defaultBatchSize
  | some n => if n = 0 then defaultBatchSize else n.toNat

/-- The table of a name as the reader answers, or the fault for which there is none. -/
def loadTable (reader : SchemaReader) (name : Value) : Except Fault Table :=
  match reader.rows name with
  | .error f => .error f
  | .ok .null => .error SchemaError.noColumnInformation.fault
  | .ok rows => (Table.ofRows name.toText rows).mapError SchemaError.fault

/-- Adds what came of a table: the table itself, or a warning. A reader that has been called off gives
no warning. -/
def addAnswer (c : Catalog) (name : Value) : Except Fault Table → Except LoadError Catalog
  | .ok t => .ok { c with tables := c.tables ++ [t] }
  | .error f =>
    if f.kind = .abandoned then .error (.passedOn f)
    else .ok { c with warnings := c.warnings ++ [⟨name, f.reason⟩] }

/-- Adds what came of the tables of one batch, in the order of the batch. -/
def addBatch (c : Catalog) (answers : List (Value × Except Fault Table)) : Except LoadError Catalog :=
  answers.foldlM (fun c (name, answer) => c.addAnswer name answer) c

/-- What came of asking for the tables of a batch. -/
def answersOf (reader : SchemaReader) (batch : List Value) : List (Value × Except Fault Table) :=
  batch.map fun name => (name, loadTable reader name)

/-- A loaded catalog as it is handed out, unless two of its tables share a name. -/
def built (c : Catalog) : Except LoadError Catalog :=
  match ofTables c.tables with
  | .ok distinct => .ok { distinct with warnings := c.warnings }
  | .error e => .error (.unbuildable e)

/-- The names that a reader lists, without blanks and repetitions, in order. -/
def listedNames (reader : SchemaReader) : Except LoadError (List Value) := do
  let listed ← match reader.listing with
    | .ok v => pure v
    | .error f => throw (if f.kind.isExecution then .passedOn f else .listingFailed f)
  let some entries := entriesOf? (listed.orElse (.list [])) | throw .listingNotIterable
  return distinctNames entries

/-- The catalog of the listed tables, asked for in batches. -/
def load (reader : SchemaReader) (batchSize : Option Int) : Except LoadError LoadReport := do
  let batches := chunks (batchSizeOf batchSize) (← listedNames reader)
  let loaded ← batches.foldlM (fun c batch => c.addBatch (answersOf reader batch)) empty
  return { catalog := ← loaded.built
           requested := batches.flatten
           inFlight := (batches.map List.length).foldl max 0 }

end Catalog

end QueryCanvas
