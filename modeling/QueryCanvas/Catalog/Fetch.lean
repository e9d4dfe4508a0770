import QueryCanvas.Catalog.Load

/-!
# Answers in any order

`Catalog.load` has the answers of a batch at hand. In a running service they take their time: the tables
of a batch are asked for one after the other, each answer arrives when it likes, also before the next
table is asked for, and the batch is added once all its answers are there. `Loading.Step` is one thing
that happens in such a loading.
-/

namespace QueryCanvas

/-- A table that was asked for, and what came of it once there is an answer. -/
structure Fetch where
  name : Value
  answer : Option (Except Fault Table)

/-- What came of a table, under its name, once there is an answer. -/
def Fetch.settled? (f : Fetch) : Option (Value × Except Fault Table) :=
  f.answer.map (f.name, ·)

/-- A loading under way: the names of the batch that are still to be asked for, the tables of the batch
that were asked for, the batches behind it, what earlier batches gave, and the names that were asked for
in all, in order. -/
structure Loading where
  waiting : List Value
  fetches : List Fetch
  later : List (List Value)
  catalog : Catalog
  requested : List Value

namespace Loading

/-- A loading of batches that has not begun. -/
def start (batches : List (List Value)) : Loading :=
  ⟨[], [], batches, .empty, []⟩

/-- The number of tables that were asked for and are not answered yet. -/
def inFlight (l : Loading) : Nat :=
  l.fetches.countP (·.answer.isNone)

/-- Whether every batch has been added. -/
def isDone (l : Loading) : Bool :=
  l.waiting.isEmpty && l.fetches.isEmpty && l.later.isEmpty

/-- What came of the tables of the batch, once all of them are answered. -/
def settled? (l : Loading) : Option (List (Value × Except Fault Table)) :=
  if l.waiting.isEmpty && !l.fetches.isEmpty then l.fetches.mapM Fetch.settled? else none

/-- One thing that happens: the next batch is opened, its next table is asked for, one of the tables that
were asked for is answered, or the answers of the batch are added. -/
inductive Step (reader : SchemaReader) : Loading → Loading → Prop where
  | opens {batch : List Value} {later : List (List Value)} {c : Catalog} {requested : List Value} :
      Step reader ⟨[], [], batch :: later, c, requested⟩ ⟨batch, [], later, c, requested⟩
  | asks {name : Value} {waiting : List Value} {fetches : List Fetch} {later : List (List Value)}
      {c : Catalog} {requested : List Value} :
      Step reader ⟨name :: waiting, fetches, later, c, requested⟩
        ⟨waiting, fetches ++ [⟨name, none⟩], later, c, requested ++ [name]⟩
  | answers {name : Value} {waiting : List Value} (before after : List Fetch) {later : List (List Value)}
      {c : Catalog} {requested : List Value} :
      Step reader ⟨waiting, before ++ ⟨name, none⟩ :: after, later, c, requested⟩
        ⟨waiting, before ++ ⟨name, some (Catalog.loadTable reader name)⟩ :: after, later, c, requested⟩
  | adds {l : Loading} {answers : List (Value × Except Fault Table)} {c : Catalog}
      (settled : l.settled? = some answers) (added : l.catalog.addBatch answers = .ok c) :
      Step reader l { l with fetches := [], catalog := c }

/-- The batch whose answers are all there ends the loading instead. -/
def FailsWith (l : Loading) (e : LoadError) : Prop :=
  ∃ answers, l.settled? = some answers ∧ l.catalog.addBatch answers = .error e

end Loading

end QueryCanvas
