import QueryCanvas.Proofs.Canvas.RoundTrip

/-!
# Suggested joins

For two tables of a catalog the joins are suggested that foreign keys back: one for each column of either table that
refers to a column of the other, those of the left table first. Asked the other way round the catalog suggests the
same joins, turned.

* `Column.References`: the column that a foreign key refers to.
* `Drawn`: the pairs of columns that the foreign keys of a table connect with another one.
* `Suggestions`: what is suggested for two tables. `suggestions_of_lookup` says that it holds of any two tables.
-/

namespace QueryCanvas

/-- **A foreign key** refers to a column that a table has. -/
structure Column.References (c : Column) (t : Table) (d : Column) : Prop where
  isForeignKey : c.isForeignKey = true
  table : c.referencedTable = .text t.name
  column : c.referencedColumn = .text d.name
  mem : d ∈ t.columns

/-- **The pairs of columns** that foreign keys connect with a table, in the order of the columns that are gone through:
one pair for each column that refers to a column of the table, and none for any other. -/
inductive Drawn (t : Table) : List Column → List (String × String) → Prop
  | nil : Drawn t [] []
  | key {c d : Column} {cs : List Column} {pairs : List (String × String)} (h : c.References t d)
      (rest : Drawn t cs pairs) : Drawn t (c :: cs) ((c.name, d.name) :: pairs)
  | other {c : Column} {cs : List Column} {pairs : List (String × String)} (h : ∀ d, ¬c.References t d)
      (rest : Drawn t cs pairs) : Drawn t (c :: cs) pairs

/-- An edge between columns of two tables: a join without its id. -/
structure Edge where
  leftTable : String
  leftColumn : String
  rightTable : String
  rightColumn : String
  kind : JoinKind
  deriving DecidableEq, Repr

/-- The edge of a join. -/
def Join.edge (j : Join) : Edge :=
  ⟨j.leftTable, j.leftColumn, j.rightTable, j.rightColumn, j.kind⟩

/-- An edge with its sides exchanged. -/
def Edge.turned (e : Edge) : Edge :=
  ⟨e.rightTable, e.rightColumn, e.leftTable, e.leftColumn, e.kind⟩

/-- The inner edges between two tables along pairs of columns. -/
def edgesAlong (l r : Table) (pairs : List (String × String)) : List Edge :=
  pairs.map fun p => ⟨l.name, p.1, r.name, p.2, .inner⟩

/-- The edges that a catalog suggests for two tables. -/
def Catalog.suggestedEdges (cat : Catalog) (l r : Table) (ids : IdSupply) : List Edge :=
  (cat.suggestJoins (.text l.name) (.text r.name) ids).1.map Join.edge

/-- **What is suggested for two tables.** -/
structure Suggestions (cat : Catalog) (l r : Table) : Prop where
  /-- There is one inner join for each column of the left table that refers to a column of the right one, and then one
  for each column of the right table that refers to a column of the left one, all with the left table on the left.
  Asked the other way round, the two groups change places and their joins are turned. -/
  backed : ∃ own others, Drawn r l.columns own ∧ Drawn l r.columns others ∧ ∀ ids,
    cat.suggestedEdges l r ids = edgesAlong l r own ++ edgesAlong l r (others.map Prod.swap) ∧
    cat.suggestedEdges r l ids =
      (edgesAlong l r (others.map Prod.swap)).map Edge.turned ++ (edgesAlong l r own).map Edge.turned
  /-- Each of them is accepted on every canvas that both tables are on, as a join of any kind. -/
  accepted : ∀ ids, ∀ j ∈ (cat.suggestJoins (.text l.name) (.text r.name) ids).1, ∀ (d : Draft) (kind : JoinKind),
    l.name ∈ d.canvas.tables → r.name ∈ d.canvas.tables →
      Canvas.perform cat (.addJoin (.text j.leftTable) (.text j.leftColumn) (.text j.rightTable) (.text j.rightColumn)
          (.text kind.name)) d =
        (.ok (.join { j with id := d.ids.next.1, kind := kind }),
          ⟨{ d.canvas with joins := d.canvas.joins ++ [{ j with id := d.ids.next.1, kind := kind }] }, d.ids.next.2⟩)

variable {cat : Catalog} {c d : Column} {t l r : Table} {cs : List Column} {pairs : List (String × String)}
  {left right name : String} {ids : IdSupply} {e : Edge}

/-! ## Foreign keys -/

namespace Table

/-- A table has the columns that it is made of. -/
theorem exists_column? (h : d ∈ t.columns) : ∃ found, t.column? d.name = some found := by
  rw [← Option.isSome_iff_exists, column?, List.find?_isSome]
  exact ⟨d, h, beq_self_eq_true d.name⟩

/-- A column that is found has the name that was looked for. -/
theorem column?_spec (h : t.column? name = some d) : d.name = name ∧ d ∈ t.columns :=
  ⟨by simpa using List.find?_some h, List.mem_of_find?_eq_some h⟩

end Table

namespace Catalog

theorem target_eq (h : c.References t d) : target c = d.name := by
  rw [target, h.column]
  rfl

/-- A foreign key is taken into account exactly if it refers to a column that the table has. -/
theorem refersTo_iff : (refersTo c t && c.isForeignKey) = true ↔ ∃ d, c.References t d := by
  rw [Bool.and_eq_true, refersTo, Bool.and_eq_true, beq_iff_eq]
  constructor
  · rintro ⟨⟨htable, hcolumn⟩, hkey⟩
    obtain ⟨d, hd⟩ := Option.isSome_iff_exists.1 hcolumn
    obtain ⟨hname, hfound⟩ := Canvas.columnOf?_eq_some hd
    refine ⟨d, hkey, ?_, hname, (Table.column?_spec hfound).2⟩
    cases hv : c.referencedTable with
    | text s =>
      rw [hv] at htable
      rw [Option.some.inj htable]
    | _ =>
      rw [hv] at htable
      cases htable
  · rintro ⟨d, h⟩
    obtain ⟨found, hfound⟩ := Table.exists_column? h.mem
    have hcolumn : t.hasColumn c.referencedColumn = true := by
      rw [h.column]
      exact Option.isSome_iff_exists.2 ⟨found, hfound⟩
    exact ⟨⟨congrArg Value.text? h.table, hcolumn⟩, h.isForeignKey⟩

/-- The pairs of columns that the catalog goes by. -/
def keyPairs (t : Table) (cs : List Column) : List (String × String) :=
  (cs.filter fun c => refersTo c t && c.isForeignKey).map fun c => (c.name, target c)

/-- They are those that the foreign keys draw. -/
theorem drawn_keyPairs (t : Table) (cs : List Column) : Drawn t cs (keyPairs t cs) := by
  rw [keyPairs]
  induction cs with
  | nil => exact .nil
  | cons c cs ih =>
    by_cases hc : ∃ d, c.References t d
    · rw [List.filter_cons, if_pos (refersTo_iff.2 hc), List.map_cons]
      obtain ⟨d, hd⟩ := hc
      rw [target_eq hd]
      exact .key hd ih
    · rw [List.filter_cons, if_neg (mt refersTo_iff.1 hc)]
      exact .other (not_exists.1 hc) ih

/-- The ends of the joins: the pairs of the left table, then those of the right one, turned. -/
theorem suggestedEnds_eq (l r : Table) :
    suggestedEnds l r = keyPairs r l.columns ++ (keyPairs l r.columns).map Prod.swap := by
  rw [suggestedEnds, Table.foreignKeys, Table.foreignKeys, List.filter_filter, List.filter_filter, keyPairs, keyPairs,
    List.map_map]
  rfl

end Catalog

/-- A pair comes from a column that refers. -/
theorem Drawn.exists_references (h : Drawn t cs pairs) {p : String × String} (hp : p ∈ pairs) :
    ∃ c ∈ cs, ∃ d, c.References t d ∧ p = (c.name, d.name) := by
  induction h with
  | nil => cases hp
  | @key c d cs pairs hc rest ih =>
    rcases List.mem_cons.1 hp with rfl | hp
    · exact ⟨c, List.mem_cons_self, d, hc, rfl⟩
    · obtain ⟨c', hc', hrefers⟩ := ih hp
      exact ⟨c', List.mem_cons_of_mem c hc', hrefers⟩
  | @other c cs pairs hc rest ih =>
    obtain ⟨c', hc', hrefers⟩ := ih hp
    exact ⟨c', List.mem_cons_of_mem c hc', hrefers⟩

/-! ## Edges -/

theorem edgesAlong_append (l r : Table) (pairs others : List (String × String)) :
    edgesAlong l r (pairs ++ others) = edgesAlong l r pairs ++ edgesAlong l r others :=
  List.map_append

theorem turned_edgesAlong (l r : Table) (pairs : List (String × String)) :
    (edgesAlong l r pairs).map Edge.turned = edgesAlong r l (pairs.map Prod.swap) := by
  simp only [edgesAlong, List.map_map]
  rfl

namespace Catalog

theorem edges_joinsOf (ends : List (String × String)) (ids : IdSupply) :
    (joinsOf l.name r.name ids ends).1.map Join.edge = edgesAlong l r ends := by
  induction ends generalizing ids with
  | nil => rfl
  | cons p ends ih => exact congrArg (_ :: ·) (ih ids.next.2)

/-- A table that is found has the name that was looked for. -/
theorem lookup?_name (h : cat.lookup? name = some t) : t.name = name := by
  simpa using List.find?_some h

/-- **The edges between two tables of the catalog** are along the pairs that their foreign keys give. -/
theorem suggestedEdges_eq (hl : cat.lookup? l.name = some l) (hr : cat.lookup? r.name = some r) :
    cat.suggestedEdges l r ids = edgesAlong l r (suggestedEnds l r) := by
  rw [suggestedEdges, suggestJoins, lookupOf?, lookupOf?, Value.text?, Value.text?, Option.bind_some, Option.bind_some,
    hl, hr]
  exact edges_joinsOf _ ids

/-- **The edges between two tables** of the catalog: those of the foreign keys of either one, and the same, turned, the
other way round. -/
theorem suggestedEdges_drawn (hl : cat.lookup? l.name = some l) (hr : cat.lookup? r.name = some r) :
    ∃ own others, Drawn r l.columns own ∧ Drawn l r.columns others ∧ ∀ ids,
      cat.suggestedEdges l r ids = edgesAlong l r own ++ edgesAlong l r (others.map Prod.swap) ∧
      cat.suggestedEdges r l ids =
        (edgesAlong l r (others.map Prod.swap)).map Edge.turned ++ (edgesAlong l r own).map Edge.turned := by
  refine ⟨_, _, drawn_keyPairs r l.columns, drawn_keyPairs l r.columns, fun ids => ⟨?_, ?_⟩⟩
  · rw [suggestedEdges_eq hl hr, suggestedEnds_eq, edgesAlong_append]
  · rw [suggestedEdges_eq hr hl, suggestedEnds_eq, edgesAlong_append, turned_edgesAlong, turned_edgesAlong,
      List.map_map, Prod.swap_swap_eq, List.map_id]

/-! ## Acceptance -/

/-- What an edge has to be to be accepted on a canvas that both tables are on. -/
structure Joins (cat : Catalog) (l r : Table) (e : Edge) : Prop where
  left : e.leftTable = l.name
  right : e.rightTable = r.name
  leftColumn : cat.HasColumn l.name e.leftColumn
  rightColumn : cat.HasColumn r.name e.rightColumn

theorem hasColumn_of_mem (hl : cat.lookup? l.name = some l) (hc : c ∈ l.columns) : cat.HasColumn l.name c.name :=
  ⟨l, hl, Table.exists_column? hc⟩

/-- Both ends of a suggested edge are columns of the tables. -/
theorem joins_of_mem (hl : cat.lookup? l.name = some l) (hr : cat.lookup? r.name = some r)
    (he : e ∈ cat.suggestedEdges l r ids) : cat.Joins l r e := by
  obtain ⟨own, others, hown, hothers, hedges⟩ := suggestedEdges_drawn hl hr
  rw [(hedges ids).1, List.mem_append, edgesAlong, edgesAlong, List.map_map, List.mem_map, List.mem_map] at he
  rcases he with ⟨p, hp, rfl⟩ | ⟨p, hp, rfl⟩
  · obtain ⟨c, hc, d, hd, rfl⟩ := hown.exists_references hp
    exact ⟨rfl, rfl, hasColumn_of_mem hl hc, hasColumn_of_mem hr hd.mem⟩
  · obtain ⟨c, hc, d, hd, rfl⟩ := hothers.exists_references hp
    exact ⟨rfl, rfl, hasColumn_of_mem hl hd.mem, hasColumn_of_mem hr hc⟩

/-- **What joins two tables of the canvas** is accepted as a join of any kind. -/
theorem Joins.performed {j : Join} {draft : Draft} (h : cat.Joins l r j.edge) (kind : JoinKind)
    (hl : l.name ∈ draft.canvas.tables) (hr : r.name ∈ draft.canvas.tables) :
    Canvas.perform cat (.addJoin (.text j.leftTable) (.text j.leftColumn) (.text j.rightTable) (.text j.rightColumn)
        (.text kind.name)) draft =
      (.ok (.join { j with id := draft.ids.next.1, kind := kind }),
        ⟨{ draft.canvas with joins := draft.canvas.joins ++ [{ j with id := draft.ids.next.1, kind := kind }] },
          draft.ids.next.2⟩) := by
  have hleft : Canvas.Refers cat draft.canvas j.leftTable j.leftColumn := by
    rw [show j.leftTable = l.name from h.left]
    exact ⟨hl, h.leftColumn⟩
  have hright : Canvas.Refers cat draft.canvas j.rightTable j.rightColumn := by
    rw [show j.rightTable = r.name from h.right]
    exact ⟨hr, h.rightColumn⟩
  exact (Canvas.Addition.join hleft hright (Canvas.choose_joinKind kind)).performed

/-- **Suggested joins are those that foreign keys back.** For any two tables of a catalog there is one for each column
of either that refers to a column of the other, the other way round they are the same, turned, and each of them is
accepted once both tables are on the canvas. -/
theorem suggestions_of_lookup (hl : cat.lookup? left = some l) (hr : cat.lookup? right = some r) :
    Suggestions cat l r := by
  have hleft : cat.lookup? l.name = some l := by rwa [lookup?_name hl]
  have hright : cat.lookup? r.name = some r := by rwa [lookup?_name hr]
  exact
    { backed := suggestedEdges_drawn hleft hright
      accepted := fun ids j hj draft kind =>
        (joins_of_mem hleft hright (List.mem_map_of_mem hj)).performed kind }

/-- A column that refers to a column of a table. -/
def keyTo (name table column : String) : Column :=
  ⟨name, "integer", false, true, true, .text table, .text column⟩

/-- Orders with a key to customers, one to orders themselves, one to a table that is missing and one to a column that
is. -/
def linkedOrders : Table :=
  ⟨"orders", [⟨"id", "integer", true, false, false, .null, .null⟩, keyTo "customer_id" "customers" "id",
    keyTo "parent_id" "orders" "id", keyTo "region_id" "regions" "id", keyTo "agent_id" "customers" "agent"]⟩

/-- Customers with a key to orders. -/
def linkedCustomers : Table :=
  ⟨"customers", [⟨"id", "integer", true, false, false, .null, .null⟩, keyTo "last_order_id" "orders" "id"]⟩

/-- The catalog of both. -/
def linked : Catalog :=
  ⟨[linkedOrders, linkedCustomers], []⟩

theorem suggestions_linked :
    linked.lookup? "orders" = some linkedOrders ∧ linked.lookup? "customers" = some linkedCustomers ∧
      Suggestions linked linkedOrders linkedCustomers ∧
      linked.suggestedEdges linkedOrders linkedCustomers .fresh =
        [⟨"orders", "customer_id", "customers", "id", .inner⟩,
          ⟨"orders", "id", "customers", "last_order_id", .inner⟩] := by
  have horders : linked.lookup? "orders" = some linkedOrders := rfl
  have hcustomers : linked.lookup? "customers" = some linkedCustomers := rfl
  exact ⟨horders, hcustomers, suggestions_of_lookup horders hcustomers, by decide +kernel⟩

/-- A key to the own table counts in both directions. -/
example : linked.suggestedEdges linkedOrders linkedOrders .fresh =
    [⟨"orders", "parent_id", "orders", "id", .inner⟩, ⟨"orders", "id", "orders", "parent_id", .inner⟩] := by
  decide +kernel

end Catalog

end QueryCanvas
