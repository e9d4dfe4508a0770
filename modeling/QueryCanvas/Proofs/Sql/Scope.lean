import QueryCanvas.Proofs.Sql.Compile

/-!
# Which tables a statement introduces

A statement introduces a table after FROM and one after each JOIN; its columns are qualified by the tables
that the parts of the canvas name. The first list depends on the order of the tables and on the direction of
the joins, the second on neither, so a statement can name a table that it does not introduce, or introduce
one twice, although every table of it is on the canvas.

* `Scope`: how the tables of a statement stand to those of its canvas, with the exact conditions under which
  no column dangles and no table is introduced twice.
* `scope_of_compiled`: whatever edits led to a canvas, so its statement stands to it.
* `stray_and_doubled`: canvases that edits lead to and that meet neither condition.
-/

namespace QueryCanvas

namespace Sql

open Canvas

/-! ## The tables of a statement -/

/-- The column that an entry of the select list names. -/
def SelectItem.ref : SelectItem → ColumnRef
  | .column r _ => r
  | .aggregate _ r _ => r

/-- The column that a condition is about. -/
def Condition.ref : Condition → ColumnRef
  | .compare r _ _ => r
  | .like r _ => r
  | .oneOf r _ => r
  | .between r _ _ => r
  | .isNull r => r
  | .isNotNull r => r

/-- The columns that a statement names, clause by clause. -/
def Statement.refs (s : Statement) : List ColumnRef :=
  s.items.map SelectItem.ref ++ s.joins.flatMap (fun j => [j.left, j.right])
    ++ s.conditions.map (fun k => k.2.ref) ++ s.groups ++ s.sorts.map Prod.fst

/-- The tables that a statement introduces: the one after FROM, and the one after each JOIN. -/
def Statement.introduced (s : Statement) : List String :=
  s.source :: s.joins.map JoinClause.table

/-- Every column of a statement is one of a table that the statement introduces. -/
def Statement.IsClosed (s : Statement) : Prop :=
  ∀ r ∈ s.refs, r.table ∈ s.introduced

variable {d : Dialect} {cat : Catalog} {c : Canvas} {s : Statement}

/-! ## The tables of its canvas -/

/-- The condition of a filter is about the column of the filter, whatever becomes of the operand. -/
theorem ref_conditionOf {f : Filter} {k : Condition} (h : conditionOf cat f = .ok k) :
    k.ref = ⟨f.table, f.column⟩ := by
  unfold conditionOf at h
  split at h <;>
    simp only [bind_eq_ok, pure_eq_ok, Except.ok.injEq, reduceCtorEq] at h
  case h_1 | h_2 => exact h ▸ rfl
  case h_3 | h_5 | h_6 | h_7 =>
    obtain ⟨w, -, rfl⟩ := h
    rfl
  case h_4 | h_8 | h_9 =>
    obtain ⟨v, -, w, -, rfl⟩ := h
    rfl

/-- The conditions of filters are about the tables of the filters, one by one. -/
theorem tables_conditions {fs : List Filter} {ks : List (Connective × Condition)}
    (h : (fs.mapM fun f => do return (f.connective.getD .and, ← conditionOf cat f)) = .ok ks) :
    ks.map (fun k => k.2.ref.table) = fs.map (·.table) := by
  have hall := mapM_eq_ok.1 h
  clear h
  induction hall with
  | nil => rfl
  | cons hpair _ ih =>
    obtain ⟨k, hk, hpair⟩ := bind_eq_ok.1 hpair
    obtain rfl := Except.ok.inj hpair
    rw [List.map_cons, List.map_cons, ih, ref_conditionOf hk]

/-- **A statement names** the tables that the parts of its canvas name, each as often. -/
theorem perm_namedTables (h : statement? cat c = .ok (some s)) :
    (s.refs.map ColumnRef.table).Perm c.namedTables := by
  cases ht : c.tables with
  | nil => simp [statement?, ht] at h
  | cons t ts =>
    simp only [statement?, ht, bind_eq_ok, liftM_eq_ok, pure_eq_ok, Except.ok.injEq, Option.some.injEq] at h
    obtain ⟨ks, hks, l, -, rfl⟩ := h
    have hconditions := tables_conditions hks
    refine List.perm_iff_count.2 fun u => ?_
    simp only [Statement.refs, Canvas.namedTables, List.map_append, List.map_map, List.map_flatMap,
      List.flatMap_map, List.count_append, Function.comp_def, hconditions, SelectItem.ref, List.map_cons,
      List.map_nil]
    omega

/-- **A statement introduces** the first table of its canvas and the right table of each join, in order. -/
theorem introduced_statement {t : String} {ts : List String} (ht : c.tables = t :: ts)
    (h : statement? cat c = .ok (some s)) : s.introduced = t :: c.joins.map Join.rightTable := by
  simp only [statement?, ht, bind_eq_ok, liftM_eq_ok, pure_eq_ok, Except.ok.injEq, Option.some.injEq] at h
  obtain ⟨ks, -, l, -, rfl⟩ := h
  rw [Statement.introduced, List.map_map, Function.comp_def]

/-- A table that a part of a well-formed canvas names is on the canvas. -/
theorem placed_namedTables (h : Grounded cat c) : ∀ t ∈ c.namedTables, t ∈ c.tables := by
  simp only [Canvas.namedTables, List.forall_mem_append, List.forall_mem_map, List.mem_flatMap]
  refine ⟨⟨⟨⟨⟨fun x hx => (h.columns x hx).1, ?_⟩, fun x hx => (h.filters x hx).1⟩,
    fun x hx => (h.sorts x hx).1⟩, fun x hx => (h.groups x hx).1⟩, fun x hx => (h.aggregates x hx).1⟩
  rintro t ⟨j, hj, ht⟩
  obtain ⟨hleft, hright⟩ := h.joins j hj
  rcases List.mem_pair.1 ht with rfl | rfl
  · exact hleft.1
  · exact hright.1

/-! ## Scope -/

/-- **How the tables of a statement stand to its canvas**, whose first table is given. -/
structure Scope (c : Canvas) (first : String) (s : Statement) : Prop where
  /-- The statement introduces the first table and the right table of each join, in the order of the joins. -/
  introduced : s.introduced = first :: c.joins.map Join.rightTable
  /-- The tables that qualify its columns are those that the parts of the canvas name, each as often. -/
  named : (s.refs.map ColumnRef.table).Perm c.namedTables
  /-- All of them are on the canvas. -/
  placed : ∀ r ∈ s.refs, r.table ∈ c.tables
  /-- No column dangles exactly if each table that a part names is the first one or right in a join. -/
  closed_iff : s.IsClosed ↔ ∀ t ∈ c.namedTables, t = first ∨ ∃ j ∈ c.joins, j.rightTable = t
  /-- No table is introduced twice exactly if each join has a right table of its own, and not the first. -/
  nodup_iff : s.introduced.Nodup ↔
    (∀ j ∈ c.joins, j.rightTable ≠ first) ∧ (c.joins.map Join.rightTable).Nodup

/-- The statement of a canvas whose parts are grounded, over whichever catalog it is compiled. -/
theorem scope_statement {own : Catalog} {t : String} {ts : List String} (hc : Grounded own c)
    (ht : c.tables = t :: ts) (h : statement? cat c = .ok (some s)) : Scope c t s := by
  have hintroduced := introduced_statement ht h
  have hnamed := perm_namedTables h
  have hmem : ∀ u, u ∈ c.namedTables ↔ ∃ r ∈ s.refs, r.table = u := fun u => by
    rw [← hnamed.mem_iff, List.mem_map]
  exact
    { introduced := hintroduced
      named := hnamed
      placed := fun r hr => placed_namedTables hc _ ((hmem _).2 ⟨r, hr, rfl⟩)
      closed_iff := by
        simp only [Statement.IsClosed, hintroduced, hmem, List.mem_cons, List.mem_map, forall_exists_index,
          and_imp, forall_apply_eq_imp_iff₂]
      nodup_iff := by
        simp only [hintroduced, List.nodup_cons, List.mem_map, not_exists, not_and, ne_eq] }

/-- **Which tables a compiled statement introduces.** Whatever edits led to a canvas with a table, over every
catalog and in every dialect: it compiles if its numbers fit, and what it compiles to is a statement whose
tables stand to the canvas as `Scope` says. -/
theorem scope_of_compiled {draft : Draft} (h : Reachable cat draft) (htables : draft.canvas.tables ≠ [])
    (d : Dialect) (used : Catalog) :
    (NumbersFit used draft.canvas → ∃ sql, compile d used draft.canvas = .ok sql) ∧
    ∀ sql, compile d used draft.canvas = .ok sql → ∃ s,
      statement? used draft.canvas = .ok (some s) ∧ sql.toList = s.chars d ∧
        Scope draft.canvas (draft.canvas.tables.head htables) s := by
  have hc := h.sound.toWellFormed
  refine ⟨(compile_given_of_shaped hc.shaped htables).2, fun sql hsql => ?_⟩
  obtain ⟨s, hs, hchars⟩ := compile_eq_ok htables hsql
  exact ⟨s, hs, hchars, scope_statement hc.grounded (List.cons_head_tail htables).symm hs⟩

/-- The draft that edits lead to over the shop. -/
def drafted (edits : List Edit) : Draft :=
  performAll shop edits (opened (.text "Q") .null .fresh)

theorem reachable_drafted (edits : List Edit) : Reachable shop (drafted edits) :=
  reachable_performAll edits (.text "Q") .null .fresh

/-- Edits that place two tables, join the second one to the first and select a column of each. -/
def joining : List Edit :=
  [.addTable (.text "orders"), .addTable (.text "customers"),
   .addJoin (.text "orders") (.text "id") (.text "customers") (.text "id") (.text "LEFT"),
   .toggleColumn (.text "customers") (.text "name") .null, .toggleColumn (.text "orders") (.text "total") .null]

/-- What they lead to compiles, and every table of its statement is introduced once. -/
theorem scope_joining : Reachable shop (drafted joining) ∧ (drafted joining).canvas.tables ≠ [] ∧
    ∃ sql, compile .mysql shop (drafted joining).canvas = .ok sql ∧
      ∃ s : Statement, sql.toList = s.chars .mysql ∧ s.introduced = ["orders", "customers"] ∧ s.IsClosed := by
  have htables : (drafted joining).canvas.tables = ["orders", "customers"] := by decide +kernel
  have hjoins : (drafted joining).canvas.joins = [⟨"id-2", "orders", "id", "customers", "id", .left⟩] := by
    decide +kernel
  have hnamed : (drafted joining).canvas.namedTables = ["customers", "orders", "orders", "customers"] := by
    decide +kernel
  have hne : (drafted joining).canvas.tables ≠ [] := by simp [htables]
  have hfits : NumbersFit shop (drafted joining).canvas := by
    have hfilters : (drafted joining).canvas.filters = [] := rfl
    have hlimit : (drafted joining).canvas.limit = none := by decide +kernel
    simp [NumbersFit, hfilters, hlimit]
  obtain ⟨hgiven, hscope⟩ := scope_of_compiled (reachable_drafted joining) hne .mysql shop
  obtain ⟨sql, hsql⟩ := hgiven hfits
  obtain ⟨s, -, hchars, hs⟩ := hscope sql hsql
  simp only [htables, List.head_cons] at hs
  refine ⟨reachable_drafted joining, hne, sql, hsql, s, hchars, ?_, hs.closed_iff.2 ?_⟩
  · rw [hs.introduced, hjoins, List.map_cons, List.map_nil]
  · rw [hnamed, hjoins]
    decide

/-- Edits that place two tables and select a column of the second one. -/
def straying : List Edit :=
  [.addTable (.text "customers"), .addTable (.text "orders"),
   .toggleColumn (.text "orders") (.text "total") .null]

/-- Edits that place a table and join it to itself. -/
def doubling : List Edit :=
  [.addTable (.text "orders"),
   .addJoin (.text "orders") (.text "id") (.text "orders") (.text "total") (.text "INNER")]

/-- **A column that dangles, and a table that is introduced twice**: a column is selected from a table that no
join introduces, and the first table is the right one of a join. -/
theorem stray_and_doubled :
    (Reachable shop (drafted straying) ∧
      compile .ansi shop (drafted straying).canvas = .ok "SELECT orders.total\nFROM customers" ∧
      ∃ s, statement? shop (drafted straying).canvas = .ok (some s) ∧ ¬s.IsClosed) ∧
    (Reachable shop (drafted doubling) ∧
      compile .ansi shop (drafted doubling).canvas =
        .ok "SELECT *\nFROM orders\nINNER JOIN orders ON orders.id = orders.total" ∧
      ∃ s, statement? shop (drafted doubling).canvas = .ok (some s) ∧ ¬s.introduced.Nodup) := by
  have hstraying : compile .ansi shop (drafted straying).canvas = .ok "SELECT orders.total\nFROM customers" := rfl
  have hdoubling : compile .ansi shop (drafted doubling).canvas =
      .ok "SELECT *\nFROM orders\nINNER JOIN orders ON orders.id = orders.total" := rfl
  refine ⟨⟨reachable_drafted straying, hstraying, ?_⟩, ⟨reachable_drafted doubling, hdoubling, ?_⟩⟩
  · have htables : (drafted straying).canvas.tables = ["customers", "orders"] := by decide +kernel
    have hjoins : (drafted straying).canvas.joins = [] := by decide +kernel
    have hnamed : (drafted straying).canvas.namedTables = ["orders"] := by decide +kernel
    obtain ⟨s, hs, -⟩ := compile_eq_ok (by simp [htables]) hstraying
    refine ⟨s, hs, ?_⟩
    rw [(scope_statement (reachable_drafted straying).sound.grounded htables hs).closed_iff, hnamed, hjoins]
    decide
  · have htables : (drafted doubling).canvas.tables = ["orders"] := by decide +kernel
    have hrights : (drafted doubling).canvas.joins.map Join.rightTable = ["orders"] := by decide +kernel
    obtain ⟨s, hs, -⟩ := compile_eq_ok (by simp [htables]) hdoubling
    refine ⟨s, hs, ?_⟩
    rw [introduced_statement htables hs, hrights]
    decide

end Sql

end QueryCanvas
