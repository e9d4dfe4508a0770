import QueryCanvas.Proofs.Canvas.RoundTrip
import QueryCanvas.Proofs.Catalog.Load

/-!
# What a restored canvas keeps of its saved data

Any record may be restored, not only one that was written by `Canvas.toValue`. What was accepted is then on the
canvas, entry by entry and in the order of the data, with one exception: the entries of the selected columns
are replayed as toggles, so that an entry takes away the column that an equal one before it selected.

* `Restored`: the collections of a canvas against those of the data it was restored from.
* `restore_exact`: what is restored, and that every saved column is there exactly if no pair of a table and a
  column is saved twice.
* `restore_drops_repeated`: two equal entries leave no column.
-/

namespace QueryCanvas

namespace Canvas

variable {cat : Catalog} {c : Canvas} {d d' d'' : Draft} {fs : List (String × Value)} {ids ids' : IdSupply}

/-! ## Entries -/

/-- A saved column, and what it selects. -/
inductive ReadsColumn : Value → SelectedColumn → Prop
  | mk {fs : List (String × Value)} {s : SelectedColumn}
      (table : Value.field? fs "table" = some (.text s.table))
      (column : Value.field? fs "column" = some (.text s.column))
      (aliasName : aliasOf (Value.fieldOr fs "alias" .null) = .ok s.aliasName) : ReadsColumn (.record fs) s

/-- A saved join, and the join that it stands for: an inner one if it does not say its kind. -/
inductive ReadsJoin : Value → Join → Prop
  | mk {fs : List (String × Value)} {j : Join}
      (leftTable : Value.field? fs "left_table" = some (.text j.leftTable))
      (leftColumn : Value.field? fs "left_column" = some (.text j.leftColumn))
      (rightTable : Value.field? fs "right_table" = some (.text j.rightTable))
      (rightColumn : Value.field? fs "right_column" = some (.text j.rightColumn))
      (kind : choose "join kind" JoinKind.all JoinKind.name
        (Value.fieldOr fs "join_kind" (.text JoinKind.inner.name)) = .ok j.kind) : ReadsJoin (.record fs) j

/-- A saved filter, and the filter that it stands for, placed under the connective that it asks for or another
one. -/
inductive ReadsFilter (place : Option Connective → Option Connective) : Value → Filter → Prop
  | mk {fs : List (String × Value)} {f : Filter} {operator : Value} {asked : Option Connective}
      (table : Value.field? fs "table" = some (.text f.table))
      (column : Value.field? fs "column" = some (.text f.column))
      (named : Value.field? fs "operator" = some operator) (chosen : chooseOperator operator = .ok f.operator)
      (value : FilterValue.ofRaw f.operator (Value.fieldOr fs "value" .null) = .ok f.value)
      (asks : connectiveOf (Value.fieldOr fs "logical_connective" .null) = .ok asked)
      (placed : f.connective = place asked) : ReadsFilter place (.record fs) f

/-- Saved filters: the first one connects to nothing, whatever it asks for, and a later one is connected by AND
unless it asks otherwise. -/
inductive ReadsFilters : List Value → List Filter → Prop
  | nil : ReadsFilters [] []
  | cons {v : Value} {f : Filter} {vs : List Value} {fs : List Filter} (first : ReadsFilter (fun _ => none) v f)
      (later : List.Forall₂ (ReadsFilter fun asked => some (asked.getD .and)) vs fs) :
      ReadsFilters (v :: vs) (f :: fs)

/-- A saved sort, and the sort that it stands for: an ascending one if it does not say its direction. -/
inductive ReadsSort : Value → Sorting → Prop
  | mk {fs : List (String × Value)} {s : Sorting} (table : Value.field? fs "table" = some (.text s.table))
      (column : Value.field? fs "column" = some (.text s.column))
      (direction : choose "sort direction" Direction.all Direction.name
        (Value.fieldOr fs "direction" (.text Direction.asc.name)) = .ok s.direction) : ReadsSort (.record fs) s

/-- A saved group, and the group that it stands for. -/
inductive ReadsGroup : Value → Grouping → Prop
  | mk {fs : List (String × Value)} {g : Grouping} (table : Value.field? fs "table" = some (.text g.table))
      (column : Value.field? fs "column" = some (.text g.column)) : ReadsGroup (.record fs) g

/-- A saved aggregate, and the aggregate that it stands for. -/
inductive ReadsAggregate : Value → Aggregate → Prop
  | mk {fs : List (String × Value)} {a : Aggregate} {function : Value}
      (named : Value.field? fs "function" = some function)
      (chosen : choose "aggregation function" Aggregation.all Aggregation.name function = .ok a.function)
      (table : Value.field? fs "table" = some (.text a.table))
      (column : Value.field? fs "column" = some (.text a.column))
      (aliasName : aliasOf (Value.fieldOr fs "alias" .null) = .ok a.aliasName) : ReadsAggregate (.record fs) a

/-- Saved tables: each one once, where it is named first. -/
def ReadsTables (entries : List Value) (tables : List String) : Prop :=
  ∃ names : List String, entries = names.map .text ∧ tables = names.eraseDups

/-- The pair of a table and a column that a saved column gives. -/
def pairOf? : Value → Option (String × String)
  | .record fs =>
    match Value.field? fs "table", Value.field? fs "column" with
    | some (.text t), some (.text col) => some (t, col)
    | _, _ => none
  | _ => none

/-- Of the saved columns with the same pair the last one. -/
def latest : List Value → List Value
  | [] => []
  | e :: entries => if pairOf? e ∈ entries.map pairOf? then latest entries else e :: latest entries

/-- The saved columns that are left when each is toggled: of those with the same pair the last one, if their
number is odd. -/
def lasting (entries : List Value) : List Value :=
  (latest entries).filter fun e => (entries.map pairOf?).count (pairOf? e) % 2 == 1

/-- Saved columns that are toggled one after the other. -/
def ReadsToggled (entries : List Value) (columns : List SelectedColumn) : Prop :=
  List.Forall₂ ReadsColumn (lasting entries) columns

/-! ## A restored canvas -/

/-- A collection of the data is read as a list of parts; one that is absent is empty. -/
def Collected {α : Type} (fs : List (String × Value)) (name : String) (R : List Value → List α → Prop)
    (xs : List α) : Prop :=
  ∃ entries, entriesOf? (Value.fieldOr fs name (.list [])) = some entries ∧ R entries xs

/-- **A restored canvas** has the parts that the data has, where the selected columns are read in a given way. -/
structure Restored (columns : List Value → List SelectedColumn → Prop) (fs : List (String × Value))
    (c : Canvas) : Prop where
  id : (Value.fieldOr fs "id" .null).truthy = true → c.id = Value.fieldOr fs "id" .null
  name : c.name = (Value.fieldOr fs "name" .null).orElse (.text defaultName)
  tables : Collected fs "tables" ReadsTables c.tables
  columns : Collected fs "selected_columns" columns c.columns
  joins : Collected fs "joins" (List.Forall₂ ReadsJoin) c.joins
  filters : Collected fs "filters" ReadsFilters c.filters
  sorts : Collected fs "sorts" (List.Forall₂ ReadsSort) c.sorts
  groups : Collected fs "groups" (List.Forall₂ ReadsGroup) c.groups
  aggregates : Collected fs "aggregates" (List.Forall₂ ReadsAggregate) c.aggregates
  limit : limitValue c.limit = Value.fieldOr fs "limit" .null

/-! ## Following the replay -/

/-- A replay of some edits carries out the first one and replays the others. -/
theorem Replays.cons {x : Except EditError Edit} {xs : List (Except EditError Edit)}
    (h : Replays cat (x :: xs) d d'') :
    ∃ e r d', x = .ok e ∧ perform cat e d = (.ok r, d') ∧ Replays cat xs d' d'' := by
  cases x with
  | error err => cases h
  | ok e =>
    cases hp : perform cat e d with
    | mk res d' =>
      cases res with
      | error err => simp [Replays, replay, hp] at h
      | ok r => exact ⟨e, r, d', rfl, hp, by simpa [Replays, replay, hp] using h⟩

/-- A replay of two lists of edits replays one after the other. -/
theorem Replays.split {xs ys : List (Except EditError Edit)} (h : Replays cat (xs ++ ys) d d'') :
    ∃ d', Replays cat xs d d' ∧ Replays cat ys d' d'' := by
  induction xs generalizing d with
  | nil => exact ⟨d, rfl, h⟩
  | cons x xs ih =>
    obtain ⟨e, r, d₁, rfl, hp, hrest⟩ := Replays.cons h
    obtain ⟨d', hxs, hys⟩ := ih hrest
    exact ⟨d', (replays_one hp).append hxs, hys⟩

/-- **Following a collection.** The canvas is known but for the parts of the collection, and these are what
the entries replayed so far are read as. -/
theorem Replays.collected {α : Type} {name : String} {toEdit : Value → Except EditError Edit}
    {R : List Value → List α → Prop} {put : List α → Canvas}
    (h : Replays cat (collectionEdits fs name toEdit) d d') (hput : d.canvas = put []) (hnil : R [] [])
    (step : ∀ done xs v e r d d', R done xs → d.canvas = put xs → toEdit v = .ok e →
      perform cat e d = (.ok r, d') → ∃ xs', R (done ++ [v]) xs' ∧ d'.canvas = put xs') :
    ∃ xs, Collected fs name R xs ∧ d'.canvas = put xs := by
  cases hentries : entriesOf? (Value.fieldOr fs name (.list [])) with
  | none =>
    rw [collectionEdits, hentries] at h
    cases h
  | some entries =>
    rw [collectionEdits, hentries] at h
    suffices hgen : ∀ rest done xs d, entries = done ++ rest → R done xs → d.canvas = put xs →
        Replays cat (rest.map toEdit) d d' → ∃ xs, R entries xs ∧ d'.canvas = put xs by
      obtain ⟨xs, hxs, hd'⟩ := hgen entries [] [] d rfl hnil hput h
      exact ⟨xs, ⟨entries, hentries, hxs⟩, hd'⟩
    intro rest
    induction rest with
    | nil =>
      intro done xs d hdone hxs hd hreplay
      have hd' : d'.canvas = d.canvas := (Except.ok.inj (congrArg Prod.fst hreplay)).symm
      exact ⟨xs, by rwa [hdone, List.append_nil], hd'.trans hd⟩
    | cons v rest ih =>
      intro done xs d hdone hxs hd hreplay
      obtain ⟨e, r, d₁, he, hp, hrest⟩ := Replays.cons hreplay
      obtain ⟨xs', hxs', hd₁⟩ := step done xs v e r d d₁ hxs hd he hp
      exact ih (done ++ [v]) xs' d₁ (by simp [hdone]) hxs' hd₁ hrest

/-! ## Collections whose parts have an id -/

theorem fieldsOf_eq_ok {v : Value} : fieldsOf v = .ok fs ↔ v = .record fs := by
  cases v <;> simp [fieldsOf]

theorem require_eq_ok {name : String} {v : Value} : require fs name = .ok v ↔ Value.field? fs name = some v := by
  unfold require
  cases Value.field? fs name <;> simp

/-- One more entry is read as one more part. -/
theorem forall₂_snoc {α β : Type} {R : α → β → Prop} {as : List α} {bs : List β} {a : α} {b : β}
    (h : List.Forall₂ R as bs) (hab : R a b) : List.Forall₂ R (as ++ [a]) (bs ++ [b]) :=
  List.rel_append h (.cons hab .nil)

theorem Replays.joins (h : Replays cat (collectionEdits fs "joins" joinEdit) d d') (hd : d.canvas.joins = []) :
    ∃ js, Collected fs "joins" (List.Forall₂ ReadsJoin) js ∧ d'.canvas = { d.canvas with joins := js } := by
  refine h.collected (by simp [← hd]) .nil fun done js v e r d₁ d₂ hdone hcanvas he hp => ?_
  simp only [joinEdit, bind_eq_ok, fieldsOf_eq_ok, require_eq_ok, pure_eq_ok, Except.ok.injEq] at he
  obtain ⟨fs', rfl, lt, hlt, lc, hlc, rt, hrt, rc, hrc, rfl⟩ := he
  obtain ⟨hr⟩ | ⟨ha⟩ := perform_eq_ok.1 hp
  · cases hr
  · cases ha with
    | @join lt lc rt rc _ kind hleft hright hk =>
      exact ⟨js ++ [⟨d₁.ids.next.1, lt, lc, rt, rc, kind⟩], forall₂_snoc hdone (.mk hlt hlc hrt hrc hk),
        by simp [hcanvas]⟩

theorem Replays.sorts (h : Replays cat (collectionEdits fs "sorts" sortEdit) d d') (hd : d.canvas.sorts = []) :
    ∃ ss, Collected fs "sorts" (List.Forall₂ ReadsSort) ss ∧ d'.canvas = { d.canvas with sorts := ss } := by
  refine h.collected (by simp [← hd]) .nil fun done ss v e r d₁ d₂ hdone hcanvas he hp => ?_
  simp only [sortEdit, bind_eq_ok, fieldsOf_eq_ok, require_eq_ok, pure_eq_ok, Except.ok.injEq] at he
  obtain ⟨fs', rfl, t, ht, col, hcol, rfl⟩ := he
  obtain ⟨hr⟩ | ⟨ha⟩ := perform_eq_ok.1 hp
  · cases hr
  · cases ha with
    | @sort t col _ direction href hdir =>
      exact ⟨ss ++ [⟨d₁.ids.next.1, t, col, direction⟩], forall₂_snoc hdone (.mk ht hcol hdir), by simp [hcanvas]⟩

theorem Replays.groups (h : Replays cat (collectionEdits fs "groups" groupEdit) d d')
    (hd : d.canvas.groups = []) :
    ∃ gs, Collected fs "groups" (List.Forall₂ ReadsGroup) gs ∧ d'.canvas = { d.canvas with groups := gs } := by
  refine h.collected (by simp [← hd]) .nil fun done gs v e r d₁ d₂ hdone hcanvas he hp => ?_
  simp only [groupEdit, bind_eq_ok, fieldsOf_eq_ok, require_eq_ok, pure_eq_ok, Except.ok.injEq] at he
  obtain ⟨fs', rfl, t, ht, col, hcol, rfl⟩ := he
  obtain ⟨hr⟩ | ⟨ha⟩ := perform_eq_ok.1 hp
  · cases hr
  · cases ha with
    | @group t col href =>
      exact ⟨gs ++ [⟨d₁.ids.next.1, t, col⟩], forall₂_snoc hdone (.mk ht hcol), by simp [hcanvas]⟩

theorem Replays.aggregates (h : Replays cat (collectionEdits fs "aggregates" aggregateEdit) d d')
    (hd : d.canvas.aggregates = []) :
    ∃ as, Collected fs "aggregates" (List.Forall₂ ReadsAggregate) as ∧
      d'.canvas = { d.canvas with aggregates := as } := by
  refine h.collected (by simp [← hd]) .nil fun done as v e r d₁ d₂ hdone hcanvas he hp => ?_
  simp only [aggregateEdit, bind_eq_ok, fieldsOf_eq_ok, require_eq_ok, pure_eq_ok, Except.ok.injEq] at he
  obtain ⟨fs', rfl, fn, hfn, t, ht, col, hcol, rfl⟩ := he
  obtain ⟨hr⟩ | ⟨ha⟩ := perform_eq_ok.1 hp
  · cases hr
  · cases ha with
    | @aggregate t col _ _ function name href hchoose hname =>
      exact ⟨as ++ [⟨d₁.ids.next.1, function, t, col, name⟩], forall₂_snoc hdone (.mk hfn hchoose ht hcol hname),
        by simp [hcanvas]⟩

/-- A filter is placed by whether one is there already. -/
theorem ReadsFilters.snoc {vs : List Value} {v : Value} {filters : List Filter} {f : Filter}
    (h : ReadsFilters vs filters)
    (hv : ReadsFilter (fun asked => if filters.isEmpty then none else some (asked.getD .and)) v f) :
    ReadsFilters (vs ++ [v]) (filters ++ [f]) := by
  cases h with
  | nil => exact .cons hv .nil
  | cons first later => exact .cons first (forall₂_snoc later hv)

theorem Replays.filters (h : Replays cat (collectionEdits fs "filters" filterEdit) d d')
    (hd : d.canvas.filters = []) :
    ∃ gs, Collected fs "filters" ReadsFilters gs ∧ d'.canvas = { d.canvas with filters := gs } := by
  refine h.collected (by simp [← hd]) .nil fun done gs v e r d₁ d₂ hdone hcanvas he hp => ?_
  simp only [filterEdit, bind_eq_ok, fieldsOf_eq_ok, require_eq_ok, pure_eq_ok, Except.ok.injEq] at he
  obtain ⟨fs', rfl, t, ht, col, hcol, op, hop, rfl⟩ := he
  obtain ⟨hr⟩ | ⟨ha⟩ := perform_eq_ok.1 hp
  · cases hr
  · cases ha with
    | @filter t col _ _ _ o asked u href hchoose hk hv hu =>
      have hplaced : d₁.canvas.placedConnective asked =
          if gs.isEmpty then none else some (asked.getD .and) := by rw [placedConnective, hcanvas]
      exact ⟨gs ++ [⟨d₁.ids.next.1, t, col, o, u, d₁.canvas.placedConnective asked⟩],
        hdone.snoc (.mk ht hcol hop hchoose hv hk hplaced), by simp [hcanvas]⟩

/-! ## Tables -/

theorem Replays.tables (h : Replays cat (collectionEdits fs "tables" fun t => .ok (.addTable t)) d d')
    (hd : d.canvas.tables = []) :
    ∃ ts, Collected fs "tables" ReadsTables ts ∧ d'.canvas = { d.canvas with tables := ts } := by
  refine h.collected (by simp [← hd]) ⟨[], rfl, rfl⟩ fun done ts v e r d₁ d₂ hdone hcanvas he hp => ?_
  obtain ⟨names, rfl, rfl⟩ := hdone
  cases he
  obtain ⟨hr⟩ | ⟨ha⟩ := perform_eq_ok.1 hp
  · cases hr with
    | @tableKept t ht =>
      have ht : t ∈ names := by simpa [hcanvas] using ht
      exact ⟨_, ⟨names ++ [t], by simp, by rw [Catalog.eraseDups_snoc, if_pos ht]⟩, hcanvas⟩
    | @tablePlaced t ht hcat =>
      have ht : t ∉ names := by simpa [hcanvas] using ht
      exact ⟨names.eraseDups ++ [t], ⟨names ++ [t], by simp, by rw [Catalog.eraseDups_snoc, if_neg ht]⟩,
        by simp [hcanvas]⟩
  · cases ha

/-! ## Selected columns -/

section Toggles

variable {entries : List Value} {v : Value} {s : SelectedColumn} {columns : List SelectedColumn} {t col : String}

theorem ReadsColumn.pairOf? (h : ReadsColumn v s) : pairOf? v = some (s.table, s.column) := by
  cases h with
  | mk table column aliasName => simp [Canvas.pairOf?, table, column]

/-- The columns that are read from some entries have their pairs. -/
theorem map_pairOf? (h : List.Forall₂ ReadsColumn entries columns) :
    entries.map pairOf? = columns.map fun s => some (s.table, s.column) := by
  induction h with
  | nil => rfl
  | cons hv hrest ih => rw [List.map_cons, List.map_cons, hv.pairOf?, ih]

/-- One more entry takes the place of the last one with its pair. -/
theorem latest_snoc : latest (entries ++ [v]) = (latest entries).filter (pairOf? · != pairOf? v) ++ [v] := by
  induction entries with
  | nil => rfl
  | cons e entries ih =>
    by_cases hv : pairOf? e = pairOf? v
    · by_cases hlater : pairOf? e ∈ entries.map pairOf?
      · simp [latest, ih, hv, hv ▸ hlater]
      · simp [latest, ih, hv, hv ▸ hlater]
    · by_cases hlater : pairOf? e ∈ entries.map pairOf?
      · simp [latest, ih, hlater]
      · simp [latest, ih, hv, hlater]

/-- Every pair has a last entry, and no other pair has. -/
theorem mem_map_latest {p : Option (String × String)} :
    p ∈ (latest entries).map pairOf? ↔ p ∈ entries.map pairOf? := by
  induction entries with
  | nil => rfl
  | cons e entries ih =>
    by_cases hlater : pairOf? e ∈ entries.map pairOf?
    · rw [latest, if_pos hlater, ih, List.map_cons, List.mem_cons]
      exact ⟨.inr, fun h => h.elim (fun heq => heq ▸ hlater) fun h => h⟩
    · rw [latest, if_neg hlater, List.map_cons, List.mem_cons, ih, List.map_cons, List.mem_cons]

/-- Each pair has one last entry. -/
theorem nodup_map_latest : ((latest entries).map pairOf?).Nodup := by
  induction entries with
  | nil => exact .nil
  | cons e entries ih =>
    by_cases hlater : pairOf? e ∈ entries.map pairOf?
    · rwa [latest, if_pos hlater]
    · rw [latest, if_neg hlater, List.map_cons, List.nodup_cons, mem_map_latest]
      exact ⟨hlater, ih⟩

/-- Entries with distinct pairs are all the last of theirs. -/
theorem latest_eq_self (h : (entries.map pairOf?).Nodup) : latest entries = entries := by
  induction entries with
  | nil => rfl
  | cons e entries ih =>
    rw [List.map_cons, List.nodup_cons] at h
    rw [latest, if_neg h.1, ih h.2]

theorem lasting_eq_self (h : (entries.map pairOf?).Nodup) : lasting entries = entries := by
  rw [lasting, latest_eq_self h, List.filter_eq_self]
  intro e he
  rw [List.count_eq_one_of_mem h (List.mem_map_of_mem he)]
  rfl

/-- The pairs that are left are those whose entries are odd in number. -/
theorem mem_map_lasting {p : Option (String × String)} :
    p ∈ (lasting entries).map pairOf? ↔ (entries.map pairOf?).count p % 2 = 1 := by
  constructor
  · intro h
    obtain ⟨e, he, rfl⟩ := List.mem_map.1 h
    exact eq_of_beq (List.mem_filter.1 he).2
  · intro hodd
    have hmem : p ∈ entries.map pairOf? := List.count_pos_iff.1 (by omega)
    obtain ⟨e, he, rfl⟩ := List.mem_map.1 (mem_map_latest.2 hmem)
    exact List.mem_map_of_mem (List.mem_filter.2 ⟨he, beq_iff_eq.2 hodd⟩)

/-- No pair is left twice. -/
theorem nodup_map_lasting : ((lasting entries).map pairOf?).Nodup :=
  nodup_map_latest.sublist (List.filter_sublist.map _)

/-- **Toggling once more** takes the entry with the same pair away; if there is none, the new one is left. -/
theorem lasting_snoc : lasting (entries ++ [v]) = (lasting entries).filter (pairOf? · != pairOf? v) ++
    if pairOf? v ∈ (lasting entries).map pairOf? then [] else [v] := by
  have hothers : ((latest entries).filter (pairOf? · != pairOf? v)).filter
      (fun e => ((entries ++ [v]).map pairOf?).count (pairOf? e) % 2 == 1) =
      (lasting entries).filter (pairOf? · != pairOf? v) := by
    rw [lasting, List.filter_comm, List.filter_filter, List.filter_filter]
    refine List.filter_congr fun e _ => ?_
    by_cases hv : pairOf? e = pairOf? v
    · simp [hv]
    · simp [List.count_append, Ne.symm hv]
  have hself : [v].filter (fun e => ((entries ++ [v]).map pairOf?).count (pairOf? e) % 2 == 1) =
      if pairOf? v ∈ (lasting entries).map pairOf? then [] else [v] := by
    have hcount : ((entries ++ [v]).map pairOf?).count (pairOf? v) =
        (entries.map pairOf?).count (pairOf? v) + 1 := by
      simp
    rw [List.filter_cons, List.filter_nil, hcount]
    simp only [mem_map_lasting, beq_iff_eq]
    split <;> split <;> first | rfl | omega
  rw [lasting, latest_snoc, List.filter_append, hothers, hself]

/-- Among columns with distinct pairs, taking away the one of a pair keeps those of the others. -/
theorem eraseP_selects (h : (columns.map fun s => (s.table, s.column)).Nodup) :
    columns.eraseP (selects t col) = columns.filter (!selects t col ·) := by
  induction columns with
  | nil => rfl
  | cons s columns ih =>
    rw [List.map_cons, List.nodup_cons] at h
    by_cases hs : selects t col s = true
    · obtain ⟨rfl, rfl⟩ : s.table = t ∧ s.column = col := by simpa [selects] using hs
      rw [List.eraseP_cons_of_pos hs, List.filter_cons_of_neg (by simp [hs]), List.filter_eq_self.2]
      intro x hx
      have hne : (x.table, x.column) ≠ (s.table, s.column) := fun heq => h.1 (List.mem_map.2 ⟨x, hx, heq⟩)
      simpa [selects, Prod.mk.injEq, not_and, Decidable.imp_iff_not_or] using hne
    · rw [List.eraseP_cons_of_neg hs, List.filter_cons_of_pos (by simp [hs]), ih h.2]

/-- The columns that are left have distinct pairs. -/
theorem ReadsToggled.nodup (h : ReadsToggled entries columns) :
    (columns.map fun s => (s.table, s.column)).Nodup := by
  have hpairs : ((lasting entries).map Canvas.pairOf?).Nodup := nodup_map_lasting
  rw [map_pairOf? h] at hpairs
  exact List.Nodup.of_map some (by rwa [List.map_map])

theorem ReadsToggled.mem_iff (h : ReadsToggled entries columns) :
    some (t, col) ∈ (lasting entries).map pairOf? ↔ columns.any (selects t col) = true := by
  rw [map_pairOf? h]
  simp [selects]

/-- An entry that deselects a column. -/
theorem ReadsToggled.dropped (h : ReadsToggled entries columns) (hv : Canvas.pairOf? v = some (t, col))
    (hsel : columns.any (selects t col) = true) :
    ReadsToggled (entries ++ [v]) (columns.eraseP (selects t col)) := by
  rw [ReadsToggled, lasting_snoc, hv, if_pos (h.mem_iff.2 hsel), List.append_nil, eraseP_selects h.nodup]
  refine List.rel_filter (fun e s hes => ?_) h
  show (Canvas.pairOf? e != some (t, col)) = true ↔ (!selects t col s) = true
  rw [hes.pairOf?, selects, bne_iff_ne, Ne, Option.some.injEq, Prod.mk.injEq]
  simp [imp_iff_not_or]

/-- An entry that selects a column. -/
theorem ReadsToggled.selected (h : ReadsToggled entries columns) (hv : ReadsColumn v s)
    (hsel : columns.any (selects s.table s.column) = false) : ReadsToggled (entries ++ [v]) (columns ++ [s]) := by
  have hnew : Canvas.pairOf? v ∉ (lasting entries).map Canvas.pairOf? := by
    rw [hv.pairOf?, h.mem_iff, hsel]
    exact Bool.false_ne_true
  have hkept : (lasting entries).filter (Canvas.pairOf? · != Canvas.pairOf? v) = lasting entries :=
    List.filter_eq_self.2 fun e he => bne_iff_ne.2 fun heq => hnew (List.mem_map.2 ⟨e, he, heq⟩)
  rw [ReadsToggled, lasting_snoc, if_neg hnew, hkept]
  exact forall₂_snoc h hv

end Toggles

theorem Replays.columns (h : Replays cat (collectionEdits fs "selected_columns" columnEdit) d d')
    (hd : d.canvas.columns = []) :
    ∃ cs, Collected fs "selected_columns" ReadsToggled cs ∧ d'.canvas = { d.canvas with columns := cs } := by
  refine h.collected (by simp [← hd]) .nil fun done cs v e r d₁ d₂ hdone hcanvas he hp => ?_
  simp only [columnEdit, bind_eq_ok, fieldsOf_eq_ok, require_eq_ok, pure_eq_ok, Except.ok.injEq] at he
  obtain ⟨fs', rfl, t, ht, col, hcol, rfl⟩ := he
  obtain ⟨hr⟩ | ⟨ha⟩ := perform_eq_ok.1 hp
  · cases hr with
    | @columnDropped t col _ href hsel =>
      have hpair : pairOf? (.record fs') = some (t, col) := by simp [pairOf?, ht, hcol]
      exact ⟨_, hdone.dropped hpair (by rwa [hcanvas] at hsel), by simp [hcanvas]⟩
    | @columnSelected t col _ name href hsel hname =>
      exact ⟨cs ++ [⟨t, col, name⟩], hdone.selected (.mk ht hcol hname) (by rwa [hcanvas] at hsel),
        by simp [hcanvas]⟩
  · cases ha

/-! ## The whole canvas -/

theorem Replays.limit {v : Value} (h : Replays cat [.ok (.setLimit v)] d d') :
    limitValue d'.canvas.limit = v ∧ d'.canvas = { d.canvas with limit := d'.canvas.limit } := by
  obtain ⟨e, r, d₁, he, hp, hrest⟩ := Replays.cons h
  cases he
  have hd' : d'.canvas = d₁.canvas := (Except.ok.inj (congrArg Prod.fst hrest)).symm
  rw [hd']
  obtain ⟨hr⟩ | ⟨ha⟩ := perform_eq_ok.1 hp
  · cases hr with
    | limitCleared => exact ⟨rfl, rfl⟩
    | limitSet _ => exact ⟨rfl, rfl⟩
  · cases ha

/-- No pair of a table and a column is saved twice. -/
def PairsDistinct (fs : List (String × Value)) : Prop :=
  ∀ entries, entriesOf? (Value.fieldOr fs "selected_columns" (.list [])) = some entries →
    (entries.map pairOf?).Nodup

/-- The parts of a restored canvas, its columns toggled. -/
theorem restored_toggled (h : restore cat (.record fs) ids = (.ok c, ids')) : Restored ReadsToggled fs c := by
  obtain ⟨i, ids₀, hopened, hid⟩ := exists_opened ((Value.fieldOr fs "name" .null).orElse (.text defaultName))
    (Value.fieldOr fs "id" .null) ids
  simp only [restore, hopened] at h
  have hreplay : Replays cat (savedEdits fs) _ ⟨c, ids'⟩ := h
  unfold savedEdits at hreplay
  obtain ⟨d₇, h₇, hlimit⟩ := hreplay.split
  obtain ⟨d₆, h₆, haggregates⟩ := h₇.split
  obtain ⟨d₅, h₅, hgroups⟩ := h₆.split
  obtain ⟨d₄, h₄, hsorts⟩ := h₅.split
  obtain ⟨d₃, h₃, hfilters⟩ := h₄.split
  obtain ⟨d₂, h₂, hjoins⟩ := h₃.split
  obtain ⟨d₁, htables, hcolumns⟩ := h₂.split
  obtain ⟨ts, hts, hd₁⟩ := htables.tables rfl
  obtain ⟨cs, hcs, hd₂⟩ := hcolumns.columns (by rw [hd₁]; rfl)
  obtain ⟨js, hjs, hd₃⟩ := hjoins.joins (by rw [hd₂, hd₁]; rfl)
  obtain ⟨gs, hgs, hd₄⟩ := hfilters.filters (by rw [hd₃, hd₂, hd₁]; rfl)
  obtain ⟨ss, hss, hd₅⟩ := hsorts.sorts (by rw [hd₄, hd₃, hd₂, hd₁]; rfl)
  obtain ⟨us, hus, hd₆⟩ := hgroups.groups (by rw [hd₅, hd₄, hd₃, hd₂, hd₁]; rfl)
  obtain ⟨as, has, hd₇⟩ := haggregates.aggregates (by rw [hd₆, hd₅, hd₄, hd₃, hd₂, hd₁]; rfl)
  obtain ⟨hvalue, hd₈⟩ := hlimit.limit
  rw [hd₇, hd₆, hd₅, hd₄, hd₃, hd₂, hd₁] at hd₈
  dsimp only at hd₈
  rw [hd₈]
  exact
    { id := hid
      name := rfl
      tables := hts
      columns := hcs
      joins := hjs
      filters := hgs
      sorts := hss
      groups := hus
      aggregates := has
      limit := hvalue }

/-- **Restoring.** Whatever record a canvas is restored from, its tables are the distinct ones of the data, and
its joins, filters, sorts, groups and aggregates are those of the data, one for each entry and in the same order.
Its columns are what is left when the saved ones are toggled one after the other; they are those of the data, one
for each entry, exactly if no pair of a table and a column is saved twice. -/
theorem restore_exact (h : restore cat (.record fs) ids = (.ok c, ids')) :
    Restored ReadsToggled fs c ∧ (Restored (List.Forall₂ ReadsColumn) fs c ↔ PairsDistinct fs) := by
  have hrestored := restored_toggled h
  refine ⟨hrestored, ?_⟩
  obtain ⟨entries, hentries, htoggled⟩ := hrestored.columns
  constructor
  · intro hevery entries' hentries'
    obtain ⟨entries'', hentries'', hread⟩ := hevery.columns
    obtain rfl : entries'' = entries' := Option.some.inj (hentries''.symm.trans hentries')
    rw [map_pairOf? hread, ← map_pairOf? htoggled]
    exact nodup_map_lasting
  · intro hdistinct
    have hread : List.Forall₂ ReadsColumn entries c.columns := by
      rw [← lasting_eq_self (hdistinct entries hentries)]
      exact htoggled
    exact { hrestored with columns := ⟨entries, hentries, hread⟩ }

/-- Data that names a table and selects some columns of it. -/
def selecting (table : String) (columns : List String) : List (String × Value) :=
  [("tables", .list [.text table]),
   ("selected_columns", .list (columns.map fun col => .record [("table", .text table), ("column", .text col)]))]

/-- Two columns are both restored. -/
theorem restored_selecting : ∃ c ids',
    restore shop (.record (selecting "orders" ["id", "total"])) .fresh = (.ok c, ids') ∧
      Restored (List.Forall₂ ReadsColumn) (selecting "orders" ["id", "total"]) c := by
  obtain ⟨c, ids', h⟩ : ∃ c ids', restore shop (.record (selecting "orders" ["id", "total"])) .fresh =
      (.ok c, ids') := ⟨_, _, rfl⟩
  have hdistinct : PairsDistinct (selecting "orders" ["id", "total"]) := by
    intro entries hentries
    cases hentries
    decide +kernel
  exact ⟨c, ids', h, (restore_exact h).2.2 hdistinct⟩

/-- A column that is saved twice is not restored at all. -/
theorem restore_drops_repeated : ∃ c ids',
    restore shop (.record (selecting "orders" ["id", "id"])) .fresh = (.ok c, ids') ∧ c.columns = [] ∧
      ¬Restored (List.Forall₂ ReadsColumn) (selecting "orders" ["id", "id"]) c := by
  refine ⟨_, _, rfl, rfl, fun h => ?_⟩
  obtain ⟨entries, hentries, hread⟩ := h.columns
  cases hentries
  cases hread

end Canvas

end QueryCanvas
