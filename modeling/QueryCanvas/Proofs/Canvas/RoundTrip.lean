import QueryCanvas.Proofs.Canvas.Invariant
import QueryCanvas.Proofs.Text.Character

/-!
# Saving and restoring

`Canvas.restore` reads back what `Canvas.toValue` writes. A restored canvas is built by replaying its
parts as edits, so the proof follows the replay: one collection after the other, and in each collection
one part after the other, the draft is the saved canvas as far as it has been replayed, but for the ids
of its parts (`Like`). Each rule of a well-formed canvas is what lets one of these edits through.

## Results

* `Sound.restore`: a sound canvas with an id and a name is restored, up to the ids of its parts.
* `restore_toValue`: so is every canvas that edits lead to from an empty one with a name, and the two
  compile to the same statement in every dialect.
-/

namespace QueryCanvas

namespace Canvas

variable {cat : Catalog} {c : Canvas} {d d' : Draft}

/-- A canvas with the ids of its parts blanked. -/
def anonymous (c : Canvas) : Canvas :=
  { c with
    joins := c.joins.map fun j => { j with id := "" }
    filters := c.filters.map fun f => { f with id := "" }
    sorts := c.sorts.map fun s => { s with id := "" }
    groups := c.groups.map fun g => { g with id := "" }
    aggregates := c.aggregates.map fun a => { a with id := "" } }

/-- The canvas of a draft is a given one but for the ids of parts. -/
def Like (c : Canvas) (d : Draft) : Prop :=
  d.canvas.anonymous = c.anonymous

theorem like_iff : Like c d ↔
    d.canvas.id = c.id ∧ d.canvas.name = c.name ∧ d.canvas.tables = c.tables ∧
      d.canvas.columns = c.columns ∧ d.canvas.anonymous.joins = c.anonymous.joins ∧
      d.canvas.anonymous.filters = c.anonymous.filters ∧ d.canvas.anonymous.sorts = c.anonymous.sorts ∧
      d.canvas.anonymous.groups = c.anonymous.groups ∧
      d.canvas.anonymous.aggregates = c.anonymous.aggregates ∧ d.canvas.limit = c.limit := by
  simp only [Like, anonymous, Canvas.mk.injEq]

theorem Like.tables (h : Like c d) : d.canvas.tables = c.tables :=
  (like_iff.1 h).2.2.1

theorem Like.columns (h : Like c d) : d.canvas.columns = c.columns :=
  (like_iff.1 h).2.2.2.1

/-- References depend on the tables only. -/
theorem Like.refers (h : Like c d) {t col : String} (hr : Refers cat c t col) : Refers cat d.canvas t col :=
  hr.mono (by rw [h.tables]; exact List.Subset.refl _)

/-- The first filter is the first one in both. -/
theorem Like.placedConnective (h : Like c d) (asked : Option Connective) :
    d.canvas.placedConnective asked = c.placedConnective asked := by
  have hfs := (like_iff.1 h).2.2.2.2.2.1
  have hempty : d.canvas.filters.isEmpty = c.filters.isEmpty := by
    simpa [anonymous] using congrArg List.isEmpty hfs
  rw [Canvas.placedConnective, Canvas.placedConnective, hempty]

/-! ## Arguments that are read back -/

/-- A plain identifier has no blanks around it. -/
theorem trim_plainIdentifier {a : String} (h : PlainIdentifier a) : Text.trim a = a := by
  obtain ⟨x, xs, hxs, hx, hrest⟩ := h
  have hall : ∀ y ∈ x :: xs, Text.isBlank y = false := by
    intro y hy
    rcases List.mem_cons.1 hy with rfl | hy
    · exact Text.not_isBlank_of_plain (hx.imp_left fun h => by simp [Char.isAlphanum, h])
    · exact Text.not_isBlank_of_plain (hrest y hy)
  rw [Text.trim, hxs, Text.trimChars_eq_self hall, ← hxs, String.ofList_toList]

/-- A plain alias is read back from its saved form. -/
theorem aliasOf_optionalText {name : Option String} (h : ∀ a, name = some a → PlainIdentifier a) :
    aliasOf (optionalText name) = .ok name := by
  cases name with
  | none => rfl
  | some a =>
    have hplain := h a rfl
    have hne : a ≠ "" := by
      rintro rfl
      obtain ⟨x, xs, hxs, -⟩ := hplain
      cases hxs
    simp only [optionalText, aliasOf, trim_plainIdentifier hplain, hne, if_false,
      isPlainIdentifier_iff.2 hplain, if_true]

theorem chooseOperator_name (o : FilterOperator) : chooseOperator (.text o.name) = .ok o := by
  cases o <;> rfl

theorem connectiveOf_optionalText (k : Option Connective) :
    connectiveOf (optionalText (k.map Connective.name)) = .ok k := by
  rcases k with _ | _ | _ <;> rfl

theorem choose_joinKind (k : JoinKind) :
    choose "join kind" JoinKind.all JoinKind.name (.text k.name) = .ok k := by
  cases k <;> rfl

theorem choose_direction (dir : Direction) :
    choose "sort direction" Direction.all Direction.name (.text dir.name) = .ok dir := by
  cases dir <;> rfl

theorem choose_aggregation (f : Aggregation) :
    choose "aggregation function" Aggregation.all Aggregation.name (.text f.name) = .ok f := by
  cases f <;> rfl

/-! ## Replaying a collection -/

/-- A replay goes through some edits without a refusal. -/
def Replays (cat : Catalog) (edits : List (Except EditError Edit)) (d d' : Draft) : Prop :=
  replay cat edits d = (.ok d'.canvas, d'.ids)

/-- What was replayed without a refusal only moves the draft on. -/
theorem Replays.append {xs ys : List (Except EditError Edit)} {d'' : Draft} (h : Replays cat xs d d')
    (h' : Replays cat ys d' d'') : Replays cat (xs ++ ys) d d'' := by
  induction xs generalizing d with
  | nil =>
    obtain ⟨c, ids⟩ := d
    obtain ⟨c', ids'⟩ := d'
    cases h
    exact h'
  | cons x xs ih =>
    cases x with
    | error err => cases h
    | ok e =>
      cases hp : perform cat e d with
      | mk res d₁ =>
        cases res with
        | error err => simp [Replays, replay, hp] at h
        | ok r =>
          have hrest : Replays cat xs d₁ d' := by simpa [Replays, replay, hp] using h
          have hall := ih hrest
          simpa [Replays, replay, hp] using hall

theorem replays_one {e : Edit} {r : Reply} (h : perform cat e d = (.ok r, d')) :
    Replays cat [.ok e] d d' := by
  simp [Replays, replay, h]

/-- **Replaying a collection.** If each entry is accepted once those before it were, and moves the
draft on by itself, the whole collection is replayed. -/
theorem replays_collection {α : Type} {toEdit : α → Except EditError Edit} {items : List α}
    (Done : List α → Draft → Prop)
    (step : ∀ done a rest d, items = done ++ a :: rest → Done done d →
      ∃ e r d', toEdit a = .ok e ∧ perform cat e d = (.ok r, d') ∧ Done (done ++ [a]) d')
    (h : Done [] d) : ∃ d', Replays cat (items.map toEdit) d d' ∧ Done items d' := by
  suffices hgen : ∀ rest done d, items = done ++ rest → Done done d →
      ∃ d', Replays cat (rest.map toEdit) d d' ∧ Done items d' from hgen items [] d rfl h
  intro rest
  induction rest with
  | nil =>
    intro done d hitems hd
    rw [List.append_nil] at hitems
    exact ⟨d, rfl, hitems ▸ hd⟩
  | cons a rest ih =>
    intro done d hitems hd
    obtain ⟨e, r, d₁, he, hp, hd₁⟩ := step done a rest d hitems hd
    obtain ⟨d', hrest, hd'⟩ := ih (done ++ [a]) d₁ (by simp [hitems]) hd₁
    refine ⟨d', ?_, hd'⟩
    rw [List.map_cons, he]
    exact (replays_one hp).append hrest

/-! ## The collections of a saved canvas

`c` is the canvas that was saved. Each lemma takes the draft from the canvas replayed so far to the one
with a further collection. -/

section Collections

variable {ids : IdSupply}

theorem replays_tables (h : WellFormed cat c) (hd : Like (empty c.id c.name) d) :
    ∃ d', Replays cat (c.tables.map fun t => .ok (.addTable (.text t))) d d' ∧
      Like { empty c.id c.name with tables := c.tables } d' := by
  refine replays_collection (fun done => Like { empty c.id c.name with tables := done }) ?_ hd
  intro done t rest d hitems hd
  have hnew : t ∉ d.canvas.tables := by
    have hnodup := h.tables_nodup
    rw [hitems, List.nodup_append] at hnodup
    rw [hd.tables]
    exact fun ht => hnodup.2.2 t ht t List.mem_cons_self rfl
  have hcat : cat.contains t = true := h.tables_known t (by simp [hitems])
  refine ⟨_, _, _, rfl, (Revision.tablePlaced hnew hcat).performed, ?_⟩
  simpa [like_iff, anonymous] using hd

theorem replays_columns (h : WellFormed cat c) (hd : Like { empty c.id c.name with tables := c.tables } d) :
    ∃ d', Replays cat (c.columns.map fun s => columnEdit (columnRecord s)) d d' ∧
      Like { empty c.id c.name with tables := c.tables, columns := c.columns } d' := by
  refine replays_collection
    (fun done => Like { empty c.id c.name with tables := c.tables, columns := done }) ?_ hd
  intro done s rest d hitems hd
  have hmem : s ∈ c.columns := by simp [hitems]
  have hsel : d.canvas.columns.any (selects s.table s.column) = false := by
    have hnodup := h.columns_nodup
    rw [hitems, List.map_append, List.nodup_append] at hnodup
    rw [hd.columns, List.any_eq_false]
    intro x hx hsel
    obtain ⟨ht, hcol⟩ : x.table = s.table ∧ x.column = s.column := by simpa [selects] using hsel
    refine hnodup.2.2 _ (List.mem_map_of_mem hx) (s.table, s.column) List.mem_cons_self ?_
    rw [ht, hcol]
  have hname := aliasOf_optionalText (h.column_aliases s hmem)
  have href : Refers cat d.canvas s.table s.column := hd.refers (h.grounded.columns s hmem)
  refine ⟨_, _, _, rfl, (Revision.columnSelected href hsel hname).performed, ?_⟩
  simpa [like_iff, anonymous] using hd

theorem replays_joins (h : WellFormed cat c)
    (hd : Like { empty c.id c.name with tables := c.tables, columns := c.columns } d) :
    ∃ d', Replays cat (c.joins.map fun j => joinEdit (joinRecord j)) d d' ∧
      Like { empty c.id c.name with tables := c.tables, columns := c.columns, joins := c.joins } d' := by
  refine replays_collection (fun done =>
    Like { empty c.id c.name with tables := c.tables, columns := c.columns, joins := done }) ?_ hd
  intro done j rest d hitems hd
  obtain ⟨hleft, hright⟩ := h.grounded.joins j (by simp [hitems])
  have hleft : Refers cat d.canvas j.leftTable j.leftColumn := hd.refers hleft
  have hright : Refers cat d.canvas j.rightTable j.rightColumn := hd.refers hright
  refine ⟨_, _, _, rfl, (Addition.join hleft hright (choose_joinKind j.kind)).performed, ?_⟩
  simpa [like_iff, anonymous] using hd

/-- The connective of a filter is the one that it is placed under behind the filters before it. -/
theorem Connected.placedConnective {done rest : List Filter} {f : Filter}
    (h : Connected (done ++ f :: rest)) (hd : c.filters = done) :
    c.placedConnective f.connective = f.connective := by
  subst hd
  cases hfs : c.filters with
  | nil =>
    rw [hfs] at h
    simp [Canvas.placedConnective, hfs, h.1]
  | cons g gs =>
    rw [hfs] at h
    rcases h.2 f (by simp) with hk | hk <;> simp [Canvas.placedConnective, hfs, hk]

theorem replays_filters (h : WellFormed cat c) (hrebuilds : Rebuilds c)
    (hd : Like { empty c.id c.name with tables := c.tables, columns := c.columns, joins := c.joins } d) :
    ∃ d', Replays cat (c.filters.map fun f => filterEdit (filterRecord f)) d d' ∧
      Like { c with sorts := [], groups := [], aggregates := [], limit := none } d' := by
  refine replays_collection (fun done =>
    Like { c with filters := done, sorts := [], groups := [], aggregates := [], limit := none }) ?_ hd
  intro done f rest d hitems hd
  have hmem : f ∈ c.filters := by simp [hitems]
  have href : Refers cat d.canvas f.table f.column := hd.refers (h.grounded.filters f hmem)
  have hconnected := h.connected
  rw [hitems] at hconnected
  have hplaced : d.canvas.placedConnective f.connective = f.connective :=
    (hd.placedConnective _).trans (hconnected.placedConnective rfl)
  have hu := hrebuilds f hmem
  refine ⟨_, _, _, rfl, (Addition.filter href (chooseOperator_name f.operator)
    (connectiveOf_optionalText f.connective) (FilterValue.ofRaw_toRaw hu) hu).performed, ?_⟩
  rw [hplaced]
  simpa [like_iff, anonymous] using hd

theorem replays_sorts (h : WellFormed cat c)
    (hd : Like { c with sorts := [], groups := [], aggregates := [], limit := none } d) :
    ∃ d', Replays cat (c.sorts.map fun s => sortEdit (sortRecord s)) d d' ∧
      Like { c with groups := [], aggregates := [], limit := none } d' := by
  refine replays_collection (fun done =>
    Like { c with sorts := done, groups := [], aggregates := [], limit := none }) ?_ hd
  intro done s rest d hitems hd
  have href : Refers cat d.canvas s.table s.column := hd.refers (h.grounded.sorts s (by simp [hitems]))
  refine ⟨_, _, _, rfl, (Addition.sort href (choose_direction s.direction)).performed, ?_⟩
  simpa [like_iff, anonymous] using hd

theorem replays_groups (h : WellFormed cat c)
    (hd : Like { c with groups := [], aggregates := [], limit := none } d) :
    ∃ d', Replays cat (c.groups.map fun g => groupEdit (groupRecord g)) d d' ∧
      Like { c with aggregates := [], limit := none } d' := by
  refine replays_collection (fun done =>
    Like { c with groups := done, aggregates := [], limit := none }) ?_ hd
  intro done g rest d hitems hd
  have href : Refers cat d.canvas g.table g.column := hd.refers (h.grounded.groups g (by simp [hitems]))
  refine ⟨_, _, _, rfl, (Addition.group href).performed, ?_⟩
  simpa [like_iff, anonymous] using hd

theorem replays_aggregates (h : WellFormed cat c) (hd : Like { c with aggregates := [], limit := none } d) :
    ∃ d', Replays cat (c.aggregates.map fun a => aggregateEdit (aggregateRecord a)) d d' ∧
      Like { c with limit := none } d' := by
  refine replays_collection (fun done => Like { c with aggregates := done, limit := none }) ?_ hd
  intro done a rest d hitems hd
  have hmem : a ∈ c.aggregates := by simp [hitems]
  have href : Refers cat d.canvas a.table a.column := hd.refers (h.grounded.aggregates a hmem)
  have hname := aliasOf_optionalText (h.aggregate_aliases a hmem)
  refine ⟨_, _, _, rfl, (Addition.aggregate href (choose_aggregation a.function) hname).performed, ?_⟩
  simpa [like_iff, anonymous] using hd

theorem replays_limit (h : WellFormed cat c) (hd : Like { c with limit := none } d) :
    ∃ d', Replays cat [.ok (.setLimit (limitValue c.limit))] d d' ∧ Like c d' := by
  have hset : Like c ⟨{ d.canvas with limit := c.limit }, d.ids⟩ := by
    obtain ⟨hid, hname, ht, hcol, hj, hf, hs, hg, ha, -⟩ := like_iff.1 hd
    exact like_iff.2 ⟨hid, hname, ht, hcol, hj, hf, hs, hg, ha, rfl⟩
  refine ⟨_, ?_, hset⟩
  have hlimit := h.limit
  cases hl : c.limit with
  | none => exact replays_one (Revision.performed .limitCleared)
  | some n =>
    obtain hnull | ⟨m, hm, hvalue⟩ := hl ▸ hlimit
    · cases hnull
    · cases hvalue
      exact replays_one (Revision.performed (.limitSet hm))

end Collections

/-! ## The whole canvas -/

/-- The edits that a saved canvas stands for. -/
theorem savedEdits_toValue : ∃ fs, c.toValue = .record fs ∧ Value.fieldOr fs "id" .null = c.id ∧
    Value.fieldOr fs "name" .null = c.name ∧ savedEdits fs =
      (c.tables.map fun t => .ok (.addTable (.text t)))
        ++ (c.columns.map fun s => columnEdit (columnRecord s))
        ++ (c.joins.map fun j => joinEdit (joinRecord j))
        ++ (c.filters.map fun f => filterEdit (filterRecord f))
        ++ (c.sorts.map fun s => sortEdit (sortRecord s))
        ++ (c.groups.map fun g => groupEdit (groupRecord g))
        ++ (c.aggregates.map fun a => aggregateEdit (aggregateRecord a))
        ++ [.ok (.setLimit (limitValue c.limit))] := by
  refine ⟨_, rfl, rfl, rfl, ?_⟩
  have collection : ∀ {α : Type} (record : α → Value) (edit : Value → Except EditError Edit) (items : List α)
      (fs : List (String × Value)) (name : String),
      Value.fieldOr fs name (.list []) = .list (items.map record) →
      collectionEdits fs name edit = items.map fun a => edit (record a) := by
    intro α record edit items fs name hfield
    simp only [collectionEdits, hfield, entriesOf?, List.map_map, Function.comp_def]
  rw [savedEdits, collection Value.text _ c.tables _ _ rfl, collection columnRecord _ c.columns _ _ rfl,
    collection joinRecord _ c.joins _ _ rfl, collection filterRecord _ c.filters _ _ rfl,
    collection sortRecord _ c.sorts _ _ rfl, collection groupRecord _ c.groups _ _ rfl,
    collection aggregateRecord _ c.aggregates _ _ rfl]
  rfl

/-- **A sound canvas is restored** from its saved form, up to the ids of its parts. -/
theorem Sound.restore (h : Sound cat d) (hid : d.canvas.id.truthy = true)
    (hname : d.canvas.name.truthy = true) (ids : IdSupply) :
    ∃ c' ids', Canvas.restore cat d.canvas.toValue ids = (.ok c', ids') ∧
      c'.anonymous = d.canvas.anonymous := by
  obtain ⟨fs, hrecord, hfid, hfname, hedits⟩ := savedEdits_toValue (c := d.canvas)
  have hstart : Like (empty d.canvas.id d.canvas.name) (⟨empty d.canvas.id d.canvas.name, ids⟩ : Draft) := rfl
  obtain ⟨d₁, h₁, hd₁⟩ := replays_tables h.toWellFormed hstart
  obtain ⟨d₂, h₂, hd₂⟩ := replays_columns h.toWellFormed hd₁
  obtain ⟨d₃, h₃, hd₃⟩ := replays_joins h.toWellFormed hd₂
  obtain ⟨d₄, h₄, hd₄⟩ := replays_filters h.toWellFormed h.rebuilds hd₃
  obtain ⟨d₅, h₅, hd₅⟩ := replays_sorts h.toWellFormed hd₄
  obtain ⟨d₆, h₆, hd₆⟩ := replays_groups h.toWellFormed hd₅
  obtain ⟨d₇, h₇, hd₇⟩ := replays_aggregates h.toWellFormed hd₆
  obtain ⟨d₈, h₈, hd₈⟩ := (replays_limit h.toWellFormed hd₇ : ∃ d', Replays cat _ d₇ d' ∧ Like d.canvas d')
  have hall := ((((((h₁.append h₂).append h₃).append h₄).append h₅).append h₆).append h₇).append h₈
  refine ⟨d₈.canvas, d₈.ids, ?_, hd₈⟩
  have hopened : opened ((Value.fieldOr fs "name" .null).orElse (.text defaultName))
      (Value.fieldOr fs "id" .null) ids = ⟨empty d.canvas.id d.canvas.name, ids⟩ := by
    simp [opened, new, hfid, hfname, Value.orElse, hid, hname]
  rw [hrecord]
  simp only [Canvas.restore, hopened, hedits]
  exact hall

/-- A statement shows no ids. -/
theorem compile_anonymous (dialect : Sql.Dialect) :
    Sql.compile dialect cat c.anonymous = Sql.compile dialect cat c := by
  have hfilters : (c.filters.map fun f => ({ f with id := "" } : Filter)).mapM (fun f => do
        return (f.connective.getD .and, ← Sql.conditionOf cat f)) =
      c.filters.mapM fun f => do return (f.connective.getD .and, ← Sql.conditionOf cat f) := by
    rw [List.mapM_map]
    rfl
  simp only [Sql.compile, Sql.statement?, anonymous, hfilters, List.map_map, Function.comp_def]

/-- The id and the name of a draft count as true. -/
def Titled (d : Draft) : Prop :=
  d.canvas.id.truthy = true ∧ d.canvas.name.truthy = true

theorem titled_opened {name : Value} (h : name.truthy = true) (id : Value) (ids : IdSupply) :
    Titled (opened name id ids) := by
  by_cases hid : id.truthy = true
  · simp only [opened, new, hid, if_true]
    exact ⟨hid, h⟩
  · simp only [opened, new, hid]
    refine ⟨?_, h⟩
    have hne : ids.next.1 ≠ "" := fun heq => by
      have hlist := congrArg String.toList heq
      simp [IdSupply.next, IdSupply.nth] at hlist
    simpa [empty, Value.truthy] using hne

/-- No edit takes the id away, and a name is only replaced by one that is not blank. -/
theorem Titled.perform (ht : Titled d) (h : Sound cat d) (e : Edit) : Titled (perform cat e d).2 := by
  cases hp : Canvas.perform cat e d with
  | mk res d' =>
    cases res with
    | error err =>
      obtain ⟨hcanvas, -, -⟩ := perform_refused h.rebuilds hp
      exact ⟨hcanvas ▸ ht.1, hcanvas ▸ ht.2⟩
    | ok r =>
      obtain ⟨hr⟩ | ⟨ha⟩ := perform_eq_ok.1 hp
      · cases hr with
        | renamed hname => exact ⟨ht.1, truthy_of_nameOf hname⟩
        | _ => exact ht
      · cases ha <;> exact ht

theorem Titled.edited (ht : Titled d) (h : Sound cat d) (hd : Edited cat d d') : Titled d' := by
  induction hd with
  | refl => exact ht
  | tail hd hstep ih =>
    obtain ⟨e, rfl⟩ := hstep
    exact ih.perform (h.edited hd) e

/-- **Saving and restoring.** A canvas that edits lead to from an empty one with a name is restored from
its saved form, whatever ids are given out then. It is the same canvas but for the ids of its parts, so
that its saved form is the same but for them, and it compiles to the same statement in every dialect. -/
theorem restore_toValue {name id : Value} {ids : IdSupply} (hname : name.truthy = true)
    (hd : Edited cat (opened name id ids) d) (ids' : IdSupply) :
    ∃ c' ids'', restore cat d.canvas.toValue ids' = (.ok c', ids'') ∧
      c'.anonymous = d.canvas.anonymous ∧ c'.anonymous.toValue = d.canvas.anonymous.toValue ∧
      ∀ dialect, Sql.compile dialect cat c' = Sql.compile dialect cat d.canvas := by
  have hopened : Sound cat (opened name id ids) := sound_opened name id ids
  obtain ⟨hid, hname⟩ := (titled_opened hname id ids).edited hopened hd
  obtain ⟨c', ids'', hrestore, heq⟩ := (hopened.edited hd).restore hid hname ids'
  refine ⟨c', ids'', hrestore, heq, by rw [heq], fun dialect => ?_⟩
  rw [← compile_anonymous, heq, compile_anonymous]

theorem restore_shopDraft :
    (Value.text "Q").truthy = true ∧ Edited shop (opened (.text "Q") .null .fresh) shopDraft ∧
      ∃ c' ids', restore shop shopDraft.canvas.toValue shopDraft.ids = (.ok c', ids') ∧
        c'.anonymous = shopDraft.canvas.anonymous := by
  have hname : (Value.text "Q").truthy = true := rfl
  have hd : Edited shop (opened (.text "Q") .null .fresh) shopDraft := edited_performAll shopEdits _
  obtain ⟨c', ids', hrestore, heq, -⟩ := restore_toValue hname hd shopDraft.ids
  exact ⟨hname, hd, c', ids', hrestore, heq⟩

end Canvas

end QueryCanvas
