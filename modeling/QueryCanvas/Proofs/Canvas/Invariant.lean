import Mathlib
import QueryCanvas.Proofs.Canvas.WellFormed
import QueryCanvas.Sql.Statement

/-!
# Every canvas that edits can build is well-formed

A draft starts empty or is restored from saved data, and then goes through edits, of which any may be
refused (`Reachable`). One lemma for each kind of accepted edit shows that it keeps a draft sound, a
refused edit leaves the canvas as it was, and the rest is an induction over the edits.

## Results

* `Sound.perform`: one edit, accepted or refused, keeps a draft sound.
* `Reachable.sound`: every reachable draft is sound.
* `reachable_wellFormed`: the rules of a canvas, for every reachable draft.
* `refused_changes_nothing`: a refused edit of a reachable draft leaves its saved form and its statement
  as they were, and the first filter can always be rebuilt.
-/

namespace QueryCanvas

namespace Canvas

variable {cat : Catalog} {c : Canvas} {d d' : Draft} {e : Edit} {r : Reply} {t col : String}

/-! ## Edits that take no id -/

section Revisions

variable {name : Option String} {id : String} {fs : List Filter}

theorem Sound.tablePlaced (h : Sound cat d) (ht : t ∉ d.canvas.tables) (hcat : cat.contains t = true) :
    Sound cat ⟨{ d.canvas with tables := d.canvas.tables ++ [t] }, d.ids⟩ :=
  { h with
    tables_nodup := by
      rw [← List.concat_eq_append]
      exact h.tables_nodup.concat ht
    tables_known := fun u hu => by
      rcases List.mem_append.1 hu with hu | hu
      · exact h.tables_known u hu
      · exact List.mem_singleton.1 hu ▸ hcat
    grounded := h.grounded.placed }

/-- A table leaves with everything that names it, so that no part refers to it any more. -/
theorem Grounded.tableRemoved (h : Grounded cat c) :
    Grounded cat (c.withoutTable t (detached (c.filters.filter (·.table != t)))) := by
  have keep : ∀ {u w : String}, Refers cat c u w → (u != t) = true →
      Refers cat (c.withoutTable t (detached (c.filters.filter (·.table != t)))) u w :=
    fun hr hu => ⟨List.mem_filter.2 ⟨hr.1, hu⟩, hr.2⟩
  exact
    { columns := fun s hs => keep (h.columns s (List.mem_filter.1 hs).1) (List.mem_filter.1 hs).2
      joins := fun j hj => by
        obtain ⟨hj, hne⟩ := List.mem_filter.1 hj
        obtain ⟨hl, hr⟩ := Bool.and_eq_true_iff.1 hne
        exact ⟨keep (h.joins j hj).1 hl, keep (h.joins j hj).2 hr⟩
      filters := forall_detached (fun _ hf => hf) fun f hf =>
        keep (h.filters f (List.mem_filter.1 hf).1) (List.mem_filter.1 hf).2
      sorts := fun s hs => keep (h.sorts s (List.mem_filter.1 hs).1) (List.mem_filter.1 hs).2
      groups := fun g hg => keep (h.groups g (List.mem_filter.1 hg).1) (List.mem_filter.1 hg).2
      aggregates := fun a ha => keep (h.aggregates a (List.mem_filter.1 ha).1) (List.mem_filter.1 ha).2 }

theorem Sound.tableRemoved (h : Sound cat d) (ht : t ∈ d.canvas.tables)
    (hfs : detachFirst (d.canvas.filters.filter (·.table != t)) = .ok fs) :
    Sound cat ⟨d.canvas.withoutTable t fs, d.ids⟩ := by
  have hids := (@Revision.tableRemoved cat _ _ _ ht hfs).partIds
  obtain rfl := detachFirst_eq_detached hfs
  have hsub : (d.canvas.filters.filter (·.table != t)).Sublist d.canvas.filters := List.filter_sublist
  exact
    { tables_nodup := h.tables_nodup.filter _
      tables_known := fun u hu => h.tables_known u (List.mem_filter.1 hu).1
      grounded := h.grounded.tableRemoved
      columns_nodup := h.columns_nodup.sublist (List.filter_sublist.map _)
      connected := h.connected.detached hsub
      shaped := forall_detached (fun _ hf => hf) fun f hf => h.shaped f (hsub.mem hf)
      column_aliases := fun s hs => h.column_aliases s (List.mem_filter.1 hs).1
      aggregate_aliases := fun g hg => h.aggregate_aliases g (List.mem_filter.1 hg).1
      limit := h.limit
      ids_nodup := h.ids_nodup.sublist hids
      rebuilds := forall_detached (fun _ hf => hf) fun f hf => h.rebuilds f (hsub.mem hf)
      supplied := fun i hi => h.supplied i (hids.mem hi) }

theorem Sound.columnDropped (h : Sound cat d) :
    Sound cat ⟨{ d.canvas with columns := d.canvas.columns.eraseP (selects t col) }, d.ids⟩ :=
  have hsub : (d.canvas.columns.eraseP (selects t col)).Sublist d.canvas.columns := List.eraseP_sublist
  { h with
    grounded := { h.grounded with columns := fun s hs => h.grounded.columns s (hsub.mem hs) }
    columns_nodup := h.columns_nodup.sublist (hsub.map _)
    column_aliases := fun s hs => h.column_aliases s (hsub.mem hs) }

theorem Sound.columnSelected (h : Sound cat d) (href : Refers cat d.canvas t col)
    (hsel : d.canvas.columns.any (selects t col) = false)
    (hname : ∀ a, name = some a → PlainIdentifier a) :
    Sound cat ⟨{ d.canvas with columns := d.canvas.columns ++ [⟨t, col, name⟩] }, d.ids⟩ := by
  have hnew : (t, col) ∉ d.canvas.columns.map fun s => (s.table, s.column) := by
    rintro hmem
    obtain ⟨s, hs, heq⟩ := List.mem_map.1 hmem
    obtain ⟨rfl, rfl⟩ := Prod.mk.inj heq
    exact absurd (List.any_eq_false.1 hsel s hs) (by simp [selects])
  exact
    { h with
      grounded := { h.grounded with columns := forall_mem_snoc h.grounded.columns href }
      columns_nodup := by
        rw [List.map_append, List.map_singleton, ← List.concat_eq_append]
        exact h.columns_nodup.concat hnew
      column_aliases := forall_mem_snoc h.column_aliases hname }

theorem Sound.columnRenamed (h : Sound cat d) (href : Refers cat d.canvas t col)
    (hname : ∀ a, name = some a → PlainIdentifier a) :
    Sound cat
      ⟨{ d.canvas with columns := replaceFirst (selects t col) ⟨t, col, name⟩ d.canvas.columns }, d.ids⟩ := by
  have hkeys : (replaceFirst (selects t col) ⟨t, col, name⟩ d.canvas.columns).map
      (fun s => (s.table, s.column)) = d.canvas.columns.map fun s => (s.table, s.column) :=
    map_replaceFirst fun s hs => by
      obtain ⟨ht, hcol⟩ : s.table = t ∧ s.column = col := by simpa [selects] using hs
      rw [ht, hcol]
  exact
    { h with
      grounded :=
        { h.grounded with
          columns := fun s hs => by
            rcases mem_replaceFirst hs with rfl | hs
            · exact href
            · exact h.grounded.columns s hs }
      columns_nodup := by
        rw [hkeys]
        exact h.columns_nodup
      column_aliases := fun s hs => by
        rcases mem_replaceFirst hs with rfl | hs
        · exact hname
        · exact h.column_aliases s hs }

theorem Sound.filterRemoved (h : Sound cat d) (hid : ∃ f ∈ d.canvas.filters, f.id = id)
    (hfs : detachFirst (d.canvas.filters.filter (·.id != id)) = .ok fs) :
    Sound cat ⟨{ d.canvas with filters := fs }, d.ids⟩ := by
  have hids := (@Revision.filterRemoved cat _ _ _ hid hfs).partIds
  obtain rfl := detachFirst_eq_detached hfs
  have hsub : (d.canvas.filters.filter (·.id != id)).Sublist d.canvas.filters := List.filter_sublist
  exact
    { h with
      grounded :=
        { h.grounded with
          filters := forall_detached (fun _ hf => hf) fun f hf => h.grounded.filters f (hsub.mem hf) }
      connected := h.connected.detached hsub
      shaped := forall_detached (fun _ hf => hf) fun f hf => h.shaped f (hsub.mem hf)
      ids_nodup := h.ids_nodup.sublist hids
      rebuilds := forall_detached (fun _ hf => hf) fun f hf => h.rebuilds f (hsub.mem hf)
      supplied := fun i hi => h.supplied i (hids.mem hi) }

/-- An accepted edit that takes no id keeps a draft sound. -/
theorem Sound.revision (h : Sound cat d) (hr : Revision cat d.canvas e r c) : Sound cat ⟨c, d.ids⟩ := by
  have hids := hr.partIds
  have hnodup : c.partIds.Nodup := h.ids_nodup.sublist hids
  have hsupplied : ∀ id ∈ c.partIds, ∃ n ≤ d.ids.given, id = IdSupply.nth n :=
    fun id hid => h.supplied id (hids.mem hid)
  cases hr with
  | tableKept ht => exact h
  | tablePlaced ht hcat => exact h.tablePlaced ht hcat
  | tableRemoved ht hfs => exact h.tableRemoved ht hfs
  | columnDropped href hsel => exact h.columnDropped
  | columnSelected href hsel hname => exact h.columnSelected href hsel (aliasOf_eq_ok hname)
  | columnRenamed href hsel hname => exact h.columnRenamed href (aliasOf_eq_ok hname)
  | joinRemoved hid =>
    exact
      { h with
        grounded := { h.grounded with joins := fun j hj => h.grounded.joins j (List.mem_filter.1 hj).1 }
        ids_nodup := hnodup
        supplied := hsupplied }
  | filterRemoved hid hfs => exact h.filterRemoved hid hfs
  | sortRemoved hid =>
    exact
      { h with
        grounded := { h.grounded with sorts := fun s hs => h.grounded.sorts s (List.mem_filter.1 hs).1 }
        ids_nodup := hnodup
        supplied := hsupplied }
  | groupRemoved hid =>
    exact
      { h with
        grounded := { h.grounded with groups := fun g hg => h.grounded.groups g (List.mem_filter.1 hg).1 }
        ids_nodup := hnodup
        supplied := hsupplied }
  | aggregateRemoved hid =>
    exact
      { h with
        grounded :=
          { h.grounded with aggregates := fun a ha => h.grounded.aggregates a (List.mem_filter.1 ha).1 }
        aggregate_aliases := fun a ha => h.aggregate_aliases a (List.mem_filter.1 ha).1
        ids_nodup := hnodup
        supplied := hsupplied }
  | limitCleared => exact { h with grounded := { h.grounded with }, limit := .inl rfl }
  | limitSet hn => exact { h with grounded := { h.grounded with }, limit := .inr ⟨_, hn, rfl⟩ }
  | renamed hs => exact { h with grounded := { h.grounded with } }

end Revisions

/-! ## Edits that add a part -/

/-- An accepted edit that adds a part keeps a draft sound. The ids stay apart because the supply has
not given this one before. -/
theorem Sound.addition (h : Sound cat d) (ha : Addition cat d.canvas d.ids.next.1 e r c) :
    Sound cat ⟨c, d.ids.next.2⟩ := by
  have hperm := ha.partIds
  have hnodup : c.partIds.Nodup := hperm.nodup_iff.2 (List.nodup_cons.2 ⟨h.fresh, h.ids_nodup⟩)
  have hsupplied : ∀ id ∈ c.partIds, ∃ n ≤ d.ids.next.2.given, id = IdSupply.nth n := fun id hid => by
    rcases List.mem_cons.1 (hperm.mem_iff.1 hid) with rfl | hid
    · exact ⟨_, Nat.le_refl _, rfl⟩
    · obtain ⟨n, hn, heq⟩ := h.supplied id hid
      exact ⟨n, Nat.le_succ_of_le hn, heq⟩
  cases ha with
  | join hleft hright hk =>
    exact
      { h with
        grounded := { h.grounded with joins := forall_mem_snoc h.grounded.joins ⟨hleft, hright⟩ }
        ids_nodup := hnodup
        supplied := hsupplied }
  | filter href hop hk hv hu =>
    exact
      { h with
        grounded := { h.grounded with filters := forall_mem_snoc h.grounded.filters href }
        connected := h.connected.placed
        shaped := forall_mem_snoc h.shaped (FilterValue.shape_ofRaw hv)
        ids_nodup := hnodup
        rebuilds := forall_mem_snoc h.rebuilds hu
        supplied := hsupplied }
  | sort href hdir =>
    exact
      { h with
        grounded := { h.grounded with sorts := forall_mem_snoc h.grounded.sorts href }
        ids_nodup := hnodup
        supplied := hsupplied }
  | group href =>
    exact
      { h with
        grounded := { h.grounded with groups := forall_mem_snoc h.grounded.groups href }
        ids_nodup := hnodup
        supplied := hsupplied }
  | aggregate href hfn hname =>
    exact
      { h with
        grounded := { h.grounded with aggregates := forall_mem_snoc h.grounded.aggregates href }
        aggregate_aliases := forall_mem_snoc h.aggregate_aliases (aliasOf_eq_ok hname)
        ids_nodup := hnodup
        supplied := hsupplied }

/-! ## Runs -/

/-- A draft stays sound when others take ids. -/
theorem Sound.later {ids : IdSupply} (h : Sound cat d) (hids : d.ids.given ≤ ids.given) :
    Sound cat ⟨d.canvas, ids⟩ :=
  { h with
    supplied := fun id hid => by
      obtain ⟨n, hn, heq⟩ := h.supplied id hid
      exact ⟨n, Nat.le_trans hn hids, heq⟩ }

/-- **One edit**, accepted or refused, keeps a draft sound. -/
theorem Sound.perform (h : Sound cat d) (e : Edit) : Sound cat (perform cat e d).2 := by
  cases hp : Canvas.perform cat e d with
  | mk res d' =>
    cases res with
    | ok r =>
      obtain ⟨hr⟩ | ⟨ha⟩ := perform_eq_ok.1 hp
      · exact h.revision hr
      · exact h.addition ha
    | error err =>
      obtain ⟨hcanvas, hids, -⟩ := perform_refused h.rebuilds hp
      obtain ⟨c', ids'⟩ := d'
      obtain rfl : c' = d.canvas := hcanvas
      exact h.later hids

/-- Drafts that edits lead to, in any order and number, the refused ones included. -/
def Edited (cat : Catalog) : Draft → Draft → Prop :=
  Relation.ReflTransGen fun d d' => ∃ e, (Canvas.perform cat e d).2 = d'

/-- Drafts that editing may start from: an empty one with any id and name, and what saved data is
restored to. -/
inductive Start (cat : Catalog) : Draft → Prop
  | opened (name id : Value) (ids : IdSupply) : Start cat (opened name id ids)
  | restored {data : Value} {ids ids' : IdSupply} {c : Canvas} (h : restore cat data ids = (.ok c, ids')) :
      Start cat ⟨c, ids'⟩

/-- **Reachable drafts** over a catalog. -/
def Reachable (cat : Catalog) (d : Draft) : Prop :=
  ∃ d₀, Start cat d₀ ∧ Edited cat d₀ d

/-- The draft after some edits, whatever each of them answers. -/
def performAll (cat : Catalog) (edits : List Edit) (d : Draft) : Draft :=
  edits.foldl (fun d e => (perform cat e d).2) d

theorem edited_performAll (edits : List Edit) (d : Draft) : Edited cat d (performAll cat edits d) := by
  induction edits generalizing d with
  | nil => exact .refl
  | cons e edits ih => exact .head ⟨e, rfl⟩ (ih _)

theorem reachable_performAll (edits : List Edit) (name id : Value) (ids : IdSupply) :
    Reachable cat (performAll cat edits (opened name id ids)) :=
  ⟨_, .opened name id ids, edited_performAll edits _⟩

theorem Sound.edited (h : Sound cat d) (hd : Edited cat d d') : Sound cat d' := by
  induction hd with
  | refl => exact h
  | tail _ hstep ih =>
    obtain ⟨e, rfl⟩ := hstep
    exact ih.perform e

/-- An opened draft is empty, and has the id that it was given if it was given one. -/
theorem exists_opened (name id : Value) (ids : IdSupply) :
    ∃ i ids', opened name id ids = ⟨empty i name, ids'⟩ ∧ (id.truthy = true → i = id) := by
  by_cases hid : id.truthy = true
  · exact ⟨id, ids, by simp [opened, new, hid], fun _ => rfl⟩
  · exact ⟨.text ids.next.1, ids.next.2, by simp [opened, new, hid], fun h => absurd h hid⟩

theorem sound_opened (name id : Value) (ids : IdSupply) : Sound cat (opened name id ids) := by
  obtain ⟨i, ids', h, -⟩ := exists_opened name id ids
  rw [h]
  exact
    { tables_nodup := .nil
      tables_known := by simp [empty]
      grounded := by constructor <;> simp [empty]
      columns_nodup := .nil
      connected := trivial
      shaped := by simp [empty]
      column_aliases := by simp [empty]
      aggregate_aliases := by simp [empty]
      limit := .inl rfl
      ids_nodup := .nil
      rebuilds := by simp [Rebuilds, empty]
      supplied := by simp [partIds, empty] }

/-- What a replay gives is reached by the edits it replays. -/
theorem edited_of_replay {edits : List (Except EditError Edit)} {ids : IdSupply}
    (h : replay cat edits d = (.ok c, ids)) : Edited cat d ⟨c, ids⟩ := by
  induction edits generalizing d with
  | nil =>
    cases h
    exact .refl
  | cons x edits ih =>
    cases x with
    | error err => cases h
    | ok e =>
      cases hp : perform cat e d with
      | mk res d' =>
        cases res with
        | error err => simp [replay, hp] at h
        | ok r =>
          rw [replay, hp] at h
          exact .head ⟨e, by rw [hp]⟩ (ih h)

theorem Start.sound (h : Start cat d) : Sound cat d := by
  cases h with
  | opened name id ids => exact sound_opened name id ids
  | @restored data ids ids' c h =>
    cases data with
    | record fs => exact (sound_opened _ _ _).edited (edited_of_replay h)
    | _ => cases h

/-- **Every reachable draft is sound.** -/
theorem Reachable.sound (h : Reachable cat d) : Sound cat d := by
  obtain ⟨d₀, hstart, hd⟩ := h
  exact hstart.sound.edited hd

/-- **Every reachable canvas is well-formed**, whatever edits came before, with any arguments and in
any order, the refused ones included. -/
theorem reachable_wellFormed (h : Reachable cat d) : WellFormed cat d.canvas :=
  h.sound.toWellFormed

/-- **A refused edit changes nothing**: on a reachable draft, whatever the arguments, the canvas is the
one before, with its saved form and the statement that it compiles to. Nor can the rebuilding of the
first filter be refused, whichever filters are taken away. -/
theorem refused_changes_nothing (h : Reachable cat d) :
    (∀ e err, (perform cat e d).1 = .error err →
      err.kind ∈ editFaults ∧ (perform cat e d).2.canvas = d.canvas ∧
        (perform cat e d).2.canvas.toValue = d.canvas.toValue ∧
        ∀ dialect, Sql.compile dialect cat (perform cat e d).2.canvas = Sql.compile dialect cat d.canvas) ∧
      ∀ fs, fs.Sublist d.canvas.filters → ∃ gs, detachFirst fs = .ok gs := by
  refine ⟨fun e err he => ?_, fun fs hfs => ⟨_, h.sound.rebuilds.detachFirst hfs⟩⟩
  obtain ⟨hcanvas, -, hkind⟩ := perform_refused h.sound.rebuilds (Prod.ext he rfl)
  exact ⟨hkind, hcanvas, by rw [hcanvas], fun dialect => by rw [hcanvas]⟩

/-! ## A run -/

/-- A table of nullable columns, given by their names and types. -/
def plainTable (name : String) (columns : List (String × String)) : Table :=
  ⟨name, columns.map fun (column, ty) => ⟨column, ty, false, false, true, .null, .null⟩⟩

/-- A catalog with two tables. -/
def shop : Catalog :=
  ⟨[plainTable "orders" [("id", "integer"), ("total", "numeric")],
    plainTable "customers" [("id", "integer"), ("name", "text")]], []⟩

/-- Edits that place both tables, a column, two filters and a join, and take the first table away again;
two of them are refused. -/
def shopEdits : List Edit :=
  [.addTable (.text "orders"), .addTable (.text "suppliers"), .addTable (.text "customers"),
   .toggleColumn (.text "customers") (.text "name") (.text " who "),
   .addJoin (.text "orders") (.text "id") (.text "customers") (.text "id") (.text "LEFT"),
   .addFilter (.text "orders") (.text "total") (.text "greater_than") (.text "10") .null,
   .addFilter (.text "customers") (.text "name") (.text "between") (.int 1) .null,
   .addFilter (.text "customers") (.text "name") (.text "like") (.text "Ann") (.text "OR"),
   .removeTable (.text "orders")]

/-- The draft that they lead to. -/
def shopDraft : Draft :=
  performAll shop shopEdits (opened (.text "Q") .null .fresh)

theorem reachable_shopDraft : Reachable shop shopDraft :=
  reachable_performAll shopEdits (.text "Q") .null .fresh

/-- The run ends with the second filter first, which connects to nothing then. -/
theorem wellFormed_shopDraft :
    Reachable shop shopDraft ∧ shopDraft.canvas.filters.map (·.connective) = [none] ∧
      WellFormed shop shopDraft.canvas :=
  ⟨reachable_shopDraft, by decide +kernel, reachable_wellFormed reachable_shopDraft⟩

/-- A filter whose bounds are built already but miss one: it is refused when it has an id. -/
def halfBounded : Edit :=
  .addFilter (.text "customers") (.text "name") (.text "between") (.range .null (.int 1)) (.text "OR")

theorem refused_halfBounded :
    (perform shop halfBounded shopDraft).1 = .error (.operandMissing .between) ∧
      (perform shop halfBounded shopDraft).2.canvas = shopDraft.canvas := by
  have he : (perform shop halfBounded shopDraft).1 = .error (.operandMissing .between) := by cbv
  exact ⟨he, ((refused_changes_nothing reachable_shopDraft).1 _ _ he).2.1⟩

end Canvas

end QueryCanvas
