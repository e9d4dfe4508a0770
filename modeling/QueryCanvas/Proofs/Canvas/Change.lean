import QueryCanvas.Proofs.Canvas.Steps

/-!
# What an accepted edit does

The edits as a relation: `Revision` gives the answer and the next canvas of an accepted edit that takes no
id, `Addition` those of one that adds a part under a new id, and `Change` puts the two over drafts.

* `perform_eq_ok`: `Canvas.perform` accepts an edit exactly as `Change` says. Every invariant is proved
  over `Change`, by cases, and never by unfolding an edit.
* `perform_refused`: a refusal leaves the canvas as it was, if the operand of every filter still passes
  the check that it passed when the filter was built.
-/

namespace QueryCanvas

namespace Canvas

/-- The canvas without a table and without the parts that name it, but with the given filters. -/
def withoutTable (c : Canvas) (t : String) (filters : List Filter) : Canvas :=
  { c with
    tables := c.tables.filter (· != t)
    columns := c.columns.filter (·.table != t)
    joins := c.joins.filter fun j => j.leftTable != t && j.rightTable != t
    filters := filters
    sorts := c.sorts.filter (·.table != t)
    groups := c.groups.filter (·.table != t)
    aggregates := c.aggregates.filter (·.table != t) }

/-- **Accepted edits that take no id**: the answer and the next canvas. -/
inductive Revision (cat : Catalog) (c : Canvas) : Edit → Reply → Canvas → Prop
  | tableKept {t : String} (ht : t ∈ c.tables) :
      Revision cat c (.addTable (.text t)) (.flag false) c
  | tablePlaced {t : String} (ht : t ∉ c.tables) (hcat : cat.contains t = true) :
      Revision cat c (.addTable (.text t)) (.flag true) { c with tables := c.tables ++ [t] }
  | tableRemoved {t : String} {fs : List Filter} (ht : t ∈ c.tables)
      (hfs : detachFirst (c.filters.filter (·.table != t)) = .ok fs) :
      Revision cat c (.removeTable (.text t)) .done (c.withoutTable t fs)
  | columnDropped {t col : String} {a : Value} (href : Refers cat c t col)
      (hsel : c.columns.any (selects t col) = true) :
      Revision cat c (.toggleColumn (.text t) (.text col) a) (.flag false)
        { c with columns := c.columns.eraseP (selects t col) }
  | columnSelected {t col : String} {a : Value} {name : Option String} (href : Refers cat c t col)
      (hsel : c.columns.any (selects t col) = false) (hname : aliasOf a = .ok name) :
      Revision cat c (.toggleColumn (.text t) (.text col) a) (.flag true)
        { c with columns := c.columns ++ [⟨t, col, name⟩] }
  | columnRenamed {t col : String} {a : Value} {name : Option String} (href : Refers cat c t col)
      (hsel : c.columns.any (selects t col) = true) (hname : aliasOf a = .ok name) :
      Revision cat c (.setColumnAlias (.text t) (.text col) a) (.column ⟨t, col, name⟩)
        { c with columns := replaceFirst (selects t col) ⟨t, col, name⟩ c.columns }
  | joinRemoved {id : String} (hid : ∃ j ∈ c.joins, j.id = id) :
      Revision cat c (.remove .join (.text id)) .done { c with joins := c.joins.filter (·.id != id) }
  | filterRemoved {id : String} {fs : List Filter} (hid : ∃ f ∈ c.filters, f.id = id)
      (hfs : detachFirst (c.filters.filter (·.id != id)) = .ok fs) :
      Revision cat c (.remove .filter (.text id)) .done { c with filters := fs }
  | sortRemoved {id : String} (hid : ∃ s ∈ c.sorts, s.id = id) :
      Revision cat c (.remove .sort (.text id)) .done { c with sorts := c.sorts.filter (·.id != id) }
  | groupRemoved {id : String} (hid : ∃ g ∈ c.groups, g.id = id) :
      Revision cat c (.remove .group (.text id)) .done { c with groups := c.groups.filter (·.id != id) }
  | aggregateRemoved {id : String} (hid : ∃ a ∈ c.aggregates, a.id = id) :
      Revision cat c (.remove .aggregate (.text id)) .done
        { c with aggregates := c.aggregates.filter (·.id != id) }
  | limitCleared : Revision cat c (.setLimit .null) .done { c with limit := none }
  | limitSet {n : Int} (hn : 0 ≤ n) : Revision cat c (.setLimit (.int n)) .done { c with limit := some n }
  | renamed {v name : Value} (hname : nameOf v = .ok name) : Revision cat c (.rename v) .done { c with name := name }

/-- **Accepted edits that add a part under an id**: the answer and the next canvas. -/
inductive Addition (cat : Catalog) (c : Canvas) (id : String) : Edit → Reply → Canvas → Prop
  | join {lt lc rt rc : String} {k : Value} {kind : JoinKind} (hleft : Refers cat c lt lc)
      (hright : Refers cat c rt rc) (hk : choose "join kind" JoinKind.all JoinKind.name k = .ok kind) :
      Addition cat c id (.addJoin (.text lt) (.text lc) (.text rt) (.text rc) k)
        (.join ⟨id, lt, lc, rt, rc, kind⟩) { c with joins := c.joins ++ [⟨id, lt, lc, rt, rc, kind⟩] }
  | filter {t col : String} {op v k : Value} {o : FilterOperator} {asked : Option Connective}
      {u : FilterValue} (href : Refers cat c t col) (hop : chooseOperator op = .ok o)
      (hk : connectiveOf k = .ok asked) (hv : FilterValue.ofRaw o v = .ok u)
      (hu : FilterValue.check o u = .ok ()) :
      Addition cat c id (.addFilter (.text t) (.text col) op v k)
        (.filter ⟨id, t, col, o, u, c.placedConnective asked⟩)
        { c with filters := c.filters ++ [⟨id, t, col, o, u, c.placedConnective asked⟩] }
  | sort {t col : String} {dir : Value} {direction : Direction} (href : Refers cat c t col)
      (hdir : choose "sort direction" Direction.all Direction.name dir = .ok direction) :
      Addition cat c id (.addSort (.text t) (.text col) dir) (.sort ⟨id, t, col, direction⟩)
        { c with sorts := c.sorts ++ [⟨id, t, col, direction⟩] }
  | group {t col : String} (href : Refers cat c t col) :
      Addition cat c id (.addGroup (.text t) (.text col)) (.group ⟨id, t, col⟩)
        { c with groups := c.groups ++ [⟨id, t, col⟩] }
  | aggregate {t col : String} {fn a : Value} {function : Aggregation} {name : Option String}
      (href : Refers cat c t col)
      (hfn : choose "aggregation function" Aggregation.all Aggregation.name fn = .ok function)
      (hname : aliasOf a = .ok name) :
      Addition cat c id (.addAggregate fn (.text t) (.text col) a)
        (.aggregate ⟨id, function, t, col, name⟩)
        { c with aggregates := c.aggregates ++ [⟨id, function, t, col, name⟩] }

/-- **Accepted edits** of a draft: its answer and the draft it leaves. -/
inductive Change (cat : Catalog) (d : Draft) (e : Edit) (r : Reply) : Draft → Prop
  | revision {c : Canvas} (h : Revision cat d.canvas e r c) : Change cat d e r ⟨c, d.ids⟩
  | addition {c : Canvas} (h : Addition cat d.canvas d.ids.next.1 e r c) :
      Change cat d e r ⟨c, d.ids.next.2⟩

/-! ## The edits do what the relation says -/

section Accepted

open Editing

variable {cat : Catalog} {d d' : Draft} {e : Edit} {r : Reply}

theorem addTable_accepted {v : Value} (h : (addTable cat v).outcome d = (.ok r, d')) :
    Change cat d (.addTable v) r d' := by
  cases v with
  | text t =>
    by_cases ht : t ∈ d.canvas.tables
    · simp only [addTable, outcome_current_bind, List.contains_iff_mem, ht, if_true] at h
      cases h
      exact .revision (.tableKept ht)
    · by_cases hcat : cat.contains t = true
      · simp only [addTable, outcome_current_bind, List.contains_iff_mem, ht, if_false, hcat, if_true] at h
        cases h
        exact .revision (.tablePlaced ht hcat)
      · simp only [addTable, outcome_current_bind, List.contains_iff_mem, ht, if_false, hcat] at h
        cases h
  | _ => cases h

theorem removeTable_accepted {v : Value} (h : (removeTable v).outcome d = (.ok r, d')) :
    Change cat d (.removeTable v) r d' := by
  simp only [removeTable, outcome_current_bind, outcome_check_bind_eq_ok] at h
  obtain ⟨t, hr, h⟩ := h
  obtain ⟨rfl, ht⟩ := requireTable_eq_ok.1 hr
  simp only [outcome_alter_bind, outcome_current_bind, outcome_check_bind_eq_ok] at h
  obtain ⟨fs, hfs, h⟩ := h
  cases h
  exact .revision (.tableRemoved ht hfs)

theorem toggleColumn_accepted {v w a : Value} (h : (toggleColumn cat v w a).outcome d = (.ok r, d')) :
    Change cat d (.toggleColumn v w a) r d' := by
  simp only [toggleColumn, outcome_current_bind, outcome_check_bind_eq_ok] at h
  obtain ⟨⟨t, col⟩, hr, h⟩ := h
  obtain ⟨rfl, rfl, href⟩ := requireColumn_eq_ok.1 hr
  cases hsel : d.canvas.columns.any (selects t col) with
  | true =>
    simp only [hsel, if_true] at h
    cases h
    exact .revision (.columnDropped href hsel)
  | false =>
    simp only [hsel, Bool.false_eq_true, if_false, outcome_check_bind_eq_ok] at h
    obtain ⟨name, hname, h⟩ := h
    cases h
    exact .revision (.columnSelected href hsel hname)

theorem setColumnAlias_accepted {v w a : Value}
    (h : (setColumnAlias cat v w a).outcome d = (.ok r, d')) : Change cat d (.setColumnAlias v w a) r d' := by
  simp only [setColumnAlias, outcome_current_bind, outcome_check_bind_eq_ok] at h
  obtain ⟨⟨t, col⟩, hr, h⟩ := h
  obtain ⟨rfl, rfl, href⟩ := requireColumn_eq_ok.1 hr
  cases hsel : d.canvas.columns.any (selects t col) with
  | true =>
    simp only [hsel, if_true, outcome_check_bind_eq_ok] at h
    obtain ⟨name, hname, h⟩ := h
    cases h
    exact .revision (.columnRenamed href hsel hname)
  | false =>
    simp only [hsel, Bool.false_eq_true, if_false] at h
    cases h

theorem addJoin_accepted {lv lw rv rw k : Value}
    (h : (addJoin cat lv lw rv rw k).outcome d = (.ok r, d')) :
    Change cat d (.addJoin lv lw rv rw k) r d' := by
  simp only [addJoin, outcome_current_bind, outcome_check_bind_eq_ok] at h
  obtain ⟨kind, hk, ⟨lt, lc⟩, hl, ⟨rt, rc⟩, hr, h⟩ := h
  obtain ⟨rfl, rfl, hleft⟩ := requireColumn_eq_ok.1 hl
  obtain ⟨rfl, rfl, hright⟩ := requireColumn_eq_ok.1 hr
  cases h
  exact .addition (.join hleft hright hk)

theorem addFilter_accepted {v w op x k : Value}
    (h : (addFilter cat v w op x k).outcome d = (.ok r, d')) :
    Change cat d (.addFilter v w op x k) r d' := by
  simp only [addFilter, outcome_current_bind, outcome_check_bind_eq_ok] at h
  obtain ⟨o, hop, asked, hk, ⟨t, col⟩, hr, u, hv, h⟩ := h
  obtain ⟨rfl, rfl, href⟩ := requireColumn_eq_ok.1 hr
  simp only [outcome_takeId_bind, outcome_check_bind_eq_ok] at h
  obtain ⟨f, hf, h⟩ := h
  obtain ⟨hu, rfl⟩ := Filter.checked_eq_ok.1 hf
  cases h
  exact .addition (.filter href hop hk hv hu)

theorem addSort_accepted {v w dir : Value} (h : (addSort cat v w dir).outcome d = (.ok r, d')) :
    Change cat d (.addSort v w dir) r d' := by
  simp only [addSort, outcome_current_bind, outcome_check_bind_eq_ok] at h
  obtain ⟨direction, hdir, ⟨t, col⟩, hr, h⟩ := h
  obtain ⟨rfl, rfl, href⟩ := requireColumn_eq_ok.1 hr
  cases h
  exact .addition (.sort href hdir)

theorem addGroup_accepted {v w : Value} (h : (addGroup cat v w).outcome d = (.ok r, d')) :
    Change cat d (.addGroup v w) r d' := by
  simp only [addGroup, outcome_current_bind, outcome_check_bind_eq_ok] at h
  obtain ⟨⟨t, col⟩, hr, h⟩ := h
  obtain ⟨rfl, rfl, href⟩ := requireColumn_eq_ok.1 hr
  cases h
  exact .addition (.group href)

theorem addAggregate_accepted {fn v w a : Value}
    (h : (addAggregate cat fn v w a).outcome d = (.ok r, d')) :
    Change cat d (.addAggregate fn v w a) r d' := by
  simp only [addAggregate, outcome_current_bind, outcome_check_bind_eq_ok] at h
  obtain ⟨function, hfn, ⟨t, col⟩, hr, name, hname, h⟩ := h
  obtain ⟨rfl, rfl, href⟩ := requireColumn_eq_ok.1 hr
  cases h
  exact .addition (.aggregate href hfn hname)

theorem remove_accepted {kind : PartKind} {v : Value} (h : (remove kind v).outcome d = (.ok r, d')) :
    Change cat d (.remove kind v) r d' := by
  cases kind with
  | filter =>
    simp only [remove, outcome_current_bind, outcome_check_bind_eq_ok] at h
    obtain ⟨rest, hrest, fs, hfs, h⟩ := h
    obtain ⟨id, rfl, hid, rfl⟩ := withoutId_eq_ok.1 hrest
    cases h
    exact .revision (.filterRemoved hid hfs)
  | join =>
    simp only [remove, outcome_current_bind, outcome_check_bind_eq_ok] at h
    obtain ⟨rest, hrest, h⟩ := h
    obtain ⟨id, rfl, hid, rfl⟩ := withoutId_eq_ok.1 hrest
    cases h
    exact .revision (.joinRemoved hid)
  | sort =>
    simp only [remove, outcome_current_bind, outcome_check_bind_eq_ok] at h
    obtain ⟨rest, hrest, h⟩ := h
    obtain ⟨id, rfl, hid, rfl⟩ := withoutId_eq_ok.1 hrest
    cases h
    exact .revision (.sortRemoved hid)
  | group =>
    simp only [remove, outcome_current_bind, outcome_check_bind_eq_ok] at h
    obtain ⟨rest, hrest, h⟩ := h
    obtain ⟨id, rfl, hid, rfl⟩ := withoutId_eq_ok.1 hrest
    cases h
    exact .revision (.groupRemoved hid)
  | aggregate =>
    simp only [remove, outcome_current_bind, outcome_check_bind_eq_ok] at h
    obtain ⟨rest, hrest, h⟩ := h
    obtain ⟨id, rfl, hid, rfl⟩ := withoutId_eq_ok.1 hrest
    cases h
    exact .revision (.aggregateRemoved hid)

theorem setLimit_accepted {v : Value} (h : (setLimit v).outcome d = (.ok r, d')) :
    Change cat d (.setLimit v) r d' := by
  cases v with
  | null =>
    cases h
    exact .revision .limitCleared
  | int n =>
    by_cases hn : n < 0
    · simp only [setLimit, hn, if_true] at h
      cases h
    · simp only [setLimit, hn, if_false] at h
      cases h
      exact .revision (.limitSet (Int.not_lt.1 hn))
  | _ => cases h

theorem rename_accepted {v : Value} (h : (rename v).outcome d = (.ok r, d')) :
    Change cat d (.rename v) r d' := by
  simp only [rename, outcome_check_bind_eq_ok] at h
  obtain ⟨name, hname, h⟩ := h
  cases h
  exact .revision (.renamed hname)

theorem perform_accepted (h : perform cat e d = (.ok r, d')) : Change cat d e r d' := by
  cases e with
  | addTable v => exact addTable_accepted h
  | removeTable v => exact removeTable_accepted h
  | toggleColumn v w a => exact toggleColumn_accepted h
  | setColumnAlias v w a => exact setColumnAlias_accepted h
  | addJoin lv lw rv rw k => exact addJoin_accepted h
  | addFilter v w op x k => exact addFilter_accepted h
  | addSort v w dir => exact addSort_accepted h
  | addGroup v w => exact addGroup_accepted h
  | addAggregate fn v w a => exact addAggregate_accepted h
  | remove kind v => exact remove_accepted h
  | setLimit v => exact setLimit_accepted h
  | rename v => exact rename_accepted h

theorem Revision.performed {c c' : Canvas} {ids : IdSupply} (h : Revision cat c e r c') :
    perform cat e ⟨c, ids⟩ = (.ok r, ⟨c', ids⟩) := by
  cases h with
  | tableKept ht => simp [perform, edit, addTable, ht]
  | tablePlaced ht hcat => simp [perform, edit, addTable, ht, hcat]
  | tableRemoved ht hfs =>
    simp [perform, edit, removeTable, requireTable_eq_ok.2 ⟨rfl, ht⟩, hfs, withoutTable]
  | columnDropped href hsel =>
    simp only [perform, edit, toggleColumn, outcome_current_bind, requireColumn_eq_ok.2 ⟨rfl, rfl, href⟩,
      outcome_ok_bind, hsel, if_true, outcome_alter_bind, outcome_pure]
  | columnSelected href hsel hname =>
    simp only [perform, edit, toggleColumn, outcome_current_bind, requireColumn_eq_ok.2 ⟨rfl, rfl, href⟩,
      outcome_ok_bind, hsel, Bool.false_eq_true, if_false, hname, outcome_alter_bind, outcome_pure]
  | columnRenamed href hsel hname =>
    simp only [perform, edit, setColumnAlias, outcome_current_bind,
      requireColumn_eq_ok.2 ⟨rfl, rfl, href⟩, outcome_ok_bind, hsel, if_true, hname, outcome_alter_bind,
      outcome_pure]
  | joinRemoved hid => simp [perform, edit, remove, withoutId_eq_ok.2 ⟨_, rfl, hid, rfl⟩]
  | filterRemoved hid hfs => simp [perform, edit, remove, withoutId_eq_ok.2 ⟨_, rfl, hid, rfl⟩, hfs]
  | sortRemoved hid => simp [perform, edit, remove, withoutId_eq_ok.2 ⟨_, rfl, hid, rfl⟩]
  | groupRemoved hid => simp [perform, edit, remove, withoutId_eq_ok.2 ⟨_, rfl, hid, rfl⟩]
  | aggregateRemoved hid => simp [perform, edit, remove, withoutId_eq_ok.2 ⟨_, rfl, hid, rfl⟩]
  | limitCleared => rfl
  | limitSet hn => simp [perform, edit, setLimit, Int.not_lt.2 hn]
  | renamed hname => simp [perform, edit, rename, hname]

theorem Addition.performed {c c' : Canvas} {ids : IdSupply} (h : Addition cat c ids.next.1 e r c') :
    perform cat e ⟨c, ids⟩ = (.ok r, ⟨c', ids.next.2⟩) := by
  cases h with
  | join hleft hright hk =>
    simp [perform, edit, addJoin, hk, requireColumn_eq_ok.2 ⟨rfl, rfl, hleft⟩,
      requireColumn_eq_ok.2 ⟨rfl, rfl, hright⟩]
  | @filter t col _ _ _ o asked u href hop hk hv hu =>
    let f : Filter := ⟨ids.next.1, t, col, o, u, c.placedConnective asked⟩
    have hf : f.checked = .ok f := Filter.checked_eq_ok.2 ⟨hu, rfl⟩
    simp [perform, edit, addFilter, hop, hk, requireColumn_eq_ok.2 ⟨rfl, rfl, href⟩, hv, hf, f]
  | sort href hdir => simp [perform, edit, addSort, hdir, requireColumn_eq_ok.2 ⟨rfl, rfl, href⟩]
  | group href => simp [perform, edit, addGroup, requireColumn_eq_ok.2 ⟨rfl, rfl, href⟩]
  | aggregate href hfn hname =>
    simp [perform, edit, addAggregate, hfn, requireColumn_eq_ok.2 ⟨rfl, rfl, href⟩, hname]

/-- **Acceptance.** An edit is accepted exactly as `Change` says. -/
theorem perform_eq_ok : perform cat e d = (.ok r, d') ↔ Change cat d e r d' := by
  constructor
  · exact perform_accepted
  · rintro (⟨h⟩ | ⟨h⟩)
    · exact h.performed
    · exact h.performed

end Accepted

/-! ## Refusals -/

section Refused

open Editing

variable {cat : Catalog} {d d' : Draft} {e : Edit} {err : EditError}

/-- Every filter can be built again: its operand still passes its check. -/
def Rebuilds (c : Canvas) : Prop :=
  ∀ f ∈ c.filters, FilterValue.check f.operator f.value = .ok ()

theorem Rebuilds.detachFirst {c : Canvas} (h : Rebuilds c) {fs : List Filter} (hfs : fs.Sublist c.filters) :
    detachFirst fs = .ok (detached fs) :=
  detachFirst_eq_ok fun f hf => h f (hfs.mem hf)

theorem keeps_addTable {v : Value} : Keeps (addTable cat v) d := by
  cases v with
  | text t =>
    refine keeps_current_bind ?_
    split
    · exact keeps_of_ok rfl
    · split
      · exact keeps_of_ok rfl
      · exact keeps_of_error rfl (by simp [EditError.kind, editFaults])
  | _ =>
    refine keeps_of_error rfl ?_
    split <;> simp [EditError.kind, editFaults]

/-- The parts of the table are gone when the first filter is rebuilt; that it cannot be refused is what
keeps the removal whole. -/
theorem keeps_removeTable {v : Value} (h : Rebuilds d.canvas) : Keeps (removeTable v) d := by
  cases hr : d.canvas.requireTable v with
  | error e =>
    refine keeps_current_bind (keeps_check_bind refuses_requireTable fun t ht => ?_)
    rw [hr] at ht
    cases ht
  | ok t =>
    obtain ⟨rfl, ht⟩ := requireTable_eq_ok.1 hr
    have hfs := h.detachFirst (List.filter_sublist (p := (·.table != t)))
    exact keeps_of_ok (@Revision.performed .empty _ _ _ _ _ (.tableRemoved ht hfs))

theorem keeps_toggleColumn {v w a : Value} : Keeps (toggleColumn cat v w a) d := by
  refine keeps_current_bind (keeps_check_bind refuses_requireColumn fun _ _ => keeps_current_bind ?_)
  split
  · exact keeps_of_ok rfl
  · exact keeps_check_bind refuses_aliasOf fun _ _ => keeps_of_ok rfl

theorem keeps_setColumnAlias {v w a : Value} : Keeps (setColumnAlias cat v w a) d := by
  refine keeps_current_bind (keeps_check_bind refuses_requireColumn fun _ _ => keeps_current_bind ?_)
  split
  · exact keeps_check_bind refuses_aliasOf fun _ _ => keeps_of_ok rfl
  · exact keeps_of_error rfl (by simp [EditError.kind, editFaults])

theorem keeps_addJoin {lv lw rv rw k : Value} : Keeps (addJoin cat lv lw rv rw k) d := by
  refine keeps_check_bind refuses_choose fun _ _ => keeps_current_bind ?_
  refine keeps_check_bind refuses_requireColumn fun _ _ => keeps_current_bind ?_
  exact keeps_check_bind refuses_requireColumn fun _ _ => keeps_takeId_bind (keeps_of_ok rfl)

theorem keeps_addFilter {v w op x k : Value} : Keeps (addFilter cat v w op x k) d := by
  refine keeps_check_bind refuses_chooseOperator fun _ _ => ?_
  refine keeps_check_bind refuses_connectiveOf fun _ _ => keeps_current_bind ?_
  refine keeps_check_bind refuses_requireColumn fun _ _ => ?_
  refine keeps_check_bind refuses_ofRaw fun _ _ => keeps_current_bind ?_
  exact keeps_takeId_bind (keeps_check_bind refuses_checked fun _ _ => keeps_of_ok rfl)

theorem keeps_addSort {v w dir : Value} : Keeps (addSort cat v w dir) d := by
  refine keeps_check_bind refuses_choose fun _ _ => keeps_current_bind ?_
  exact keeps_check_bind refuses_requireColumn fun _ _ => keeps_takeId_bind (keeps_of_ok rfl)

theorem keeps_addGroup {v w : Value} : Keeps (addGroup cat v w) d := by
  refine keeps_current_bind ?_
  exact keeps_check_bind refuses_requireColumn fun _ _ => keeps_takeId_bind (keeps_of_ok rfl)

theorem keeps_addAggregate {fn v w a : Value} : Keeps (addAggregate cat fn v w a) d := by
  refine keeps_check_bind refuses_choose fun _ _ => keeps_current_bind ?_
  refine keeps_check_bind refuses_requireColumn fun _ _ => ?_
  exact keeps_check_bind refuses_aliasOf fun _ _ => keeps_takeId_bind (keeps_of_ok rfl)

theorem keeps_remove {kind : PartKind} {v : Value} : Keeps (remove kind v) d := by
  cases kind with
  | filter =>
    refine keeps_current_bind (keeps_check_bind refuses_withoutId fun _ _ => ?_)
    exact keeps_check_bind refuses_detachFirst fun _ _ => keeps_of_ok rfl
  | _ => exact keeps_current_bind (keeps_check_bind refuses_withoutId fun _ _ => keeps_of_ok rfl)

theorem keeps_setLimit {v : Value} : Keeps (setLimit v) d := by
  cases v with
  | null => exact keeps_of_ok rfl
  | int n =>
    by_cases hn : n < 0
    · simp only [setLimit, hn, if_true]
      exact keeps_of_error rfl (by simp [EditError.kind, editFaults])
    · simp only [setLimit, hn, if_false]
      exact keeps_of_ok rfl
  | _ => exact keeps_of_error rfl (by simp [EditError.kind, editFaults])

theorem keeps_rename {v : Value} : Keeps (rename v) d :=
  keeps_check_bind refuses_nameOf fun _ _ => keeps_of_ok rfl

/-- **Refusal.** A refused edit leaves the canvas as it was; it may have taken an id. It is refused for
a reference, for a rule, or for an argument of a wrong type. -/
theorem perform_refused (h : Rebuilds d.canvas) (he : perform cat e d = (.error err, d')) :
    d'.canvas = d.canvas ∧ d.ids.given ≤ d'.ids.given ∧ err.kind ∈ editFaults := by
  suffices hkeeps : Keeps (edit cat e) d from hkeeps err d' he
  cases e with
  | addTable v => exact keeps_addTable
  | removeTable v => exact keeps_removeTable h
  | toggleColumn v w a => exact keeps_toggleColumn
  | setColumnAlias v w a => exact keeps_setColumnAlias
  | addJoin lv lw rv rw k => exact keeps_addJoin
  | addFilter v w op x k => exact keeps_addFilter
  | addSort v w dir => exact keeps_addSort
  | addGroup v w => exact keeps_addGroup
  | addAggregate fn v w a => exact keeps_addAggregate
  | remove kind v => exact keeps_remove
  | setLimit v => exact keeps_setLimit
  | rename v => exact keeps_rename

end Refused

end Canvas

end QueryCanvas
