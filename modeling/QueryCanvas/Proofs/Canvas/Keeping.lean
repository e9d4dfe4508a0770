import QueryCanvas.Proofs.Canvas.Invariant

/-!
# Removals

A removal leaves of every collection the entries that it does not concern, in their order, and detaches the
filter that is first then. `Keep` says which entries stay, and `Canvas.keeping` is what is left.

* `keeping_comm`: of two removals either may come first. The first filter may be detached on the way, so
  that what stays must not depend on connectives; `Keep` carries the proof of it.
* `perform_removeTable`, `perform_remove`: the two kinds of removal leave what `Keep.off` and `Keep.but` say.
* `Interchange`: two removals are accepted in either order and lead to the same draft.
-/

namespace QueryCanvas

namespace Canvas

/-- Which entries of each collection a removal leaves. Whether a filter stays does not depend on what it
connects to. -/
structure Keep where
  table : String → Bool
  column : SelectedColumn → Bool
  join : Join → Bool
  filter : Filter → Bool
  sort : Sorting → Bool
  group : Grouping → Bool
  aggregate : Aggregate → Bool
  filter_unconnected : ∀ f, filter f.unconnected = filter f

namespace Keep

/-- Everything stays. -/
def everything : Keep where
  table _ := true
  column _ := true
  join _ := true
  filter _ := true
  sort _ := true
  group _ := true
  aggregate _ := true
  filter_unconnected _ := rfl

/-- What does not name a table stays. -/
def off (t : String) : Keep where
  table u := u != t
  column s := s.table != t
  join j := j.leftTable != t && j.rightTable != t
  filter f := f.table != t
  sort s := s.table != t
  group g := g.table != t
  aggregate a := a.table != t
  filter_unconnected _ := rfl

/-- All but the items of one kind with an id stay. -/
def but (kind : PartKind) (id : String) : Keep :=
  match kind with
  | .join => { everything with join := (·.id != id) }
  | .filter => { everything with filter := (·.id != id), filter_unconnected := fun _ => rfl }
  | .sort => { everything with sort := (·.id != id) }
  | .group => { everything with group := (·.id != id) }
  | .aggregate => { everything with aggregate := (·.id != id) }

end Keep

/-- What a removal leaves of a canvas. -/
def keeping (k : Keep) (c : Canvas) : Canvas :=
  { c with
    tables := c.tables.filter k.table
    columns := c.columns.filter k.column
    joins := c.joins.filter k.join
    filters := detached (c.filters.filter k.filter)
    sorts := c.sorts.filter k.sort
    groups := c.groups.filter k.group
    aggregates := c.aggregates.filter k.aggregate }

/-- A canvas without the items of a kind that have an id. -/
def withoutItem (c : Canvas) (id : String) : PartKind → Canvas
  | .join => { c with joins := c.joins.filter (·.id != id) }
  | .filter => { c with filters := detached (c.filters.filter (·.id != id)) }
  | .sort => { c with sorts := c.sorts.filter (·.id != id) }
  | .group => { c with groups := c.groups.filter (·.id != id) }
  | .aggregate => { c with aggregates := c.aggregates.filter (·.id != id) }

/-- An item of a collection whose items have ids: its id, and the tables that it names. -/
structure Item where
  id : String
  tables : List String
  deriving DecidableEq

/-- The items of a kind, in their order. -/
def items (c : Canvas) : PartKind → List Item
  | .join => c.joins.map fun j => ⟨j.id, [j.leftTable, j.rightTable]⟩
  | .filter => c.filters.map fun f => ⟨f.id, [f.table]⟩
  | .sort => c.sorts.map fun s => ⟨s.id, [s.table]⟩
  | .group => c.groups.map fun g => ⟨g.id, [g.table]⟩
  | .aggregate => c.aggregates.map fun a => ⟨a.id, [a.table]⟩

variable {cat : Catalog} {c : Canvas} {d : Draft} {t id : String} {kind kind' : PartKind} {item : Item}
variable {fs : List Filter}

/-! ## The first filter -/

theorem detached_eq_self (h : Connected fs) : detached fs = fs := by
  cases fs with
  | nil => rfl
  | cons f fs => rw [detached, unconnected_of_isNone (by simp [h.1])]

/-- Detaching the first filter changes no item. -/
theorem map_item_detached :
    (detached fs).map (fun f => (⟨f.id, [f.table]⟩ : Item)) = fs.map fun f => ⟨f.id, [f.table]⟩ := by
  cases fs <;> rfl

/-- Filters may be detached before some of them are taken away: what is left is detached in any case. -/
theorem detached_filter_detached {p : Filter → Bool} (hp : ∀ f, p f.unconnected = p f) :
    detached ((detached fs).filter p) = detached (fs.filter p) := by
  cases fs with
  | nil => rfl
  | cons f fs =>
    rw [detached, List.filter_cons, List.filter_cons, hp]
    cases p f <;> rfl

/-! ## What is left -/

/-- **Either removal may come first.** -/
theorem keeping_comm (k l : Keep) : (c.keeping k).keeping l = (c.keeping l).keeping k := by
  have hfilters : detached ((detached (c.filters.filter k.filter)).filter l.filter) =
      detached ((detached (c.filters.filter l.filter)).filter k.filter) := by
    rw [detached_filter_detached l.filter_unconnected, detached_filter_detached k.filter_unconnected,
      List.filter_comm]
  unfold keeping
  dsimp only
  rw [hfilters, List.filter_comm _ _ c.tables, List.filter_comm _ _ c.columns, List.filter_comm _ _ c.joins,
    List.filter_comm _ _ c.sorts, List.filter_comm _ _ c.groups, List.filter_comm _ _ c.aggregates]

/-- The items that stay when a table goes are those that do not name it. -/
theorem items_off : (c.keeping (.off t)).items kind = (c.items kind).filter fun i => !i.tables.contains t := by
  have hone : ∀ u, (!List.contains [u] t) = (u != t) := fun u => by
    simp only [List.contains_cons, List.contains_nil, Bool.or_false, bne, Bool.beq_comm]
  have htwo : ∀ u w, (!List.contains [u, w] t) = (u != t && w != t) := fun u w => by
    simp only [List.contains_cons, List.contains_nil, Bool.or_false, Bool.not_or, bne, Bool.beq_comm]
  cases kind <;>
    simp only [items, keeping, Keep.off, List.filter_map, Function.comp_def, map_item_detached, hone, htwo]

/-- The items that stay when the one of an id goes are the others. -/
theorem items_but : (c.keeping (.but kind id)).items kind = (c.items kind).filter (·.id != id) := by
  cases kind <;> simp only [items, keeping, Keep.but, List.filter_map, Function.comp_def, map_item_detached]

/-- The items of the other kinds stay. -/
theorem items_but_other (h : kind' ≠ kind) : (c.keeping (.but kind id)).items kind' = c.items kind' := by
  cases kind <;> cases kind' <;>
    simp [items, keeping, Keep.but, Keep.everything, map_item_detached] at h ⊢

/-- An item takes no table along. -/
theorem tables_but : (c.keeping (.but kind id)).tables = c.tables := by
  cases kind <;> simp [keeping, Keep.but, Keep.everything]

/-- Without an item, everything else stays: the first filter connects to nothing as it is. -/
theorem keeping_but (h : Connected c.filters) : c.keeping (.but kind id) = c.withoutItem id kind := by
  have hfs := detached_eq_self h
  cases kind <;> simp [keeping, Keep.but, Keep.everything, withoutItem, hfs]

/-- Where nothing is to be removed, nothing changes. -/
theorem keeping_eq_self {k : Keep} (h : Connected c.filters) (htables : ∀ u ∈ c.tables, k.table u = true)
    (hcolumns : ∀ s ∈ c.columns, k.column s = true) (hjoins : ∀ j ∈ c.joins, k.join j = true)
    (hfilters : ∀ f ∈ c.filters, k.filter f = true) (hsorts : ∀ s ∈ c.sorts, k.sort s = true)
    (hgroups : ∀ g ∈ c.groups, k.group g = true) (haggregates : ∀ a ∈ c.aggregates, k.aggregate a = true) :
    c.keeping k = c := by
  unfold keeping
  rw [List.filter_eq_self.2 htables, List.filter_eq_self.2 hcolumns, List.filter_eq_self.2 hjoins,
    List.filter_eq_self.2 hfilters, List.filter_eq_self.2 hsorts, List.filter_eq_self.2 hgroups,
    List.filter_eq_self.2 haggregates, detached_eq_self h]

/-! ## The edits -/

/-- **Removing a table** of the canvas. -/
theorem perform_removeTable (h : Rebuilds d.canvas) (ht : t ∈ d.canvas.tables) :
    perform cat (.removeTable (.text t)) d = (.ok .done, ⟨d.canvas.keeping (.off t), d.ids⟩) :=
  Revision.performed (.tableRemoved ht (h.detachFirst List.filter_sublist))

/-- An item is taken away under its id. -/
theorem revision_remove (h : Rebuilds c) (hitem : item ∈ c.items kind) :
    Revision cat c (.remove kind (.text item.id)) .done (c.withoutItem item.id kind) := by
  cases kind with
  | join =>
    obtain ⟨j, hj, rfl⟩ := List.mem_map.1 hitem
    exact .joinRemoved ⟨j, hj, rfl⟩
  | filter =>
    obtain ⟨f, hf, rfl⟩ := List.mem_map.1 hitem
    exact .filterRemoved ⟨f, hf, rfl⟩ (h.detachFirst List.filter_sublist)
  | sort =>
    obtain ⟨s, hs, rfl⟩ := List.mem_map.1 hitem
    exact .sortRemoved ⟨s, hs, rfl⟩
  | group =>
    obtain ⟨g, hg, rfl⟩ := List.mem_map.1 hitem
    exact .groupRemoved ⟨g, hg, rfl⟩
  | aggregate =>
    obtain ⟨a, ha, rfl⟩ := List.mem_map.1 hitem
    exact .aggregateRemoved ⟨a, ha, rfl⟩

/-- **Removing an item** by its id. -/
theorem perform_remove (h : Sound cat d) (hitem : item ∈ d.canvas.items kind) :
    perform cat (.remove kind (.text item.id)) d =
      (.ok .done, ⟨d.canvas.keeping (.but kind item.id), d.ids⟩) := by
  rw [keeping_but h.connected]
  exact (revision_remove h.rebuilds hitem).performed

theorem Sound.removeTable (h : Sound cat d) (ht : t ∈ d.canvas.tables) :
    Sound cat ⟨d.canvas.keeping (.off t), d.ids⟩ := by
  have hsound := h.perform (.removeTable (.text t))
  rwa [perform_removeTable h.rebuilds ht] at hsound

theorem Sound.remove (h : Sound cat d) (hitem : item ∈ d.canvas.items kind) :
    Sound cat ⟨d.canvas.keeping (.but kind item.id), d.ids⟩ := by
  have hsound := h.perform (.remove kind (.text item.id))
  rwa [perform_remove h hitem] at hsound

/-! ## One removal after another -/

/-- Two removals are accepted in either order and lead to the same draft. -/
def Interchange (cat : Catalog) (e e' : Edit) (d : Draft) : Prop :=
  ∃ d₁ d₂ d', perform cat e d = (.ok .done, d₁) ∧ perform cat e' d₁ = (.ok .done, d') ∧
    perform cat e' d = (.ok .done, d₂) ∧ perform cat e d₂ = (.ok .done, d')

/-- Removals may be interchanged if each of them does the same after the other. -/
theorem interchange_of_keeping {e e' : Edit} {k l : Keep}
    (he : perform cat e d = (.ok .done, ⟨d.canvas.keeping k, d.ids⟩))
    (hthen' : perform cat e' ⟨d.canvas.keeping k, d.ids⟩ = (.ok .done, ⟨(d.canvas.keeping k).keeping l, d.ids⟩))
    (he' : perform cat e' d = (.ok .done, ⟨d.canvas.keeping l, d.ids⟩))
    (hthen : perform cat e ⟨d.canvas.keeping l, d.ids⟩ = (.ok .done, ⟨(d.canvas.keeping l).keeping k, d.ids⟩)) :
    Interchange cat e e' d :=
  ⟨_, _, _, he, hthen', he', by rw [hthen, keeping_comm]⟩

/-! ## A run -/

/-- The draft of `shopEdits` before its removal: two tables, with a join and two filters. -/
def fullDraft : Draft :=
  performAll shop shopEdits.dropLast (opened (.text "Q") .null .fresh)

theorem reachable_fullDraft : Reachable shop fullDraft :=
  reachable_performAll shopEdits.dropLast (.text "Q") .null .fresh

end Canvas

end QueryCanvas
