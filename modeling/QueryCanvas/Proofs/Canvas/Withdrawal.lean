import QueryCanvas.Proofs.Canvas.Keeping

/-!
# Removing an item takes that item only

An id names one item of a canvas. Its removal takes this item out of its collection and touches nothing else
but the connective of a filter that becomes the first one; so it undoes the edit that added the item.

* `LosesItem`: one collection without one entry.
* `Withdrawal`: what removals by id do on a draft.
* `items_withdrawn`: they do so on every canvas that edits lead to.
-/

namespace QueryCanvas

/-- The kind and the id of the item that an edit answers with. -/
def Reply.item? : Reply → Option (PartKind × String)
  | .join j => some (.join, j.id)
  | .filter f => some (.filter, f.id)
  | .sort s => some (.sort, s.id)
  | .group g => some (.group, g.id)
  | .aggregate a => some (.aggregate, a.id)
  | .done | .flag _ | .column _ => none

/-- The kind of item that an edit adds. -/
def Edit.adds? : Edit → Option PartKind
  | .addJoin .. => some .join
  | .addFilter .. => some .filter
  | .addSort .. => some .sort
  | .addGroup .. => some .group
  | .addAggregate .. => some .aggregate
  | _ => none

namespace Canvas

/-- Of some entries with ids, what is left without the one of an id: those before it and those behind it. -/
def WithoutOne {α : Type} (idOf : α → String) (id : String) (xs rest : List α) : Prop :=
  ∃ before x behind, xs = before ++ x :: behind ∧ idOf x = id ∧ rest = before ++ behind ∧ ∀ y ∈ rest, idOf y ≠ id

/-- **One item less**: a canvas and the canvas without the item of a kind that has an id. The filter that is
first then connects to nothing. -/
inductive LosesItem (c : Canvas) (id : String) : PartKind → Canvas → Prop
  | join {rest : List Join} (h : WithoutOne Join.id id c.joins rest) :
      LosesItem c id .join { c with joins := rest }
  | filter {rest : List Filter} (h : WithoutOne Filter.id id c.filters rest) :
      LosesItem c id .filter { c with filters := detached rest }
  | sort {rest : List Sorting} (h : WithoutOne Sorting.id id c.sorts rest) :
      LosesItem c id .sort { c with sorts := rest }
  | group {rest : List Grouping} (h : WithoutOne Grouping.id id c.groups rest) :
      LosesItem c id .group { c with groups := rest }
  | aggregate {rest : List Aggregate} (h : WithoutOne Aggregate.id id c.aggregates rest) :
      LosesItem c id .aggregate { c with aggregates := rest }

/-- **Removals by id** on a draft. -/
structure Withdrawal (cat : Catalog) (d : Draft) : Prop where
  /-- They are accepted exactly for the ids that items of the kind have. -/
  accepted : ∀ kind v,
    (∃ r d', perform cat (.remove kind v) d = (.ok r, d')) ↔ ∃ item ∈ d.canvas.items kind, v = .text item.id
  /-- They take one item. -/
  exact : ∀ kind, ∀ item ∈ d.canvas.items kind, ∃ c,
    perform cat (.remove kind (.text item.id)) d = (.ok .done, ⟨c, d.ids⟩) ∧ LosesItem d.canvas item.id kind c
  /-- The item that an edit added is taken away again under the id that the edit answers with. -/
  undoes : ∀ e kind r d₁, e.adds? = some kind → perform cat e d = (.ok r, d₁) → ∃ id d₂,
    r.item? = some (kind, id) ∧ perform cat (.remove kind (.text id)) d₁ = (.ok .done, d₂) ∧
      d₂.canvas = d.canvas ∧ d₂.canvas.toValue = d.canvas.toValue
  /-- Of two items either may be taken first. -/
  items : ∀ kind kind', ∀ item ∈ d.canvas.items kind, ∀ item' ∈ d.canvas.items kind', item.id ≠ item'.id →
    Interchange cat (.remove kind (.text item.id)) (.remove kind' (.text item'.id)) d

variable {cat : Catalog} {c c' : Canvas} {d d' : Draft} {id : String} {kind kind' : PartKind} {item item' : Item}
variable {e : Edit} {r : Reply}

/-! ## The ids of a collection -/

/-- Among entries with distinct ids, those with another id than one of them are the others. -/
theorem withoutOne_filter {α : Type} {idOf : α → String} {xs : List α} (h : (xs.map idOf).Nodup)
    (hid : ∃ x ∈ xs, idOf x = id) : WithoutOne idOf id xs (xs.filter (idOf · != id)) := by
  obtain ⟨x, hx, rfl⟩ := hid
  obtain ⟨before, behind, rfl⟩ := List.mem_iff_append.1 hx
  rw [List.map_append, List.map_cons, List.nodup_middle, List.nodup_cons, ← List.map_append] at h
  have hothers : ∀ y ∈ before ++ behind, idOf y ≠ idOf x := fun y hy heq =>
    h.1 (List.mem_map.2 ⟨y, hy, heq⟩)
  have hkept : (before ++ behind).filter (idOf · != idOf x) = before ++ behind :=
    List.filter_eq_self.2 fun y hy => bne_iff_ne.2 (hothers y hy)
  refine ⟨before, x, behind, rfl, rfl, ?_, fun y hy => bne_iff_ne.1 (List.mem_filter.1 hy).2⟩
  rw [List.filter_append, List.filter_cons, bne_self_eq_false, if_neg Bool.false_ne_true, ← List.filter_append,
    hkept]

/-- The ids of one kind are among those of all parts. -/
theorem ids_items_sublist : ((c.items kind).map Item.id).Sublist c.partIds := by
  have hmap : ∀ {α : Type} {f : α → Item} {xs : List α}, (xs.map f).map Item.id = xs.map (Item.id ∘ f) := by simp
  unfold partIds items
  cases kind <;> simp only [hmap, List.append_assoc]
  · exact List.sublist_append_left _ _
  · exact (List.sublist_append_left _ _).trans (List.sublist_append_right _ _)
  · exact ((List.sublist_append_left _ _).trans (List.sublist_append_right _ _)).trans
      (List.sublist_append_right _ _)
  · exact (((List.sublist_append_left _ _).trans (List.sublist_append_right _ _)).trans
      (List.sublist_append_right _ _)).trans (List.sublist_append_right _ _)
  · exact ((List.sublist_append_right _ _).trans (List.sublist_append_right _ _)).trans
      ((List.sublist_append_right _ _).trans (List.sublist_append_right _ _))

/-! ## One removal -/

/-- With distinct ids, one item at most is missing. -/
theorem losesItem_withoutItem (h : c.partIds.Nodup) (hitem : item ∈ c.items kind) :
    LosesItem c item.id kind (c.withoutItem item.id kind) := by
  have hnodup : ((c.items kind).map Item.id).Nodup := h.sublist ids_items_sublist
  cases kind with
  | join =>
    obtain ⟨j, hj, rfl⟩ := List.mem_map.1 hitem
    have hjoins : (c.joins.map Join.id).Nodup := by simpa [items, Function.comp_def] using hnodup
    exact .join (withoutOne_filter hjoins ⟨j, hj, rfl⟩)
  | filter =>
    obtain ⟨f, hf, rfl⟩ := List.mem_map.1 hitem
    have hfilters : (c.filters.map Filter.id).Nodup := by simpa [items, Function.comp_def] using hnodup
    exact .filter (withoutOne_filter hfilters ⟨f, hf, rfl⟩)
  | sort =>
    obtain ⟨s, hs, rfl⟩ := List.mem_map.1 hitem
    have hsorts : (c.sorts.map Sorting.id).Nodup := by simpa [items, Function.comp_def] using hnodup
    exact .sort (withoutOne_filter hsorts ⟨s, hs, rfl⟩)
  | group =>
    obtain ⟨g, hg, rfl⟩ := List.mem_map.1 hitem
    have hgroups : (c.groups.map Grouping.id).Nodup := by simpa [items, Function.comp_def] using hnodup
    exact .group (withoutOne_filter hgroups ⟨g, hg, rfl⟩)
  | aggregate =>
    obtain ⟨a, ha, rfl⟩ := List.mem_map.1 hitem
    have haggregates : (c.aggregates.map Aggregate.id).Nodup := by
      simpa [items, Function.comp_def] using hnodup
    exact .aggregate (withoutOne_filter haggregates ⟨a, ha, rfl⟩)

/-- A removal is accepted for the id of an item only. -/
theorem exists_item_of_remove {v : Value} (h : perform cat (.remove kind v) d = (.ok r, d')) :
    ∃ item ∈ d.canvas.items kind, v = .text item.id := by
  obtain ⟨hr⟩ | ⟨ha⟩ := perform_eq_ok.1 h
  · cases hr with
    | joinRemoved hid =>
      obtain ⟨j, hj, rfl⟩ := hid
      exact ⟨_, List.mem_map_of_mem hj, rfl⟩
    | filterRemoved hid hfs =>
      obtain ⟨f, hf, rfl⟩ := hid
      exact ⟨_, List.mem_map_of_mem hf, rfl⟩
    | sortRemoved hid =>
      obtain ⟨s, hs, rfl⟩ := hid
      exact ⟨_, List.mem_map_of_mem hs, rfl⟩
    | groupRemoved hid =>
      obtain ⟨g, hg, rfl⟩ := hid
      exact ⟨_, List.mem_map_of_mem hg, rfl⟩
    | aggregateRemoved hid =>
      obtain ⟨a, ha, rfl⟩ := hid
      exact ⟨_, List.mem_map_of_mem ha, rfl⟩
  · cases ha

/-! ## Adding and removing -/

/-- Nothing has an id that is not among those of the parts. -/
theorem withoutItem_of_not_mem (hconnected : Connected c.filters) (hid : id ∉ c.partIds) :
    c.withoutItem id kind = c := by
  have hkept : ∀ (kind : PartKind) {α : Type} {f : α → Item} {xs : List α}, c.items kind = xs.map f →
      xs.filter (fun x => (f x).id != id) = xs := fun kind α f xs hxs =>
    List.filter_eq_self.2 fun x hx => bne_iff_ne.2 fun heq =>
      hid (ids_items_sublist.mem (List.mem_map.2 ⟨f x, hxs ▸ List.mem_map_of_mem hx, heq⟩))
  cases kind with
  | join =>
    have hjoins : c.joins.filter (·.id != id) = c.joins := hkept .join rfl
    rw [withoutItem, hjoins]
  | filter =>
    have hfilters : c.filters.filter (·.id != id) = c.filters := hkept .filter rfl
    rw [withoutItem, hfilters, detached_eq_self hconnected]
  | sort =>
    have hsorts : c.sorts.filter (·.id != id) = c.sorts := hkept .sort rfl
    rw [withoutItem, hsorts]
  | group =>
    have hgroups : c.groups.filter (·.id != id) = c.groups := hkept .group rfl
    rw [withoutItem, hgroups]
  | aggregate =>
    have haggregates : c.aggregates.filter (·.id != id) = c.aggregates := hkept .aggregate rfl
    rw [withoutItem, haggregates]

/-- An edit that adds an item puts it behind the others, and answers with it. -/
theorem Addition.placed (h : Addition cat c id e r c') (hkind : e.adds? = some kind) :
    r.item? = some (kind, id) ∧ (∃ item ∈ c'.items kind, item.id = id) ∧
      c'.withoutItem id kind = c.withoutItem id kind := by
  have hlast : ∀ {α : Type} {f : α → Item} {xs : List α} {x : α}, (f x).id = id →
      ∃ item ∈ (xs ++ [x]).map f, item.id = id := fun hx =>
    ⟨_, List.mem_map_of_mem (List.mem_append_right _ List.mem_cons_self), hx⟩
  cases h with
  | join hleft hright hk =>
    cases hkind
    exact ⟨rfl, hlast rfl, by simp [withoutItem]⟩
  | filter href hop hk hv hu =>
    cases hkind
    exact ⟨rfl, hlast rfl, by simp [withoutItem]⟩
  | sort href hdir =>
    cases hkind
    exact ⟨rfl, hlast rfl, by simp [withoutItem]⟩
  | group href =>
    cases hkind
    exact ⟨rfl, hlast rfl, by simp [withoutItem]⟩
  | aggregate href hfn hname =>
    cases hkind
    exact ⟨rfl, hlast rfl, by simp [withoutItem]⟩

/-- **Adding and removing.** The id is new, so that nothing else goes with the item. -/
theorem Sound.added_and_removed (h : Sound cat d) (hkind : e.adds? = some kind)
    (he : Canvas.perform cat e d = (.ok r, d')) :
    ∃ id d₂, r.item? = some (kind, id) ∧ Canvas.perform cat (.remove kind (.text id)) d' = (.ok .done, d₂) ∧
      d₂.canvas = d.canvas := by
  obtain ⟨hr⟩ | ⟨ha⟩ := perform_eq_ok.1 he
  · cases hr <;> cases hkind
  · obtain ⟨hreply, ⟨item, hitem, hid⟩, hkept⟩ := ha.placed hkind
    have hremove := perform_remove (h.addition ha) hitem
    rw [hid, keeping_but (h.addition ha).connected, hkept, withoutItem_of_not_mem h.connected h.fresh] at hremove
    exact ⟨_, _, hreply, hremove, rfl⟩

/-! ## Two removals -/

/-- Another item is still there after the removal of one. -/
theorem mem_items_but (hitem' : item' ∈ c.items kind') (hne : item'.id ≠ id) :
    item' ∈ (c.keeping (.but kind id)).items kind' := by
  by_cases hkind : kind' = kind
  · subst hkind
    rw [items_but]
    exact List.mem_filter.2 ⟨hitem', bne_iff_ne.2 hne⟩
  · rwa [items_but_other hkind]

theorem Sound.interchange_items (h : Sound cat d) (hitem : item ∈ d.canvas.items kind)
    (hitem' : item' ∈ d.canvas.items kind') (hne : item.id ≠ item'.id) :
    Interchange cat (.remove kind (.text item.id)) (.remove kind' (.text item'.id)) d :=
  interchange_of_keeping (perform_remove h hitem)
    (perform_remove (h.remove hitem) (mem_items_but hitem' hne.symm)) (perform_remove h hitem')
    (perform_remove (h.remove hitem') (mem_items_but hitem hne))

/-- **Withdrawals.** On every canvas that edits lead to, a removal by id takes exactly the item of that id,
undoes the edit that added it, and may be interchanged with the removal of any other item. -/
theorem items_withdrawn (h : Reachable cat d) : Withdrawal cat d := by
  have hsound := h.sound
  exact
    { accepted := fun kind v => by
        constructor
        · rintro ⟨r, d', he⟩
          exact exists_item_of_remove he
        · rintro ⟨item, hitem, rfl⟩
          exact ⟨_, _, perform_remove hsound hitem⟩
      exact := fun kind item hitem =>
        ⟨_, (revision_remove hsound.rebuilds hitem).performed, losesItem_withoutItem hsound.ids_nodup hitem⟩
      undoes := fun e kind r d₁ hkind he => by
        obtain ⟨id, d₂, hreply, hremove, hcanvas⟩ := hsound.added_and_removed hkind he
        exact ⟨id, d₂, hreply, hremove, hcanvas, by rw [hcanvas]⟩
      items := fun kind kind' item hitem item' hitem' hne => hsound.interchange_items hitem hitem' hne }

/-- Both filters of a draft, in either order. -/
theorem withdrawal_fullDraft :
    Reachable shop fullDraft ∧ (fullDraft.canvas.items .filter).map Item.id = ["id-3", "id-4"] ∧
      Withdrawal shop fullDraft :=
  ⟨reachable_fullDraft, by decide +kernel, items_withdrawn reachable_fullDraft⟩

end Canvas

end QueryCanvas
