import QueryCanvas.Proofs.Canvas.Keeping

/-!
# Removing a table is an exact cascade

A table leaves with everything that names it, and nothing else changes but what the first filter connects to.
What is left does not depend on the order of the removals, and a table that was only placed leaves no trace.

* `Cascade`: what the removal of a table of the canvas does, and what it may be interchanged with.
* `removal_cascades`: it holds of every canvas that edits lead to.
-/

namespace QueryCanvas

namespace Canvas

variable {cat : Catalog} {c : Canvas} {d : Draft} {t u : String} {kind : PartKind} {item : Item}

/-- **The removal of a table** of the canvas of a draft. -/
structure Cascade (cat : Catalog) (d : Draft) (t : String) : Prop where
  /-- Every collection keeps exactly what does not name the table, and the filter that is first then connects to
  nothing. -/
  exact : perform cat (.removeTable (.text t)) d =
    (.ok .done, ⟨d.canvas.withoutTable t (detached (d.canvas.filters.filter (·.table != t))), d.ids⟩)
  /-- Another table may be removed before or after. -/
  tables : ∀ u ∈ d.canvas.tables, u ≠ t →
    Interchange cat (.removeTable (.text t)) (.removeTable (.text u)) d
  /-- An item that does not name the table may be removed before or after. -/
  items : ∀ kind, ∀ item ∈ d.canvas.items kind, t ∉ item.tables →
    Interchange cat (.removeTable (.text t)) (.remove kind (.text item.id)) d

/-! ## Another removal before or after -/

theorem Sound.interchange_tables (h : Sound cat d) (ht : t ∈ d.canvas.tables) (hu : u ∈ d.canvas.tables)
    (hne : u ≠ t) : Interchange cat (.removeTable (.text t)) (.removeTable (.text u)) d := by
  have hstays : ∀ {v w : String}, v ∈ d.canvas.tables → v ≠ w → v ∈ (d.canvas.keeping (.off w)).tables :=
    fun hv hvw => List.mem_filter.2 ⟨hv, by simpa [Keep.off] using hvw⟩
  exact interchange_of_keeping (perform_removeTable h.rebuilds ht)
    (perform_removeTable (h.removeTable ht).rebuilds (hstays hu hne)) (perform_removeTable h.rebuilds hu)
    (perform_removeTable (h.removeTable hu).rebuilds (hstays ht hne.symm))

/-- The item is still there when the table is gone, since it does not name it; and an item takes no table
along. -/
theorem Sound.interchange_item (h : Sound cat d) (ht : t ∈ d.canvas.tables) (hitem : item ∈ d.canvas.items kind)
    (hoff : t ∉ item.tables) : Interchange cat (.removeTable (.text t)) (.remove kind (.text item.id)) d := by
  have hstays : item ∈ (d.canvas.keeping (.off t)).items kind := by
    rw [items_off]
    exact List.mem_filter.2 ⟨hitem, by simpa using hoff⟩
  have htable : t ∈ (d.canvas.keeping (.but kind item.id)).tables := by
    rwa [tables_but]
  exact interchange_of_keeping (perform_removeTable h.rebuilds ht) (perform_remove (h.removeTable ht) hstays)
    (perform_remove h hitem) (perform_removeTable (h.remove hitem).rebuilds htable)

/-! ## A table that was only placed -/

/-- Nothing names a table that is not on the canvas. -/
theorem keeping_off_of_not_mem (h : WellFormed cat c) (ht : t ∉ c.tables) : c.keeping (.off t) = c := by
  have hne : ∀ {v col : String}, Refers cat c v col → (v != t) = true := fun hv =>
    bne_iff_ne.2 fun heq => ht (heq ▸ hv.1)
  refine keeping_eq_self h.connected (fun v hv => bne_iff_ne.2 fun heq => ht (heq ▸ hv))
    (fun s hs => hne (h.grounded.columns s hs)) (fun j hj => ?_) (fun f hf => hne (h.grounded.filters f hf))
    (fun s hs => hne (h.grounded.sorts s hs)) (fun g hg => hne (h.grounded.groups g hg))
    fun a ha => hne (h.grounded.aggregates a ha)
  obtain ⟨hleft, hright⟩ := h.grounded.joins j hj
  exact Bool.and_eq_true_iff.2 ⟨hne hleft, hne hright⟩

/-- **A new table** that is placed and removed at once leaves the draft as it was. -/
theorem Sound.placed_and_removed (h : Sound cat d) (ht : t ∉ d.canvas.tables) (hcat : cat.contains t = true) :
    ∃ d₁, Canvas.perform cat (.addTable (.text t)) d = (.ok (.flag true), d₁) ∧
      Canvas.perform cat (.removeTable (.text t)) d₁ = (.ok .done, d) := by
  refine ⟨_, (Revision.tablePlaced ht hcat).performed, ?_⟩
  have hsound := h.tablePlaced ht hcat
  rw [perform_removeTable hsound.rebuilds (by simp)]
  have hkept : { d.canvas with tables := d.canvas.tables ++ [t] }.keeping (.off t) =
      d.canvas.keeping (.off t) := by
    simp [keeping, Keep.off]
  rw [hkept, keeping_off_of_not_mem h.toWellFormed ht]

/-- **Cascades.** On every canvas that edits lead to, the removal of a table takes exactly what names it, in
whatever order tables and other items are removed; and a new table that is removed at once leaves everything as
it was. -/
theorem removal_cascades (h : Reachable cat d) :
    (∀ t ∈ d.canvas.tables, Cascade cat d t) ∧
      ∀ t, t ∉ d.canvas.tables → cat.contains t = true →
        ∃ d₁, perform cat (.addTable (.text t)) d = (.ok (.flag true), d₁) ∧
          perform cat (.removeTable (.text t)) d₁ = (.ok .done, d) := by
  have hsound := h.sound
  refine ⟨fun t ht => ?_, fun t ht hcat => hsound.placed_and_removed ht hcat⟩
  exact
    { exact := perform_removeTable hsound.rebuilds ht
      tables := fun u hu hne => hsound.interchange_tables ht hu hne
      items := fun kind item hitem hoff => hsound.interchange_item ht hitem hoff }

/-- A table that a join and a filter name. -/
theorem cascade_fullDraft :
    Reachable shop fullDraft ∧ Cascade shop fullDraft "orders" ∧
      Interchange shop (.removeTable (.text "orders")) (.removeTable (.text "customers")) fullDraft := by
  have horders : "orders" ∈ fullDraft.canvas.tables := by decide +kernel
  have hcustomers : "customers" ∈ fullDraft.canvas.tables := by decide +kernel
  have h := (removal_cascades reachable_fullDraft).1 "orders" horders
  exact ⟨reachable_fullDraft, h, h.tables "customers" hcustomers (by decide)⟩

end Canvas

end QueryCanvas
