import QueryCanvas.Canvas.Snapshot
import QueryCanvas.Proofs.Canvas.Change
import Std.Data.String.ToNat

/-!
# Well-formed canvases

What holds of every canvas that edits can build, as one structure with a field for each rule, and the
lemmas about lists that carry the rules through an edit.

* `WellFormed`: tables, references, selected columns, connectives, operands, aliases, limit and ids.
* `Sound`: the same for a draft, with what an edit needs besides: every operand still passes its check,
  and every id came from the supply.
-/

namespace QueryCanvas

namespace IdSupply

/-- **No id is given twice.** -/
theorem nth_injective : Function.Injective nth := by
  intro m n h
  have hlist : ("id-" ++ toString m).toList = ("id-" ++ toString n).toList := congrArg String.toList h
  rw [String.toList_append, String.toList_append] at hlist
  exact Nat.repr_injective (String.toList_injective (List.append_cancel_left hlist))

end IdSupply

namespace Canvas

/-- The ids of the parts that have one, collection by collection. -/
def partIds (c : Canvas) : List String :=
  c.joins.map Join.id ++ c.filters.map Filter.id ++ c.sorts.map Sorting.id ++ c.groups.map Grouping.id
    ++ c.aggregates.map Aggregate.id

/-- The first filter connects to nothing, and every later one is connected by AND or OR. -/
def Connected : List Filter → Prop
  | [] => True
  | f :: fs => f.connective = none ∧ ∀ g ∈ fs, g.connective = some .and ∨ g.connective = some .or

/-- Every part names a table on the canvas and columns that this table has in the catalog; a join does
so at both ends. -/
structure Grounded (cat : Catalog) (c : Canvas) : Prop where
  columns : ∀ s ∈ c.columns, Refers cat c s.table s.column
  joins : ∀ j ∈ c.joins, Refers cat c j.leftTable j.leftColumn ∧ Refers cat c j.rightTable j.rightColumn
  filters : ∀ f ∈ c.filters, Refers cat c f.table f.column
  sorts : ∀ s ∈ c.sorts, Refers cat c s.table s.column
  groups : ∀ g ∈ c.groups, Refers cat c g.table g.column
  aggregates : ∀ a ∈ c.aggregates, Refers cat c a.table a.column

/-- **A well-formed canvas** over a catalog. -/
structure WellFormed (cat : Catalog) (c : Canvas) : Prop where
  tables_nodup : c.tables.Nodup
  tables_known : ∀ t ∈ c.tables, cat.contains t = true
  grounded : Grounded cat c
  columns_nodup : (c.columns.map fun s => (s.table, s.column)).Nodup
  connected : Connected c.filters
  shaped : ∀ f ∈ c.filters, f.value.shape = f.operator.shape
  column_aliases : ∀ s ∈ c.columns, ∀ a, s.aliasName = some a → PlainIdentifier a
  aggregate_aliases : ∀ g ∈ c.aggregates, ∀ a, g.aliasName = some a → PlainIdentifier a
  limit : limitValue c.limit = .null ∨ ∃ n : Int, 0 ≤ n ∧ limitValue c.limit = .int n
  ids_nodup : c.partIds.Nodup

/-- **A sound draft**: its canvas is well-formed, its filters can be built again, and its ids come from
the supply. -/
structure Sound (cat : Catalog) (d : Draft) : Prop extends WellFormed cat d.canvas where
  rebuilds : Rebuilds d.canvas
  supplied : ∀ id ∈ d.canvas.partIds, ∃ n ≤ d.ids.given, id = IdSupply.nth n

variable {cat : Catalog} {c c' : Canvas} {d : Draft} {t col : String}

/-! ## Lists -/

section Lists

variable {α β : Type} {p : α → Bool} {a b : α} {l : List α}

/-- What holds of the entries and of one more holds of all of them. -/
theorem forall_mem_snoc {P : α → Prop} (h : ∀ x ∈ l, P x) (ha : P a) : ∀ x ∈ l ++ [a], P x :=
  List.forall_mem_append.2 ⟨h, List.forall_mem_singleton.2 ha⟩

theorem mem_replaceFirst (h : a ∈ replaceFirst p b l) : a = b ∨ a ∈ l := by
  induction l with
  | nil => cases h
  | cons x l ih =>
    by_cases hx : p x = true
    · rw [replaceFirst, if_pos hx, List.mem_cons] at h
      exact h.imp_right (List.mem_cons_of_mem x)
    · rw [replaceFirst, if_neg hx, List.mem_cons] at h
      rcases h with rfl | h
      · exact .inr List.mem_cons_self
      · exact (ih h).imp_right (List.mem_cons_of_mem x)

/-- Replacing an entry keeps what the old and the new one have in common. -/
theorem map_replaceFirst {f : α → β} (h : ∀ a, p a = true → f b = f a) :
    (replaceFirst p b l).map f = l.map f := by
  induction l with
  | nil => rfl
  | cons x l ih =>
    by_cases hx : p x = true
    · simp [replaceFirst, hx, h x hx]
    · simp [replaceFirst, hx, ih]

end Lists

/-! ## References -/

theorem Refers.mono (h : Refers cat c t col) (ht : c.tables ⊆ c'.tables) : Refers cat c' t col :=
  ⟨ht h.1, h.2⟩

/-- References outlive the placing of a table. -/
theorem Grounded.placed (h : Grounded cat c) : Grounded cat { c with tables := c.tables ++ [t] } := by
  have ht : c.tables ⊆ c.tables ++ [t] := List.subset_append_left _ _
  exact
    { columns := fun s hs => (h.columns s hs).mono ht
      joins := fun j hj => ⟨(h.joins j hj).1.mono ht, (h.joins j hj).2.mono ht⟩
      filters := fun f hf => (h.filters f hf).mono ht
      sorts := fun s hs => (h.sorts s hs).mono ht
      groups := fun g hg => (h.groups g hg).mono ht
      aggregates := fun a ha => (h.aggregates a ha).mono ht }

/-! ## Filters -/

section Filters

variable {f : Filter} {fs gs : List Filter}

/-- What holds of a filter whatever its connective holds of the filters when the first one is
detached. -/
theorem forall_detached {P : Filter → Prop} (hP : ∀ f, P f → P f.unconnected) (h : ∀ f ∈ fs, P f) :
    ∀ f ∈ detached fs, P f := by
  cases fs with
  | nil => exact h
  | cons f fs =>
    intro g hg
    rcases List.mem_cons.1 hg with rfl | hg
    · exact hP f (h f List.mem_cons_self)
    · exact h g (List.mem_cons_of_mem _ hg)

theorem map_id_detached : (detached fs).map Filter.id = fs.map Filter.id := by
  cases fs <;> rfl

/-- Filters stay connected when some of them go and the first one left is detached. -/
theorem Connected.detached (h : Connected fs) (hgs : gs.Sublist fs) : Connected (detached gs) := by
  cases gs with
  | nil => trivial
  | cons g gs =>
    cases fs with
    | nil => cases hgs
    | cons f fs =>
      have hsub : gs.Sublist fs := hgs.tail
      exact ⟨rfl, fun x hx => h.2 x (hsub.mem hx)⟩

/-- Filters stay connected when one more is placed behind them. -/
theorem Connected.placed {id : String} {o : FilterOperator} {u : FilterValue} {asked : Option Connective}
    (h : Connected c.filters) :
    Connected (c.filters ++ [⟨id, t, col, o, u, c.placedConnective asked⟩]) := by
  simp only [placedConnective]
  cases hfs : c.filters with
  | nil => exact ⟨rfl, by simp⟩
  | cons f fs =>
    rw [hfs] at h
    refine ⟨h.1, fun g hg => ?_⟩
    rcases List.mem_append.1 hg with hg | hg
    · exact h.2 g hg
    · rw [List.mem_singleton.1 hg]
      cases asked.getD .and
      · exact .inl rfl
      · exact .inr rfl

theorem detachFirst_eq_detached (h : detachFirst fs = .ok gs) : gs = detached fs := by
  cases fs with
  | nil => exact (Except.ok.inj h).symm
  | cons f fs =>
    by_cases hk : f.connective.isSome
    · rw [detachFirst, if_pos hk, bind_eq_ok] at h
      obtain ⟨g, hg, h⟩ := h
      obtain ⟨-, rfl⟩ := Filter.checked_eq_ok.1 hg
      exact (Except.ok.inj h).symm
    · rw [detachFirst, if_neg hk] at h
      rw [← Except.ok.inj h, Canvas.detached, unconnected_of_isNone (Bool.eq_false_iff.2 hk)]

end Filters

/-! ## Ids -/

/-- The ids of a canvas of which some parts were taken away are among those it had. -/
theorem partIds_sublist (hj : c'.joins.Sublist c.joins)
    (hf : (c'.filters.map Filter.id).Sublist (c.filters.map Filter.id)) (hs : c'.sorts.Sublist c.sorts)
    (hg : c'.groups.Sublist c.groups) (ha : c'.aggregates.Sublist c.aggregates) :
    c'.partIds.Sublist c.partIds :=
  ((((hj.map _).append hf).append (hs.map _)).append (hg.map _)).append (ha.map _)

/-- An accepted edit that takes no id brings no id in. -/
theorem Revision.partIds {e : Edit} {r : Reply} (h : Revision cat c e r c') :
    c'.partIds.Sublist c.partIds := by
  cases h with
  | tableRemoved ht hfs =>
    refine partIds_sublist List.filter_sublist ?_ List.filter_sublist List.filter_sublist List.filter_sublist
    rw [withoutTable, detachFirst_eq_detached hfs, map_id_detached]
    exact List.filter_sublist.map _
  | filterRemoved hid hfs =>
    refine partIds_sublist (.refl _) ?_ (.refl _) (.refl _) (.refl _)
    rw [detachFirst_eq_detached hfs, map_id_detached]
    exact List.filter_sublist.map _
  | joinRemoved hid => exact partIds_sublist List.filter_sublist (.refl _) (.refl _) (.refl _) (.refl _)
  | sortRemoved hid => exact partIds_sublist (.refl _) (.refl _) List.filter_sublist (.refl _) (.refl _)
  | groupRemoved hid => exact partIds_sublist (.refl _) (.refl _) (.refl _) List.filter_sublist (.refl _)
  | aggregateRemoved hid => exact partIds_sublist (.refl _) (.refl _) (.refl _) (.refl _) List.filter_sublist
  | _ => exact .refl _

/-- The next id is new. -/
theorem Sound.fresh (h : Sound cat d) : d.ids.next.1 ∉ d.canvas.partIds := by
  intro hmem
  obtain ⟨n, hn, heq⟩ := h.supplied _ hmem
  have : d.ids.given + 1 = n := IdSupply.nth_injective heq
  omega

/-- An accepted edit that adds a part gives it the id, and keeps the ids of the others. -/
theorem Addition.partIds {id : String} {e : Edit} {r : Reply} (h : Addition cat c id e r c') :
    c'.partIds.Perm (id :: c.partIds) := by
  refine List.perm_iff_count.2 fun x => ?_
  cases h <;> simp only [Canvas.partIds, List.map_append, List.map_cons, List.map_nil, List.count_append,
    List.count_cons, List.count_nil] <;> omega

end Canvas

end QueryCanvas
