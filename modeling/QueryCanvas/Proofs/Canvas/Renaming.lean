import Mathlib.Logic.Equiv.Defs
import QueryCanvas.Proofs.Canvas.RoundTrip

/-!
# Other ids

Ids only tell parts apart. A canvas with other ids, as long as they are as different, compiles to the same
statement, and an edit does the same to it, if it names the part that it removes by the other id.

* `Canvas.renamed`, `Edit.renamed`: a canvas and an edit under a permutation of ids.
* `Mirrors`: the drafts that an edit leaves of two drafts that differ in their ids.
* `mirrors_perform`: what every edit leaves.
-/

namespace QueryCanvas

section Renamed

variable (ρ : Equiv.Perm String)

/-- A loose id under another name. -/
def Value.renamed : Value → Value
  | .text s => .text (ρ s)
  | v => v

/-- A canvas with other ids. -/
def Canvas.renamed (c : Canvas) : Canvas :=
  { c with
    id := c.id.renamed ρ
    joins := c.joins.map fun j => { j with id := ρ j.id }
    filters := c.filters.map fun f => { f with id := ρ f.id }
    sorts := c.sorts.map fun s => { s with id := ρ s.id }
    groups := c.groups.map fun g => { g with id := ρ g.id }
    aggregates := c.aggregates.map fun a => { a with id := ρ a.id } }

/-- An edit of a canvas with other ids. -/
def Edit.renamed : Edit → Edit
  | .remove k id => .remove k (id.renamed ρ)
  | e => e

end Renamed

namespace Canvas

open Editing

variable {ρ : Equiv.Perm String} {cat : Catalog} {c : Canvas} {ids ids' : IdSupply} {α : Type}

/-! ## What ids have no part in -/

/-- Ids do not occur in a statement. -/
theorem compile_renamed (ρ : Equiv.Perm String) (dialect : Sql.Dialect) (cat : Catalog) (c : Canvas) :
    Sql.compile dialect cat (c.renamed ρ) = Sql.compile dialect cat c := by
  have hfilters : (c.filters.map fun f => ({ f with id := ρ f.id } : Filter)).mapM (fun f => do
        return (f.connective.getD .and, ← Sql.conditionOf cat f)) =
      c.filters.mapM fun f => do return (f.connective.getD .and, ← Sql.conditionOf cat f) := by
    rw [List.mapM_map]
    rfl
  simp only [Sql.compile, Sql.statement?, renamed, hfilters, List.map_map, Function.comp_def]

/-- Items whose ids keep their names are the same. -/
theorem map_of_fixed {r : α → α} {idOf : α → String} {items : List α} (hr : ∀ a, ρ (idOf a) = idOf a → r a = a)
    (hitems : ∀ id ∈ items.map idOf, ρ id = id) : items.map r = items := by
  have hsame : ∀ a ∈ items, r a = a := fun a ha => hr a (hitems _ (List.mem_map_of_mem ha))
  exact (List.map_congr_left hsame).trans (List.map_id' items)

/-- A canvas whose ids keep their names is the same. -/
theorem renamed_of_fixed (hid : c.id.renamed ρ = c.id) (hparts : ∀ id ∈ c.partIds, ρ id = id) : c.renamed ρ = c := by
  simp only [partIds, List.forall_mem_append] at hparts
  obtain ⟨⟨⟨⟨hjoins, hfilters⟩, hsorts⟩, hgroups⟩, haggregates⟩ := hparts
  unfold renamed
  rw [hid, map_of_fixed (fun a ha => by rw [ha]) hjoins, map_of_fixed (fun a ha => by rw [ha]) hfilters,
    map_of_fixed (fun a ha => by rw [ha]) hsorts, map_of_fixed (fun a ha => by rw [ha]) hgroups,
    map_of_fixed (fun a ha => by rw [ha]) haggregates]

theorem renamed_one (c : Canvas) : c.renamed 1 = c := by
  refine renamed_of_fixed ?_ fun _ _ => rfl
  cases c.id <;> rfl

theorem placedConnective_renamed (asked : Option Connective) :
    (c.renamed ρ).placedConnective asked = c.placedConnective asked := by
  simp [placedConnective, renamed]

/-- The first filter is built again under its id. -/
theorem detachFirst_renamed (fs : List Filter) :
    detachFirst (fs.map fun f => { f with id := ρ f.id }) =
      (detachFirst fs).map (List.map fun f => { f with id := ρ f.id }) := by
  cases fs with
  | nil => rfl
  | cons f fs =>
    simp only [List.map_cons, detachFirst]
    split
    · simp only [Filter.checked, Filter.unconnected]
      cases FilterValue.check f.operator f.value <;> rfl
    · rfl

/-- Under the other id the same item is taken away, or there is none either. -/
theorem withoutId_renamed {idOf : α → String} {r : α → α} (hr : ∀ a, idOf (r a) = ρ (idOf a)) (kind : PartKind)
    (id : Value) (items : List α) :
    withoutId kind idOf (id.renamed ρ) (items.map r) =
      match withoutId kind idOf id items with
      | .ok rest => .ok (rest.map r)
      | .error _ => .error (.noSuchPart kind (id.renamed ρ)) := by
  have hsame : ∀ a, ((id.renamed ρ).text? != some (idOf (r a))) = (id.text? != some (idOf a)) := fun a => by
    cases id <;> simp [Value.renamed, Value.text?, hr, bne]
  have hfilter : (items.map r).filter (fun a => (id.renamed ρ).text? != some (idOf a)) =
      (items.filter fun a => id.text? != some (idOf a)).map r := by
    rw [List.filter_map]
    exact congrArg (List.map r) (List.filter_congr fun a _ => hsame a)
  simp only [withoutId, hfilter, List.length_map]
  split <;> rfl

/-! ## Steps -/

/-- **What an edit leaves of two drafts** that differ in their ids. It takes an id on both sides or on neither;
the canvases still differ in their ids only, if the id that is taken is the other name of the other one. -/
inductive Mirrors (ρ : Equiv.Perm String) (ids ids' : IdSupply) : Draft → Draft → Prop
  | kept (c : Canvas) : Mirrors ρ ids ids' ⟨c, ids⟩ ⟨c.renamed ρ, ids'⟩
  | taken {c c' : Canvas} (h : ρ ids.next.1 = ids'.next.1 → c' = c.renamed ρ) :
      Mirrors ρ ids ids' ⟨c, ids.next.2⟩ ⟨c', ids'.next.2⟩

/-- The drafts that two chains of steps leave. -/
def Mirror (ρ : Equiv.Perm String) (c : Canvas) (ids ids' : IdSupply) (x x' : Editing α) : Prop :=
  Mirrors ρ ids ids' (x.outcome ⟨c, ids⟩).2 (x'.outcome ⟨c.renamed ρ, ids'⟩).2

theorem mirror_check_bind {β : Type} {x : Except EditError α} {f f' : α → Editing β}
    (h : ∀ a, x = .ok a → Mirror ρ c ids ids' (f a) (f' a)) :
    Mirror ρ c ids ids' ((liftM x : Editing α) >>= f) ((liftM x : Editing α) >>= f') := by
  cases x with
  | ok a => exact h a rfl
  | error e => exact .kept c

theorem mirror_current_bind {β : Type} {f f' : Canvas → Editing β}
    (h : Mirror ρ c ids ids' (f c) (f' (c.renamed ρ))) :
    Mirror ρ c ids ids' (current >>= f) (current >>= f') := h

/-- Removing an item under its id. -/
theorem mirror_withoutId_bind {β : Type} {kind : PartKind} {idOf : α → String} {r : α → α}
    (hr : ∀ a, idOf (r a) = ρ (idOf a)) {id : Value} {items : List α} {f f' : List α → Editing β}
    (h : ∀ rest, Mirror ρ c ids ids' (f rest) (f' (rest.map r))) :
    Mirror ρ c ids ids' ((liftM (withoutId kind idOf id items) : Editing (List α)) >>= f)
      ((liftM (withoutId kind idOf (id.renamed ρ) (items.map r)) : Editing (List α)) >>= f') := by
  rw [withoutId_renamed hr]
  cases withoutId kind idOf id items with
  | ok rest => exact h rest
  | error e => exact .kept c

/-- Building the first filter again. -/
theorem mirror_detachFirst_bind {β : Type} {fs : List Filter} {f f' : List Filter → Editing β}
    (h : ∀ gs, Mirror ρ c ids ids' (f gs) (f' (gs.map fun g => { g with id := ρ g.id }))) :
    Mirror ρ c ids ids' ((liftM (detachFirst fs) : Editing (List Filter)) >>= f)
      ((liftM (detachFirst (fs.map fun g => { g with id := ρ g.id })) : Editing (List Filter)) >>= f') := by
  rw [detachFirst_renamed]
  cases detachFirst fs with
  | ok gs => exact h gs
  | error e => exact .kept c

/-! ## Edits -/

theorem mirror_addTable (v : Value) : Mirror ρ c ids ids' (addTable cat v) (addTable cat v) := by
  cases v with
  | text t =>
    by_cases ht : c.tables.contains t = true
    · simp only [Mirror, addTable, outcome_current_bind, renamed, ht, if_true]
      exact .kept c
    · by_cases hcat : cat.contains t = true
      · simp only [Mirror, addTable, outcome_current_bind, renamed, ht, hcat, if_true]
        exact .kept { c with tables := c.tables ++ [t] }
      · simp only [Mirror, addTable, outcome_current_bind, renamed, ht, hcat]
        exact .kept c
  | _ => exact .kept c

/-- The canvas without a table is the other one without it. -/
theorem withoutTable_renamed (t : String) (fs : List Filter) :
    (c.withoutTable t fs).renamed ρ =
      (c.renamed ρ).withoutTable t (fs.map fun f => { f with id := ρ f.id }) := by
  simp [renamed, withoutTable, List.filter_map, Function.comp_def]

theorem mirror_removeTable (v : Value) : Mirror ρ c ids ids' (removeTable v) (removeTable v) := by
  refine mirror_current_bind (mirror_check_bind fun t ht => ?_)
  simp only [Mirror, outcome_alter_bind, outcome_current_bind]
  have hfs : (c.renamed ρ).filters.filter (·.table != t) =
      (c.filters.filter (·.table != t)).map fun f => { f with id := ρ f.id } := by
    simp [renamed, List.filter_map, Function.comp_def]
  rw [hfs, detachFirst_renamed]
  cases detachFirst (c.filters.filter (·.table != t)) with
  | ok fs =>
    simp only [Except.map, outcome_ok_bind, outcome_alter_bind, outcome_pure]
    have := @Mirrors.kept ρ ids ids' (c.withoutTable t fs)
    rw [withoutTable_renamed] at this
    exact this
  | error e =>
    simp only [Except.map, outcome_error_bind]
    have := @Mirrors.kept ρ ids ids' (c.withoutTable t (c.filters.filter (·.table != t)))
    rw [withoutTable_renamed] at this
    exact this

theorem mirror_toggleColumn (v w a : Value) :
    Mirror ρ c ids ids' (toggleColumn cat v w a) (toggleColumn cat v w a) := by
  refine mirror_current_bind (mirror_check_bind fun r _ => mirror_current_bind ?_)
  by_cases hsel : c.columns.any (selects r.1 r.2) = true
  · simp only [Mirror, renamed, hsel, if_true]
    exact .kept { c with columns := c.columns.eraseP (selects r.1 r.2) }
  · simp only [renamed, hsel]
    exact mirror_check_bind fun name _ => .kept { c with columns := c.columns ++ [⟨r.1, r.2, name⟩] }

theorem mirror_setColumnAlias (v w a : Value) :
    Mirror ρ c ids ids' (setColumnAlias cat v w a) (setColumnAlias cat v w a) := by
  refine mirror_current_bind (mirror_check_bind fun r _ => mirror_current_bind ?_)
  by_cases hsel : c.columns.any (selects r.1 r.2) = true
  · simp only [renamed, hsel, if_true]
    exact mirror_check_bind fun name _ =>
      .kept { c with columns := replaceFirst (selects r.1 r.2) ⟨r.1, r.2, name⟩ c.columns }
  · simp only [Mirror, renamed, hsel]
    exact .kept c

theorem mirror_addJoin (lv lw rv rw k : Value) :
    Mirror ρ c ids ids' (addJoin cat lv lw rv rw k) (addJoin cat lv lw rv rw k) := by
  refine mirror_check_bind fun kind _ => mirror_current_bind ?_
  refine mirror_check_bind fun left _ => mirror_current_bind ?_
  refine mirror_check_bind fun right _ => .taken fun hid => ?_
  simpa [renamed, IdSupply.next] using hid.symm

theorem mirror_addFilter (v w op x k : Value) :
    Mirror ρ c ids ids' (addFilter cat v w op x k) (addFilter cat v w op x k) := by
  refine mirror_check_bind fun o _ => mirror_check_bind fun asked _ => mirror_current_bind ?_
  refine mirror_check_bind fun r _ => mirror_check_bind fun operand _ => mirror_current_bind ?_
  simp only [Mirror, placedConnective_renamed, outcome_takeId_bind, Filter.checked]
  cases FilterValue.check o operand with
  | error e => exact .taken fun _ => rfl
  | ok _ =>
    refine .taken fun hid => ?_
    simpa [renamed, IdSupply.next] using hid.symm

theorem mirror_addSort (v w dir : Value) :
    Mirror ρ c ids ids' (addSort cat v w dir) (addSort cat v w dir) := by
  refine mirror_check_bind fun direction _ => mirror_current_bind ?_
  refine mirror_check_bind fun r _ => .taken fun hid => ?_
  simpa [renamed, IdSupply.next] using hid.symm

theorem mirror_addGroup (v w : Value) : Mirror ρ c ids ids' (addGroup cat v w) (addGroup cat v w) := by
  refine mirror_current_bind (mirror_check_bind fun r _ => .taken fun hid => ?_)
  simpa [renamed, IdSupply.next] using hid.symm

theorem mirror_addAggregate (fn v w a : Value) :
    Mirror ρ c ids ids' (addAggregate cat fn v w a) (addAggregate cat fn v w a) := by
  refine mirror_check_bind fun function _ => mirror_current_bind ?_
  refine mirror_check_bind fun r _ => mirror_check_bind fun name _ => .taken fun hid => ?_
  simpa [renamed, IdSupply.next] using hid.symm

theorem mirror_remove (kind : PartKind) (id : Value) :
    Mirror ρ c ids ids' (remove kind id) (remove kind (id.renamed ρ)) := by
  cases kind with
  | join =>
    have hr : ∀ j : Join, ({ j with id := ρ j.id } : Join).id = ρ j.id := fun _ => rfl
    exact mirror_withoutId_bind hr fun rest => .kept { c with joins := rest }
  | filter =>
    have hr : ∀ f : Filter, ({ f with id := ρ f.id } : Filter).id = ρ f.id := fun _ => rfl
    refine mirror_withoutId_bind hr fun rest => ?_
    exact mirror_detachFirst_bind fun fs => .kept { c with filters := fs }
  | sort =>
    have hr : ∀ s : Sorting, ({ s with id := ρ s.id } : Sorting).id = ρ s.id := fun _ => rfl
    exact mirror_withoutId_bind hr fun rest => .kept { c with sorts := rest }
  | group =>
    have hr : ∀ g : Grouping, ({ g with id := ρ g.id } : Grouping).id = ρ g.id := fun _ => rfl
    exact mirror_withoutId_bind hr fun rest => .kept { c with groups := rest }
  | aggregate =>
    have hr : ∀ a : Aggregate, ({ a with id := ρ a.id } : Aggregate).id = ρ a.id := fun _ => rfl
    exact mirror_withoutId_bind hr fun rest => .kept { c with aggregates := rest }

theorem mirror_setLimit (v : Value) : Mirror ρ c ids ids' (setLimit v) (setLimit v) := by
  cases v with
  | null => exact .kept { c with limit := none }
  | int n =>
    by_cases hn : n < 0
    · simp only [setLimit, hn, if_true]
      exact .kept c
    · simp only [setLimit, hn, if_false]
      exact .kept { c with limit := some n }
  | _ => exact .kept c

theorem mirror_rename (v : Value) : Mirror ρ c ids ids' (rename v) (rename v) :=
  mirror_check_bind fun name _ => .kept { c with name := name }

/-- **Every edit** does the same to a canvas with other ids. -/
theorem mirrors_perform (ρ : Equiv.Perm String) (cat : Catalog) (e : Edit) (c : Canvas) (ids ids' : IdSupply) :
    Mirrors ρ ids ids' (perform cat e ⟨c, ids⟩).2 (perform cat (e.renamed ρ) ⟨c.renamed ρ, ids'⟩).2 := by
  cases e with
  | addTable v => exact mirror_addTable v
  | removeTable v => exact mirror_removeTable v
  | toggleColumn v w a => exact mirror_toggleColumn v w a
  | setColumnAlias v w a => exact mirror_setColumnAlias v w a
  | addJoin lv lw rv rw k => exact mirror_addJoin lv lw rv rw k
  | addFilter v w op x k => exact mirror_addFilter v w op x k
  | addSort v w dir => exact mirror_addSort v w dir
  | addGroup v w => exact mirror_addGroup v w
  | addAggregate fn v w a => exact mirror_addAggregate fn v w a
  | remove kind v => exact mirror_remove kind v
  | setLimit v => exact mirror_setLimit v
  | rename v => exact mirror_rename v

end Canvas

end QueryCanvas
