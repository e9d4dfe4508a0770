import QueryCanvas.Proofs.Part.FilterValue

/-!
# Which operands are admitted

An operator admits operands of one form only (`FilterOperator.Admits`): a null check nothing, `in` a list
with at least one value, `between` two bounds, and every other operator one value. The values have to be
single ones, neither missing nor a container, and may be of any kind otherwise.

* `check_iff_admits`, `build_iff_admits`: a filter can be built with exactly these operands, and is refused
  as invalid with any other.
* `ofRaw_normal`: what an operator makes of a loose value is admitted and reads back as itself. Only bounds
  that come ready made are taken unseen; a bound among them that is not a single value shows when a filter
  is built.
-/

namespace QueryCanvas

/-- **The operands that an operator admits.** -/
def FilterOperator.Admits (o : FilterOperator) : FilterValue → Prop
  | .none => o.isNullCheck = true
  | .list vs => o = .isIn ∧ vs ≠ [] ∧ ∀ v ∈ vs, v.isSingle = true
  | .range lo hi => o = .between ∧ lo.isSingle = true ∧ hi.isSingle = true
  | .scalar v => o.isNullCheck = false ∧ o ≠ .isIn ∧ o ≠ .between ∧ v.isSingle = true

variable {o : FilterOperator} {v : Value} {u : FilterValue} {ids : IdSupply} {table column : String}
  {connective : Option Connective}

namespace FilterOperator

theorem shape_eq_none_iff : o.shape = .none ↔ o.isNullCheck = true := by
  cases o <;> decide

theorem shape_eq_scalar_iff : o.shape = .scalar ↔ o.isNullCheck = false ∧ o ≠ .isIn ∧ o ≠ .between := by
  cases o <;> decide

end FilterOperator

namespace FilterValue

/-- The loose form of an operand is read back as the operand exactly if the operator admits it. -/
theorem shapes_toRaw_iff_admits : Shapes o u.toRaw u ↔ o.Admits u := by
  cases u with
  | none =>
    rw [FilterOperator.Admits, ← FilterOperator.shape_eq_none_iff]
    exact ⟨fun h => by cases h with | nothing ho _ => exact ho, fun ho => .nothing ho rfl⟩
  | list vs =>
    constructor
    · intro h
      cases h with
      | items hne hvs => exact ⟨rfl, hne, hvs⟩
    · rintro ⟨rfl, hne, hvs⟩
      exact .items (v := .list vs) hne hvs
  | range lo hi =>
    constructor
    · intro h
      cases h with
      | bounds hlo hhi hlo' hhi' =>
        cases hlo
        cases hhi
        exact ⟨rfl, hlo', hhi'⟩
    · rintro ⟨rfl, hlo, hhi⟩
      exact .bounds rfl rfl hlo hhi
  | scalar v =>
    rw [FilterOperator.Admits, ← and_assoc, ← and_assoc, and_assoc (b := o ≠ .isIn),
      ← FilterOperator.shape_eq_scalar_iff]
    exact ⟨fun h => by cases h with | one ho hv => exact ⟨ho, hv⟩, fun ⟨ho, hv⟩ => .one ho hv⟩

/-- **The check of an operand** accepts what the operator admits. -/
theorem check_iff_admits : check o u = .ok () ↔ o.Admits u := by
  rw [check_eq_ok_iff, ofRaw_eq_ok, shapes_toRaw_iff_admits]

end FilterValue

/-! ## Building a filter -/

/-- A filter is built with the fields that are given and the next id, if its operand passes the check. -/
theorem Filter.build_eq_ok {built : Filter × IdSupply} :
    Filter.build ids table column o u connective = .ok built ↔
      FilterValue.check o u = .ok () ∧
        built = (⟨ids.next.1, table, column, o, u, connective⟩, ids.next.2) := by
  simp only [Filter.build, bind_eq_ok, Filter.checked_eq_ok, pure_eq_ok, Except.ok.injEq]
  exact ⟨fun ⟨_, ⟨hu, rfl⟩, hbuilt⟩ => ⟨hu, hbuilt.symm⟩, fun ⟨hu, hbuilt⟩ => ⟨_, ⟨hu, rfl⟩, hbuilt.symm⟩⟩

theorem Filter.failsOnly_build : FailsOnly EditError.IsInvalid (Filter.build ids table column o u connective) :=
  failsOnly_bind (failsOnly_bind FilterValue.failsOnly_check fun _ => failsOnly_ok _) fun _ => failsOnly_ok _

/-- An operand that is not admitted is refused as invalid. -/
theorem Filter.build_refused (h : ¬o.Admits u) :
    ∃ e, Filter.build ids table column o u connective = .error e ∧ e.kind = .validation := by
  have hnone : ¬∃ built, Filter.build ids table column o u connective = .ok built := by
    rintro ⟨built, hbuilt⟩
    exact h (FilterValue.check_iff_admits.1 (Filter.build_eq_ok.1 hbuilt).1)
  obtain ⟨e, he⟩ := exists_error_iff.2 hnone
  exact ⟨e, he, Filter.failsOnly_build e he⟩

/-- **Building a filter** succeeds exactly with the operands that its operator admits, whatever they hold, and
then gives the filter of the given fields; with any other operand it is refused as invalid. -/
theorem Filter.build_iff_admits (ids : IdSupply) (table column : String) (o : FilterOperator) (u : FilterValue)
    (connective : Option Connective) :
    (∀ built, Filter.build ids table column o u connective = .ok built ↔
      o.Admits u ∧ built = (⟨ids.next.1, table, column, o, u, connective⟩, ids.next.2)) ∧
    (¬o.Admits u → ∃ e, Filter.build ids table column o u connective = .error e ∧ e.kind = .validation) := by
  refine ⟨fun built => ?_, Filter.build_refused⟩
  rw [Filter.build_eq_ok, FilterValue.check_iff_admits]

/-- A range is no scalar although its bounds are, and a list of nothing is none for a null check either. -/
example : ¬FilterOperator.equals.Admits (.range (.int 1) (.int 2)) ∧ ¬FilterOperator.isNull.Admits (.list []) := by
  simp [FilterOperator.Admits]

/-! ## Normal forms -/

namespace FilterValue

/-- Bounds that come ready made, one of which is not a single value. -/
def IsUncheckedRange (o : FilterOperator) (v : Value) : Prop :=
  o = .between ∧ ∃ lo hi, v = .range lo hi ∧ ¬(lo.isSingle = true ∧ hi.isSingle = true)

/-- What an operator makes of a loose value is admitted, but for ready-made bounds that are not single. -/
theorem Shapes.admits_iff (h : Shapes o v u) : o.Admits u ↔ ¬IsUncheckedRange o v := by
  cases h with
  | nothing ho hv =>
    refine iff_of_true (FilterOperator.shape_eq_none_iff.1 ho) ?_
    rintro ⟨rfl, -⟩
    cases ho
  | items hne hvs =>
    refine iff_of_true ⟨rfl, hne, hvs⟩ ?_
    rintro ⟨⟨⟩, -⟩
  | ready lo hi => simp [FilterOperator.Admits, IsUncheckedRange]
  | bounds hlo hhi hlo' hhi' =>
    refine iff_of_true ⟨rfl, hlo', hhi'⟩ ?_
    rintro ⟨-, lo, hi, ⟨⟩, -⟩
  | one ho hv =>
    obtain ⟨hnull, hin, hbetween⟩ := FilterOperator.shape_eq_scalar_iff.1 ho
    exact iff_of_true ⟨hnull, hin, hbetween, hv⟩ fun hrange => hbetween hrange.1

/-- **Normal forms.** What an operator makes of a loose value can be built into a filter and is read back as
itself, unless it is bounds that came ready made and are not single values. Those are handed on as they came,
and then refused as invalid, by the filter and in their loose form. -/
theorem ofRaw_normal (h : ofRaw o v = .ok u) (ids : IdSupply) (table column : String)
    (connective : Option Connective) :
    (¬IsUncheckedRange o v → ofRaw o u.toRaw = .ok u ∧
      ∃ built, Filter.build ids table column o u connective = .ok built) ∧
    (IsUncheckedRange o v → (∃ lo hi, v = .range lo hi ∧ u = .range lo hi) ∧
      (∃ e, ofRaw o u.toRaw = .error e ∧ e.kind = .validation) ∧
      ∃ e, Filter.build ids table column o u connective = .error e ∧ e.kind = .validation) := by
  have hshapes := ofRaw_eq_ok.1 h
  constructor
  · intro hchecked
    have hcheck := check_iff_admits.2 (hshapes.admits_iff.2 hchecked)
    exact ⟨check_eq_ok_iff.1 hcheck, _, Filter.build_eq_ok.2 ⟨hcheck, rfl⟩⟩
  · intro hrange
    have hadmits : ¬o.Admits u := fun hadmits => hshapes.admits_iff.1 hadmits hrange
    obtain ⟨rfl, lo, hi, rfl, -⟩ := hrange
    cases h
    refine ⟨⟨lo, hi, rfl, rfl⟩, ?_, Filter.build_refused hadmits⟩
    have hnone : ¬∃ w, ofRaw .between (FilterValue.range lo hi).toRaw = .ok w := by
      rintro ⟨w, hw⟩
      exact hadmits (check_iff_admits.1 (check_eq_ok.2 ⟨w, hw, shape_ofRaw hw⟩))
    obtain ⟨e, he⟩ := exists_error_iff.2 hnone
    exact ⟨e, he, failsOnly_ofRaw e he⟩

/-- Bounds of a record with a further field, in another order, come to their normal form. -/
theorem normal_saved_bounds :
    let saved : Value := .record [("max", .decimal (.finite false 95 (-1))), ("unit", .null), ("min", .text "a")]
    ∃ u, ofRaw .between saved = .ok u ∧ ¬IsUncheckedRange .between saved ∧ ofRaw .between u.toRaw = .ok u ∧
      ∃ built, Filter.build .fresh "orders" "total" .between u (some .or) = .ok built := by
  have hread : ofRaw .between
      (.record [("max", .decimal (.finite false 95 (-1))), ("unit", .null), ("min", .text "a")]) =
        .ok (.range (.text "a") (.decimal (.finite false 95 (-1)))) := rfl
  have hchecked : ¬IsUncheckedRange .between
      (.record [("max", .decimal (.finite false 95 (-1))), ("unit", .null), ("min", .text "a")]) := by
    rintro ⟨-, lo, hi, ⟨⟩, -⟩
  obtain ⟨hback, hbuilt⟩ := (ofRaw_normal hread .fresh "orders" "total" (some .or)).1 hchecked
  exact ⟨_, hread, hchecked, hback, hbuilt⟩

/-- **Ready-made bounds are taken unseen**: one of these is missing, and neither a filter nor the loose form of
the bounds is accepted. -/
theorem ready_bounds_refused :
    ofRaw .between (.range .null (.int 5)) = .ok (.range .null (.int 5)) ∧
      (¬∃ built, Filter.build .fresh "orders" "total" .between (.range .null (.int 5)) Option.none = .ok built) ∧
      ofRaw .between (FilterValue.range .null (.int 5)).toRaw ≠ .ok (.range .null (.int 5)) := by
  refine ⟨rfl, ?_, ?_⟩
  · rintro ⟨built, ⟨⟩⟩
  · rintro ⟨⟩

end FilterValue

end QueryCanvas
