import QueryCanvas.Part.Basic
import QueryCanvas.Proofs.Outcome

/-!
# What an operator makes of a loose operand

`Shapes o v u` lists the ways in which the operator `o` makes the operand `u` of the loose value `v`:
nothing of nothing, a list of the items of a list, two bounds of a record, one value of itself, and bounds
that come ready made as they come. `ofRaw_eq_ok` says that there is no other way; whatever else is known of
`FilterValue.ofRaw` follows by cases.

* `shape_ofRaw`: what an operator makes has the shape that the operator requires.
* `check_eq_ok_iff`: an operand passes the check exactly if its loose form is read back as it.
* `failsOnly_check`: what does not pass is refused as invalid.
-/

namespace QueryCanvas

variable {o : FilterOperator} {v w : Value} {vs ws : List Value} {u : FilterValue}

/-- The shape that an operator requires of its operand. -/
def FilterOperator.shape : FilterOperator → FilterShape
  | .isNull | .isNotNull => .none
  | .isIn => .list
  | .between => .range
  | _ => .scalar

namespace FilterOperator

theorem shape_eq_none : o.shape = .none ↔ o = .isNull ∨ o = .isNotNull := by
  cases o <;> simp [shape]

theorem shape_eq_list : o.shape = .list ↔ o = .isIn := by
  cases o <;> simp [shape]

theorem shape_eq_range : o.shape = .range ↔ o = .between := by
  cases o <;> simp [shape]

theorem shape_eq_scalar :
    o.shape = .scalar ↔ o = .equals ∨ o = .notEquals ∨ o = .greaterThan ∨ o = .lessThan ∨ o = .like := by
  cases o <;> simp [shape]

end FilterOperator

/-- Whether a value is a single one: neither missing nor a list, a record or a set. -/
def Value.isSingle : Value → Bool
  | .null | .list _ | .tuple _ | .record _ | .unordered _ => false
  | _ => true

/-- A refusal that is reported as an invalid edit. -/
def EditError.IsInvalid (e : EditError) : Prop :=
  e.kind = .validation

namespace FilterValue

/-- A single operand is taken as it is, and nothing else is taken for one. -/
theorem checkScalar_eq_ok : checkScalar o v = .ok w ↔ v.isSingle = true ∧ w = v := by
  cases v <;> simp [checkScalar, Value.isSingle, eq_comm]

/-- Operands of a list are taken as they are if each is a single one. -/
theorem mapM_checkScalar_eq_ok :
    vs.mapM (checkScalar o) = .ok ws ↔ (∀ v ∈ vs, v.isSingle = true) ∧ ws = vs := by
  have hgiven : (∃ ws, vs.mapM (checkScalar o) = .ok ws) ↔ ∀ v ∈ vs, v.isSingle = true := by
    simp [exists_mapM_eq_ok, checkScalar_eq_ok]
  have hself : ∀ {ws}, vs.mapM (checkScalar o) = .ok ws → ws = vs := mapM_self fun h => (checkScalar_eq_ok.1 h).2
  constructor
  · intro h
    exact ⟨hgiven.1 ⟨ws, h⟩, hself h⟩
  · rintro ⟨hall, rfl⟩
    obtain ⟨ws', h⟩ := hgiven.2 hall
    rw [h, hself h]

/-- The ways in which an operator makes an operand of a loose value. -/
inductive Shapes : FilterOperator → Value → FilterValue → Prop
  | nothing {o : FilterOperator} {v : Value} (ho : o.shape = .none) (hv : isAbsent v = true) : Shapes o v .none
  | items {v : Value} (hne : items v ≠ []) (hvs : ∀ w ∈ items v, w.isSingle = true) :
    Shapes .isIn v (.list (items v))
  | ready (lo hi : Value) : Shapes .between (.range lo hi) (.range lo hi)
  | bounds {fs : List (String × Value)} {lo hi : Value} (hlo : Value.field? fs "min" = some lo)
    (hhi : Value.field? fs "max" = some hi) (hlo' : lo.isSingle = true) (hhi' : hi.isSingle = true) :
    Shapes .between (.record fs) (.range lo hi)
  | one {o : FilterOperator} {v : Value} (ho : o.shape = .scalar) (hv : v.isSingle = true) : Shapes o v (.scalar v)

/-- What an operator makes of a loose value, in one of these ways. -/
theorem Shapes.of_ofRaw (h : ofRaw o v = .ok u) : Shapes o v u := by
  cases o with
  | isNull | isNotNull =>
    simp only [ofRaw] at h
    split at h
    · cases h
      exact .nothing rfl ‹_›
    · cases h
  | isIn =>
    simp only [ofRaw, List.isEmpty_iff] at h
    split at h
    · cases h
    · obtain ⟨ws, hws, h⟩ := bind_eq_ok.1 h
      obtain ⟨hall, rfl⟩ := mapM_checkScalar_eq_ok.1 hws
      cases h
      exact .items ‹_› hall
  | between =>
    simp only [ofRaw] at h
    split at h
    · cases h
      exact .ready _ _
    · split at h
      · rename_i lo hi hlo hhi
        obtain ⟨lo', hlo', hrest⟩ := bind_eq_ok.1 h
        obtain ⟨hi', hhi', hu⟩ := bind_eq_ok.1 hrest
        obtain ⟨hlo', rfl⟩ := checkScalar_eq_ok.1 hlo'
        obtain ⟨hhi', rfl⟩ := checkScalar_eq_ok.1 hhi'
        cases hu
        exact .bounds hlo hhi hlo' hhi'
      · cases h
    · cases h
  | equals | notEquals | greaterThan | lessThan | like =>
    obtain ⟨w, hw, hu⟩ := bind_eq_ok.1 h
    obtain ⟨hv, rfl⟩ := checkScalar_eq_ok.1 hw
    cases hu
    exact .one rfl hv

/-- **Shaping an operand** succeeds in these ways and in no other. -/
theorem ofRaw_eq_ok : ofRaw o v = .ok u ↔ Shapes o v u := by
  refine ⟨Shapes.of_ofRaw, fun h => ?_⟩
  cases h with
  | nothing ho hv =>
    rcases FilterOperator.shape_eq_none.1 ho with rfl | rfl <;> simp [ofRaw, hv]
  | items hne hvs =>
    have hmap := mapM_checkScalar_eq_ok (o := .isIn).2 ⟨hvs, rfl⟩
    simp [ofRaw, hne, hmap]
  | ready lo hi => rfl
  | bounds hlo hhi hlo' hhi' =>
    simp [ofRaw, hlo, hhi, checkScalar_eq_ok.2 ⟨hlo', rfl⟩, checkScalar_eq_ok.2 ⟨hhi', rfl⟩]
  | one ho hv =>
    have hscalar := checkScalar_eq_ok (o := o).2 ⟨hv, rfl⟩
    rcases FilterOperator.shape_eq_scalar.1 ho with rfl | rfl | rfl | rfl | rfl <;> simp [ofRaw, hscalar]

/-- **The shape of an operand.** What an operator makes of a loose value has the shape that the
operator requires. -/
theorem shape_ofRaw (h : ofRaw o v = .ok u) : u.shape = o.shape := by
  cases ofRaw_eq_ok.1 h with
  | nothing ho _ | one ho _ => exact ho.symm
  | items | ready | bounds => rfl

/-! ## The check of an operand -/

/-- An operand passes the check exactly when its loose form is shaped into its own shape. -/
theorem check_eq_ok : check o u = .ok () ↔ ∃ w, ofRaw o u.toRaw = .ok w ∧ w.shape = u.shape := by
  simp only [check, bind_eq_ok]
  refine exists_congr fun w => and_congr_right fun _ => ?_
  by_cases h : w.shape = u.shape <;> simp [h]

/-- What is made of the loose form of an operand is the operand itself, if it has its shape. -/
theorem Shapes.eq_of_shape {w : FilterValue} (h : Shapes o u.toRaw w) (hshape : w.shape = u.shape) : w = u := by
  cases u with
  | none => cases w <;> simp [shape] at hshape ⊢
  | scalar v =>
    cases h with
    | nothing | items | ready | bounds => simp [shape] at hshape
    | one => rfl
  | list vs =>
    cases h with
    | nothing => simp [shape] at hshape
    | items => rfl
    | one ho hv => cases hv
  | range lo hi =>
    cases h with
    | nothing => simp [shape] at hshape
    | one ho hv => cases hv
    | items => simp [shape] at hshape
    | bounds hlo hhi =>
      cases hlo
      cases hhi
      rfl

/-- **Reading back.** An operand passes the check exactly if its loose form is shaped into it again. -/
theorem check_eq_ok_iff : check o u = .ok () ↔ ofRaw o u.toRaw = .ok u := by
  rw [check_eq_ok]
  constructor
  · rintro ⟨w, hw, hshape⟩
    rwa [(ofRaw_eq_ok.1 hw).eq_of_shape hshape] at hw
  · exact fun h => ⟨u, h, rfl⟩

theorem ofRaw_toRaw (h : check o u = .ok ()) : ofRaw o u.toRaw = .ok u :=
  check_eq_ok_iff.1 h

/-! ## Refusals -/

theorem failsOnly_checkScalar : FailsOnly EditError.IsInvalid (checkScalar o v) := by
  cases v with
  | null | list | tuple | record | unordered => exact failsOnly_error rfl
  | _ => exact failsOnly_ok _

theorem failsOnly_ofRaw : FailsOnly EditError.IsInvalid (ofRaw o v) := by
  cases o with
  | isNull | isNotNull =>
    simp only [ofRaw]
    split
    · exact failsOnly_ok _
    · exact failsOnly_error rfl
  | isIn =>
    simp only [ofRaw]
    split
    · exact failsOnly_error rfl
    · exact failsOnly_bind (failsOnly_mapM fun _ _ => failsOnly_checkScalar) fun vs => failsOnly_ok _
  | between =>
    simp only [ofRaw]
    split
    · exact failsOnly_ok _
    · split
      · exact failsOnly_bind failsOnly_checkScalar fun lo =>
          failsOnly_bind failsOnly_checkScalar fun hi => failsOnly_ok _
      · exact failsOnly_error rfl
    · exact failsOnly_error rfl
  | _ => exact failsOnly_bind failsOnly_checkScalar fun w => failsOnly_ok _

/-- **A refused operand** is refused as invalid. -/
theorem failsOnly_check : FailsOnly EditError.IsInvalid (check o u) := by
  refine failsOnly_bind failsOnly_ofRaw fun w => ?_
  simp only []
  split
  · exact failsOnly_error rfl
  · exact failsOnly_ok ()

end FilterValue

/-- A filter passes its last check unchanged, and then its operand reads back. -/
theorem Filter.checked_eq_ok {f g : Filter} :
    f.checked = .ok g ↔ FilterValue.check f.operator f.value = .ok () ∧ g = f := by
  simp only [Filter.checked, bind_eq_ok, pure_eq_ok, Except.ok.injEq]
  exact ⟨fun ⟨_, h, hg⟩ => ⟨h, hg.symm⟩, fun ⟨h, hg⟩ => ⟨(), h, hg.symm⟩⟩

end QueryCanvas
