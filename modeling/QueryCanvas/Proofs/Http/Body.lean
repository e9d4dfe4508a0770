import QueryCanvas.Canvas.Snapshot
import QueryCanvas.Http.Body
import QueryCanvas.Proofs.Outcome

/-!
# What the checks of a body accept

The checks of a body say exactly which fields pass, next to the edit that has the values of these fields as
its arguments, whatever they are (`BodyKind.direct?`).

* `BodyKind.Admits`: the edits whose arguments have the form that a kind of body requires.
* `BodyKind.command_eq_edit`: but for a limit, a body is accepted exactly if the edit with its values is
  admitted, and then asks for that edit.
* `BodyKind.limit_eq_edit`: a limit is read as a whole number first.
-/

namespace QueryCanvas.Http

open Canvas

/-! ## Checked inputs -/

section Checked

variable {α β : Type}

theorem map_eq_ok {f : α → β} {x : Checked α} {b : β} : f <$> x = .ok b ↔ ∃ a, x = .ok a ∧ f a = b := by
  cases x <;> simp [Functor.map, Checked.map, Checked.ap]

theorem seq_eq_ok {f : Checked (α → β)} {x : Checked α} {b : β} :
    f <*> x = .ok b ↔ ∃ g a, f = .ok g ∧ x = .ok a ∧ g a = b := by
  cases f <;> cases x <;> simp [Seq.seq, Checked.ap]

end Checked

/-! ## Fields -/

section Fields

variable {α : Type} {fs : BodyFields} {name : String} {names : List String} {v : Value}

theorem required_eq_ok {read : Value → Except IssueKind α} {a : α} :
    required fs name read = .ok a ↔ ∃ v, Value.field? fs name = some v ∧ read v = .ok a := by
  unfold required
  cases Value.field? fs name with
  | none => simp
  | some v => cases hv : read v <;> simp [hv]

theorem defaulted_eq_ok {default a : α} {read : Value → Except IssueKind α} :
    defaulted fs name default read = .ok a ↔
      (Value.field? fs name = none ∧ default = a) ∨ ∃ v, Value.field? fs name = some v ∧ read v = .ok a := by
  unfold defaulted
  cases hv : Value.field? fs name with
  | none => simp
  | some v => simp [required_eq_ok, hv]

theorem readText_eq_ok {w : Value} : readText v = .ok w ↔ v = w ∧ v.isText = true := by
  unfold readText
  split <;> simp_all

theorem readOneOf_eq_ok {s : String} : readOneOf names v = .ok s ↔ v = .text s ∧ s ∈ names := by
  cases v with
  | text t =>
    by_cases ht : t ∈ names
    · simp only [readOneOf, List.contains_iff_mem, ht, if_true, Except.ok.injEq, Value.text.injEq]
      exact ⟨fun h => ⟨h, h ▸ ht⟩, fun h => h.1⟩
    · simp only [readOneOf, List.contains_iff_mem, ht, if_false, reduceCtorEq, Value.text.injEq, false_iff,
        not_and]
      rintro rfl
      exact ht
  | _ => simp [readOneOf]

theorem orNull_eq_ok {read : Value → Except IssueKind α} {a : Option α} :
    orNull read v = .ok a ↔ (v = .null ∧ a = none) ∨ (v ≠ .null ∧ ∃ x, read v = .ok x ∧ a = some x) := by
  cases v with
  | null => simp [orNull, eq_comm]
  | _ =>
    simp only [orNull, reduceCtorEq, false_and, false_or, ne_eq, not_false_eq_true, true_and]
    cases read _ <;> simp [Except.map, eq_comm]

/-- **A text field** passes exactly if it is there and a text. -/
theorem textField_eq_ok : textField fs name = .ok v ↔ Value.field? fs name = some v ∧ v.isText = true := by
  simp only [textField, required_eq_ok, readText_eq_ok]
  constructor
  · rintro ⟨w, hw, rfl, htext⟩
    exact ⟨hw, htext⟩
  · rintro ⟨hv, htext⟩
    exact ⟨v, hv, rfl, htext⟩

/-- A text, or nothing. -/
def IsOptionalText (v : Value) : Prop :=
  v = .null ∨ v.isText = true

/-- The value of a field that may be absent. -/
theorem fieldOr_of_some {default : Value} (h : Value.field? fs name = some v) :
    Value.fieldOr fs name default = v := by
  rw [Value.fieldOr, h, Option.getD_some]

theorem fieldOr_of_none {default : Value} (h : Value.field? fs name = none) :
    Value.fieldOr fs name default = default := by
  rw [Value.fieldOr, h, Option.getD_none]

/-- **A text field that may be absent** passes exactly if it is absent, null or a text. -/
theorem optionalTextField_eq_ok : optionalTextField fs name = .ok v ↔
    Value.fieldOr fs name .null = v ∧ IsOptionalText v := by
  simp only [optionalTextField, map_eq_ok, defaulted_eq_ok, orNull_eq_ok, readText_eq_ok]
  constructor
  · rintro ⟨o, ⟨hnone, rfl⟩ | ⟨w, hw, ⟨rfl, rfl⟩ | ⟨-, x, ⟨rfl, htext⟩, rfl⟩⟩, rfl⟩
    · exact ⟨fieldOr_of_none hnone, .inl rfl⟩
    · exact ⟨fieldOr_of_some hw, .inl rfl⟩
    · exact ⟨fieldOr_of_some hw, .inr htext⟩
  · rintro ⟨hfield, hv⟩
    cases hw : Value.field? fs name with
    | none =>
      rw [fieldOr_of_none hw] at hfield
      exact ⟨none, .inl ⟨rfl, rfl⟩, hfield⟩
    | some w =>
      obtain rfl : w = v := (fieldOr_of_some hw).symm.trans hfield
      by_cases hnull : w = .null
      · exact ⟨none, .inr ⟨_, rfl, .inl ⟨hnull, rfl⟩⟩, hnull.symm⟩
      · exact ⟨some w, .inr ⟨_, rfl, .inr ⟨hnull, w, ⟨rfl, hv.resolve_left hnull⟩, rfl⟩⟩, rfl⟩

/-- **A choice with a default** passes exactly if it is absent or the name of a member. -/
theorem choice_eq_ok {default s : String} (hdefault : default ∈ names) :
    defaulted fs name default (readOneOf names) = .ok s ↔
      Value.fieldOr fs name (.text default) = .text s ∧ s ∈ names := by
  simp only [defaulted_eq_ok, readOneOf_eq_ok]
  cases hw : Value.field? fs name with
  | none =>
    rw [fieldOr_of_none hw]
    simp only [true_and, reduceCtorEq, false_and, exists_const, or_false, Value.text.injEq]
    exact ⟨fun h => ⟨h, h ▸ hdefault⟩, fun h => h.1⟩
  | some w =>
    rw [fieldOr_of_some hw]
    simp

/-- **A choice that may be null** passes exactly if it is absent, null or the name of a member. -/
theorem optionalChoice_eq_ok {o : Option String} :
    defaulted fs name none (orNull (readOneOf names)) = .ok o ↔
      Value.fieldOr fs name .null = (o.map Value.text).getD .null ∧ ∀ s, o = some s → s ∈ names := by
  simp only [defaulted_eq_ok, orNull_eq_ok, readOneOf_eq_ok]
  cases hw : Value.field? fs name with
  | none =>
    rw [fieldOr_of_none hw]
    cases o <;> simp
  | some w =>
    rw [fieldOr_of_some hw]
    cases o <;> simp +contextual [eq_comm]

end Fields

/-! ## Requests -/

/-- The edit that has the fields of a body as its arguments, as they are: none if a field that has to be there
is missing, or if the body asks for no edit. -/
def BodyKind.direct? (k : BodyKind) (fs : BodyFields) : Option Edit :=
  match k with
  | .reset => none
  | .rename => (Value.field? fs "name").map .rename
  | .table => (Value.field? fs "table").map .addTable
  | .column => (columnEdit (.record fs)).toOption
  | .join => (joinEdit (.record fs)).toOption
  | .filter => (filterEdit (.record fs)).toOption
  | .sort => (sortEdit (.record fs)).toOption
  | .group => (groupEdit (.record fs)).toOption
  | .aggregate => (aggregateEdit (.record fs)).toOption
  | .limit => some (.setLimit (Value.fieldOr fs "limit" .null))

/-- **The edits that a kind of body admits**, by the form of their arguments. -/
inductive BodyKind.Admits : BodyKind → Edit → Prop
  | rename {s : String} (hs : s ≠ "") : Admits .rename (.rename (.text s))
  | table {t : Value} (ht : t.isText = true) : Admits .table (.addTable t)
  | column {t col a : Value} (ht : t.isText = true) (hcol : col.isText = true) (ha : IsOptionalText a) :
      Admits .column (.toggleColumn t col a)
  | join {lt lc rt rc : Value} {k : String} (hlt : lt.isText = true) (hlc : lc.isText = true)
      (hrt : rt.isText = true) (hrc : rc.isText = true) (hk : k ∈ JoinKind.all.map JoinKind.name) :
      Admits .join (.addJoin lt lc rt rc (.text k))
  | filter {t col o v : Value} {k : Option String} (ht : t.isText = true) (hcol : col.isText = true)
      (ho : o.isText = true) (hk : ∀ s, k = some s → s ∈ Connective.all.map Connective.name) :
      Admits .filter (.addFilter t col o v ((k.map Value.text).getD .null))
  | sort {t col : Value} {d : String} (ht : t.isText = true) (hcol : col.isText = true)
      (hd : d ∈ Direction.all.map Direction.name) : Admits .sort (.addSort t col (.text d))
  | group {t col : Value} (ht : t.isText = true) (hcol : col.isText = true) : Admits .group (.addGroup t col)
  | aggregate {f : String} {t col a : Value} (hf : f ∈ Aggregation.all.map Aggregation.name)
      (ht : t.isText = true) (hcol : col.isText = true) (ha : IsOptionalText a) :
      Admits .aggregate (.addAggregate (.text f) t col a)

section Requests

variable {fs : BodyFields} {k : BodyKind} {e : Edit}

theorem toOption_eq_some {α : Type} {x : Except EditError α} {a : α} : x.toOption = some a ↔ x = .ok a := by
  cases x <;> simp

theorem require_eq_ok {name : String} {v : Value} :
    require fs name = .ok v ↔ Value.field? fs name = some v := by
  unfold require
  cases Value.field? fs name <;> simp

theorem readFilledText_eq_ok {v : Value} {s : String} : readFilledText v = .ok s ↔ v = .text s ∧ s ≠ "" := by
  cases v with
  | text t =>
    by_cases ht : t = ""
    · subst ht
      simp [readFilledText, eq_comm]
    · simp only [readFilledText, if_neg ht, Except.ok.injEq, Value.text.injEq]
      exact ⟨fun h => ⟨h, h ▸ ht⟩, fun h => h.1⟩
  | _ => simp [readFilledText]

/-- **What a body asks for**, but for a limit: it is accepted exactly if the edit with its values is admitted. -/
theorem BodyKind.command_eq_edit (hk : k ≠ .limit) :
    k.command fs = .ok (.edit e) ↔ k.direct? fs = some e ∧ k.Admits e := by
  have hinner : JoinKind.inner.name ∈ JoinKind.all.map JoinKind.name := by decide
  have hasc : Direction.asc.name ∈ Direction.all.map Direction.name := by decide
  cases k with
  | limit => exact absurd rfl hk
  | reset => simp [command, direct?, map_eq_ok]
  | rename =>
    simp only [command, direct?, map_eq_ok, required_eq_ok, readFilledText_eq_ok, Option.map_eq_some_iff]
    constructor
    · rintro ⟨s, ⟨v, hv, rfl, hs⟩, h⟩
      cases h
      exact ⟨⟨_, hv, rfl⟩, .rename hs⟩
    · rintro ⟨⟨v, hv, rfl⟩, h⟩
      cases h with
      | rename hs => exact ⟨_, ⟨_, hv, rfl, hs⟩, rfl⟩
  | table =>
    simp only [command, direct?, map_eq_ok, textField_eq_ok, Option.map_eq_some_iff]
    constructor
    · rintro ⟨t, ⟨ht, htext⟩, h⟩
      cases h
      exact ⟨⟨_, ht, rfl⟩, .table htext⟩
    · rintro ⟨⟨t, ht, rfl⟩, h⟩
      cases h with
      | table htext => exact ⟨_, ⟨ht, htext⟩, rfl⟩
  | column =>
    simp only [command, direct?, columnEdit, fieldsOf, toOption_eq_some, map_eq_ok, seq_eq_ok, textField_eq_ok,
      optionalTextField_eq_ok, bind_eq_ok, require_eq_ok, pure_eq_ok, ok_bind, Except.ok.injEq]
    constructor
    · rintro ⟨_, _, ⟨_, _, ⟨t, ⟨ht, htext⟩, rfl⟩, ⟨hcol, hctext⟩, rfl⟩, ⟨rfl, ha⟩, h⟩
      cases h
      exact ⟨⟨_, ht, _, hcol, rfl⟩, .column htext hctext ha⟩
    · rintro ⟨⟨_, ht, _, hcol, rfl⟩, h⟩
      cases h with
      | column htext hctext ha =>
        exact ⟨_, _, ⟨_, _, ⟨_, ⟨ht, htext⟩, rfl⟩, ⟨hcol, hctext⟩, rfl⟩, ⟨rfl, ha⟩, rfl⟩
  | join =>
    simp only [command, direct?, joinEdit, fieldsOf, toOption_eq_some, map_eq_ok, seq_eq_ok, textField_eq_ok,
      choice_eq_ok hinner, bind_eq_ok, require_eq_ok, pure_eq_ok, ok_bind, Except.ok.injEq]
    constructor
    · rintro ⟨_, _, ⟨_, _, ⟨_, _, ⟨_, _, ⟨_, ⟨hlt, hltext⟩, rfl⟩, ⟨hlc, hlctext⟩, rfl⟩, ⟨hrt, hrtext⟩, rfl⟩,
        ⟨hrc, hrctext⟩, rfl⟩, ⟨hk, hmem⟩, h⟩
      cases h
      exact ⟨⟨_, hlt, _, hlc, _, hrt, _, hrc, by rw [hk]⟩, .join hltext hlctext hrtext hrctext hmem⟩
    · rintro ⟨⟨_, hlt, _, hlc, _, hrt, _, hrc, h⟩, hadmits⟩
      cases hadmits with
      | join hltext hlctext hrtext hrctext hmem =>
        simp only [Edit.addJoin.injEq] at h
        obtain ⟨rfl, rfl, rfl, rfl, hk⟩ := h
        exact ⟨_, _, ⟨_, _, ⟨_, _, ⟨_, _, ⟨_, ⟨hlt, hltext⟩, rfl⟩, ⟨hlc, hlctext⟩, rfl⟩, ⟨hrt, hrtext⟩, rfl⟩,
          ⟨hrc, hrctext⟩, rfl⟩, ⟨hk, hmem⟩, rfl⟩
  | filter =>
    simp only [command, direct?, filterEdit, fieldsOf, toOption_eq_some, map_eq_ok, seq_eq_ok, textField_eq_ok,
      optionalChoice_eq_ok, bind_eq_ok, require_eq_ok, pure_eq_ok, ok_bind, Except.ok.injEq]
    constructor
    · rintro ⟨_, _, ⟨_, _, ⟨_, _, ⟨_, ⟨ht, htext⟩, rfl⟩, ⟨hcol, hctext⟩, rfl⟩, ⟨ho, hotext⟩, rfl⟩, ⟨hk, hmem⟩, h⟩
      cases h
      exact ⟨⟨_, ht, _, hcol, _, ho, by rw [hk]⟩, .filter htext hctext hotext hmem⟩
    · rintro ⟨⟨_, ht, _, hcol, _, ho, h⟩, hadmits⟩
      cases hadmits with
      | filter htext hctext hotext hmem =>
        simp only [Edit.addFilter.injEq] at h
        obtain ⟨rfl, rfl, rfl, rfl, hk⟩ := h
        exact ⟨_, _, ⟨_, _, ⟨_, _, ⟨_, ⟨ht, htext⟩, rfl⟩, ⟨hcol, hctext⟩, rfl⟩, ⟨ho, hotext⟩, rfl⟩, ⟨hk, hmem⟩, rfl⟩
  | sort =>
    simp only [command, direct?, sortEdit, fieldsOf, toOption_eq_some, map_eq_ok, seq_eq_ok, textField_eq_ok,
      choice_eq_ok hasc, bind_eq_ok, require_eq_ok, pure_eq_ok, ok_bind, Except.ok.injEq]
    constructor
    · rintro ⟨_, _, ⟨_, _, ⟨_, ⟨ht, htext⟩, rfl⟩, ⟨hcol, hctext⟩, rfl⟩, ⟨hd, hmem⟩, h⟩
      cases h
      exact ⟨⟨_, ht, _, hcol, by rw [hd]⟩, .sort htext hctext hmem⟩
    · rintro ⟨⟨_, ht, _, hcol, h⟩, hadmits⟩
      cases hadmits with
      | sort htext hctext hmem =>
        simp only [Edit.addSort.injEq] at h
        obtain ⟨rfl, rfl, hd⟩ := h
        exact ⟨_, _, ⟨_, _, ⟨_, ⟨ht, htext⟩, rfl⟩, ⟨hcol, hctext⟩, rfl⟩, ⟨hd, hmem⟩, rfl⟩
  | group =>
    simp only [command, direct?, groupEdit, fieldsOf, toOption_eq_some, map_eq_ok, seq_eq_ok, textField_eq_ok,
      bind_eq_ok, require_eq_ok, pure_eq_ok, ok_bind, Except.ok.injEq]
    constructor
    · rintro ⟨_, _, ⟨_, ⟨ht, htext⟩, rfl⟩, ⟨hcol, hctext⟩, h⟩
      cases h
      exact ⟨⟨_, ht, _, hcol, rfl⟩, .group htext hctext⟩
    · rintro ⟨⟨_, ht, _, hcol, rfl⟩, h⟩
      cases h with
      | group htext hctext => exact ⟨_, _, ⟨_, ⟨ht, htext⟩, rfl⟩, ⟨hcol, hctext⟩, rfl⟩
  | aggregate =>
    simp only [command, direct?, aggregateEdit, fieldsOf, toOption_eq_some, map_eq_ok, seq_eq_ok, textField_eq_ok,
      optionalTextField_eq_ok, required_eq_ok, readOneOf_eq_ok, bind_eq_ok, require_eq_ok, pure_eq_ok, ok_bind,
      Except.ok.injEq]
    constructor
    · rintro ⟨_, _, ⟨_, _, ⟨_, _, ⟨f, ⟨_, hf, rfl, hmem⟩, rfl⟩, ⟨ht, htext⟩, rfl⟩, ⟨hcol, hctext⟩, rfl⟩, ⟨rfl, ha⟩, h⟩
      cases h
      exact ⟨⟨_, hf, _, ht, _, hcol, rfl⟩, .aggregate hmem htext hctext ha⟩
    · rintro ⟨⟨_, hf, _, ht, _, hcol, rfl⟩, h⟩
      cases h with
      | aggregate hmem htext hctext ha =>
        exact ⟨_, _, ⟨_, _, ⟨_, _, ⟨_, ⟨_, hf, rfl, hmem⟩, rfl⟩, ⟨ht, htext⟩, rfl⟩, ⟨hcol, hctext⟩, rfl⟩, ⟨rfl, ha⟩, rfl⟩

/-- **A limit** is accepted exactly if it is absent, null or read as a whole number, which it is set to. -/
theorem BodyKind.limit_eq_edit : BodyKind.limit.command fs = .ok (.edit e) ↔
    (Value.fieldOr fs "limit" .null = .null ∧ e = .setLimit .null) ∨
      ∃ n, wholeOf (Value.fieldOr fs "limit" .null) = .ok n ∧ e = .setLimit (.int n) := by
  simp only [command, map_eq_ok, defaulted_eq_ok, orNull_eq_ok, Command.edit.injEq]
  cases hw : Value.field? fs "limit" with
  | none =>
    rw [fieldOr_of_none hw]
    simp [wholeOf, eq_comm]
  | some w =>
    rw [fieldOr_of_some hw]
    constructor
    · rintro ⟨o, ⟨h, -⟩ | ⟨v, hv, ⟨rfl, rfl⟩ | ⟨-, n, hn, rfl⟩⟩, rfl⟩
      · cases h
      · exact .inl ⟨Option.some.inj hv, rfl⟩
      · exact .inr ⟨n, by rwa [Option.some.inj hv], rfl⟩
    · rintro (⟨rfl, rfl⟩ | ⟨n, hn, rfl⟩)
      · exact ⟨none, .inr ⟨_, rfl, .inl ⟨rfl, rfl⟩⟩, rfl⟩
      · refine ⟨some n, .inr ⟨_, rfl, .inr ⟨?_, n, hn, rfl⟩⟩, rfl⟩
        rintro rfl
        cases hn

end Requests

end QueryCanvas.Http
