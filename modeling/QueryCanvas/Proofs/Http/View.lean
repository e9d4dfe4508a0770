import QueryCanvas.Http.View
import QueryCanvas.Json.Printer
import QueryCanvas.Proofs.Outcome

/-!
# What responses can carry

A response is JSON in an encoding of characters. A view of anything can be written but for texts without
an encoding and for objects of classes of their own, which may stand deep within the values that it shows.

* `Unsendable`: such a text or object stands in a value. `encodable_wire` says that nothing else stops a value.
* `encodable_canvasView`: a canvas can be sent exactly if its id, its name and its operands can.
* `encodable_sessionView`: a session can be sent exactly if its canvas can; its statement never stops it.
* `encodable_resultView`: rows can be sent exactly if no operand of the statement is torn and every row can be.
-/

namespace QueryCanvas

/-! ## Lists and records -/

namespace Json

theorem allEncodable_eq_all (vs : List Value) : allEncodable vs = vs.all encodable := by
  induction vs with
  | nil => rfl
  | cons v vs ih => rw [allEncodable, List.all_cons, ih]

theorem fieldsEncodable_eq_all (fs : List (String × Value)) : fieldsEncodable fs = fs.all fun f => encodable f.2 := by
  induction fs with
  | nil => rfl
  | cons f fs ih => rw [fieldsEncodable, List.all_cons, ih]

end Json

/-- The value of a field is smaller than its record. -/
theorem sizeOf_field_lt {v : Value} {fs : List (String × Value)} {name : String} (hmem : (name, v) ∈ fs) :
    sizeOf v < sizeOf fs := by
  have hlt := List.sizeOf_lt_of_mem hmem
  rw [Prod.mk.sizeOf_spec] at hlt
  omega

namespace Http

variable {v : Value} {c : Canvas}

theorem wireAll_eq_map (vs : List Value) : wireAll vs = vs.map wire := by
  induction vs with
  | nil => rfl
  | cons v vs ih => rw [wireAll, List.map_cons, ih]

theorem wireFields_eq_map (fs : List (String × Value)) : wireFields fs = fs.map fun f => (f.1, wire f.2) := by
  induction fs with
  | nil => rfl
  | cons f fs ih => rw [wireFields, List.map_cons, ih]

theorem encodable_wireAll (vs : List Value) :
    Json.encodable (.list (wireAll vs)) = vs.all fun v => Json.encodable (wire v) := by
  rw [Json.encodable, Json.allEncodable_eq_all, wireAll_eq_map, List.all_map]
  rfl

theorem encodable_wireFields (fs : List (String × Value)) :
    Json.encodable (.record (wireFields fs)) = fs.all fun f => Json.encodable (wire f.2) := by
  rw [Json.encodable, Json.fieldsEncodable_eq_all, wireFields_eq_map, List.all_map]
  rfl

/-! ## Values -/

/-- **What no response can carry** stands in a value, within containers of any depth: a torn text or an object. -/
inductive Unsendable : Value → Prop
  | torn {t : Text.Torn} : Unsendable (.torn t)
  | object {o : ForeignObject} : Unsendable (.object o)
  | item {items : List Value} {v w : Value} (hw : w = .list items ∨ w = .tuple items ∨ w = .unordered items)
      (hmem : v ∈ items) (h : Unsendable v) : Unsendable w
  | field {fs : List (String × Value)} {f : String × Value} (hmem : f ∈ fs) (h : Unsendable f.2) :
      Unsendable (.record fs)

theorem Unsendable.not_encodable (h : Unsendable v) : Json.encodable (wire v) = false := by
  induction h with
  | torn | object => rfl
  | item hw hmem _ ih =>
    rcases hw with rfl | rfl | rfl <;>
      exact (encodable_wireAll _).trans (List.all_eq_false.2 ⟨_, hmem, by rw [ih]; exact Bool.false_ne_true⟩)
  | field hmem _ ih =>
    exact (encodable_wireFields _).trans (List.all_eq_false.2 ⟨_, hmem, by rw [ih]; exact Bool.false_ne_true⟩)

/-- Nothing else stops a value. -/
theorem unsendable_of_not_encodable : (v : Value) → Json.encodable (wire v) = false → Unsendable v
  | .torn _, _ => .torn
  | .object _, _ => .object
  | .list items, h | .tuple items, h | .unordered items, h => by
    obtain ⟨v, hmem, hv⟩ := List.all_eq_false.1 ((encodable_wireAll items).symm.trans h)
    exact .item (by simp) hmem (unsendable_of_not_encodable v (Bool.eq_false_iff.2 hv))
  | .record fs, h => by
    obtain ⟨⟨name, v⟩, hmem, hv⟩ := List.all_eq_false.1 ((encodable_wireFields fs).symm.trans h)
    have hsmaller := sizeOf_field_lt hmem
    exact .field hmem (unsendable_of_not_encodable v (Bool.eq_false_iff.2 hv))
  | .float x, h => by
    cases hx : x.isFinite <;> simp [wire, hx, Json.encodable] at h
  | .null, h | .bool _, h | .int _, h | .decimal _, h | .text _, h | .date _, h | .moment _, h | .time _, h
  | .range _ _, h => by cases h

/-- **Which values can be sent**: those that hold no such text or object. -/
theorem encodable_wire : Json.encodable (wire v) = true ↔ ¬Unsendable v := by
  constructor
  · intro h hholds
    rw [hholds.not_encodable] at h
    cases h
  · intro h
    by_contra hnot
    exact h (unsendable_of_not_encodable v (Bool.eq_false_iff.2 hnot))

theorem unsendable_list {vs : List Value} : Unsendable (.list vs) ↔ ∃ v ∈ vs, Unsendable v := by
  constructor
  · intro h
    cases h with
    | item hw hmem h =>
      obtain rfl : vs = _ := by simpa using hw
      exact ⟨_, hmem, h⟩
  · rintro ⟨v, hmem, h⟩
    exact .item (.inl rfl) hmem h

theorem unsendable_record {fs : List (String × Value)} : Unsendable (.record fs) ↔ ∃ f ∈ fs, Unsendable f.2 := by
  constructor
  · intro h
    cases h with
    | item hw => simp at hw
    | field hmem h => exact ⟨_, hmem, h⟩
  · rintro ⟨f, hmem, h⟩
    exact .field hmem h

theorem not_unsendable_text (s : String) : ¬Unsendable (.text s) :=
  encodable_wire.1 rfl

theorem not_unsendable_int (n : Int) : ¬Unsendable (.int n) :=
  encodable_wire.1 rfl

theorem not_unsendable_null : ¬Unsendable .null :=
  encodable_wire.1 rfl

theorem not_unsendable_texts (ss : List String) : ¬Unsendable (.list (ss.map .text)) := by
  rw [unsendable_list]
  rintro ⟨v, hv, h⟩
  obtain ⟨s, -, rfl⟩ := List.mem_map.1 hv
  exact not_unsendable_text s h

theorem not_unsendable_optionalText (s : Option String) : ¬Unsendable (Canvas.optionalText s) := by
  cases s with
  | none => exact not_unsendable_null
  | some s => exact not_unsendable_text s

/-- Records of parts that can be sent are a list that can be. -/
theorem not_unsendable_parts {α : Type} (record : α → Value) (h : ∀ x, ¬Unsendable (record x)) (xs : List α) :
    ¬Unsendable (.list (xs.map record)) := by
  rw [unsendable_list]
  rintro ⟨v, hv, hbad⟩
  obtain ⟨x, -, rfl⟩ := List.mem_map.1 hv
  exact h x hbad

/-! ## Canvases -/

theorem unsendable_toRaw (x : FilterValue) : Unsendable x.toRaw ↔ ∃ v ∈ operandValues x, Unsendable v := by
  cases x with
  | scalar v => simp [FilterValue.toRaw, operandValues]
  | list vs => exact unsendable_list
  | range lo hi => simp [FilterValue.toRaw, operandValues, unsendable_record]
  | none => simp [FilterValue.toRaw, operandValues, not_unsendable_null]

/-- **Which canvases cannot be sent**: those with an id, a name or an operand that cannot. -/
theorem unsendable_canvas (c : Canvas) : Unsendable c.toValue ↔
    Unsendable c.id ∨ Unsendable c.name ∨ ∃ v ∈ operandsOf c, Unsendable v := by
  have hfilter : ∀ f : Filter, Unsendable (Canvas.filterRecord f) ↔ ∃ v ∈ operandValues f.value, Unsendable v := by
    intro f
    rw [← unsendable_toRaw]
    simp [Canvas.filterRecord, unsendable_record, not_unsendable_text, not_unsendable_optionalText]
  have hcolumns := not_unsendable_parts Canvas.columnRecord fun x => by
    simp [Canvas.columnRecord, unsendable_record, not_unsendable_text, not_unsendable_optionalText]
  have hjoins := not_unsendable_parts Canvas.joinRecord fun x => by
    simp [Canvas.joinRecord, unsendable_record, not_unsendable_text]
  have hsorts := not_unsendable_parts Canvas.sortRecord fun x => by
    simp [Canvas.sortRecord, unsendable_record, not_unsendable_text]
  have hgroups := not_unsendable_parts Canvas.groupRecord fun x => by
    simp [Canvas.groupRecord, unsendable_record, not_unsendable_text]
  have haggregates := not_unsendable_parts Canvas.aggregateRecord fun x => by
    simp [Canvas.aggregateRecord, unsendable_record, not_unsendable_text, not_unsendable_optionalText]
  have hlimit : ¬Unsendable (Canvas.limitValue c.limit) := by
    cases c.limit with
    | none => exact not_unsendable_null
    | some n => exact not_unsendable_int n
  have hfilters : Unsendable (.list (c.filters.map Canvas.filterRecord)) ↔ ∃ v ∈ operandsOf c, Unsendable v := by
    simp only [unsendable_list, List.mem_map, operandsOf, List.mem_flatMap]
    constructor
    · rintro ⟨_, ⟨f, hf, rfl⟩, h⟩
      obtain ⟨v, hv, hbad⟩ := (hfilter f).1 h
      exact ⟨v, ⟨f, hf, hv⟩, hbad⟩
    · rintro ⟨v, ⟨f, hf, hv⟩, hbad⟩
      exact ⟨_, ⟨f, hf, rfl⟩, (hfilter f).2 ⟨v, hv, hbad⟩⟩
  simp [Canvas.toValue, unsendable_record, not_unsendable_texts, hcolumns, hjoins, hsorts, hgroups, haggregates,
    hlimit, hfilters]

theorem encodable_canvasView (c : Canvas) : Json.encodable (canvasView c) = true ↔ ¬Unsendable c.toValue :=
  encodable_wire

/-! ## Sessions -/

/-- A statement can be shown exactly if no operand of its canvas is torn. -/
theorem encodable_statementView (c : Canvas) (sql : String) :
    Json.encodable (statementView c sql) = true ↔ ∀ v ∈ operandsOf c, v.isTorn = false := by
  unfold statementView
  cases hfound : (operandsOf c).find? Value.isTorn with
  | none =>
    simp only [List.find?_eq_none, Bool.not_eq_true] at hfound
    exact iff_of_true rfl hfound
  | some v =>
    have htorn := List.find?_some hfound
    refine iff_of_false (fun h => ?_) fun h => ?_
    · cases v with
      | torn t => cases h
      | _ => cases htorn
    · rw [h v (List.mem_of_find?_eq_some hfound)] at htorn
      cases htorn

theorem unsendable_of_isTorn (h : v.isTorn = true) : Unsendable v := by
  cases v with
  | torn t => exact .torn
  | _ => cases h

/-- The statement of a canvas that can be sent can be shown. -/
theorem encodable_statementView_of_sent (h : ¬Unsendable c.toValue) (sql : String) :
    Json.encodable (statementView c sql) = true := by
  refine (encodable_statementView c sql).2 fun v hv => Bool.eq_false_iff.2 fun htorn => h ?_
  exact (unsendable_canvas c).2 (.inr (.inr ⟨v, hv, unsendable_of_isTorn htorn⟩))

theorem allEncodable_warningView (ws : List Warning) : Json.allEncodable (ws.map warningView) = true := by
  rw [Json.allEncodable_eq_all, List.all_map]
  exact List.all_eq_true.2 fun w _ => rfl

/-- **A session can be sent** exactly if its canvas can. -/
theorem encodable_sessionView {s : Session} (h : sessionView s = .ok v) :
    Json.encodable v = true ↔ ¬Unsendable s.canvas.toValue := by
  obtain ⟨sql, -, h⟩ := bind_eq_ok.1 h
  cases h
  rw [← encodable_canvasView]
  simp only [Json.encodable, Json.fieldsEncodable, allEncodable_warningView, Bool.and_true, Bool.true_and]
  refine ⟨fun h => (Bool.and_eq_true _ _ ▸ h).1, fun h => ?_⟩
  rw [h, encodable_statementView_of_sent ((encodable_canvasView _).1 h)]
  rfl

/-- **Rows can be sent** exactly if no operand of the statement is torn and every row can be sent. -/
theorem encodable_resultView (c : Canvas) (r : QueryResult) : Json.encodable (resultView c r) = true ↔
    (∀ v ∈ operandsOf c, v.isTorn = false) ∧ ∀ row ∈ r.rows, ¬Unsendable (.record row) := by
  have hcolumns : Json.allEncodable (r.columns.map .text) = true := by
    rw [Json.allEncodable_eq_all, List.all_map]
    exact List.all_eq_true.2 fun name _ => rfl
  have hrows : Json.allEncodable (r.rows.map fun row => wire (.record row)) = true ↔
      ∀ row ∈ r.rows, ¬Unsendable (.record row) := by
    simp only [Json.allEncodable_eq_all, List.all_map, List.all_eq_true, Function.comp, encodable_wire]
  have htime : Numeral.Binary64.zero.isFinite = true := rfl
  rw [← encodable_statementView c r.sql, ← hrows]
  simp [resultView, Json.encodable, Json.fieldsEncodable, hcolumns, htime]

end Http

end QueryCanvas
