import QueryCanvas.Proofs.Http.Body
import QueryCanvas.Proofs.Http.Refusal
import QueryCanvas.Proofs.Http.Routing

/-!
# What refused bodies show

A body that does not have the form of its kind is answered with its issues, and every issue shows the input that it is
about as it was sent. A text of JSON may spell what no strict JSON can write: marks for infinite and missing doubles,
numbers that are too large, and texts that no encoding carries. It may also put lists and records one in the other more
deeply than the host can go into them. An issue that shows such an input cannot be sent, and the response is a crash.

* `HoldsUnwritable`: a double that cannot be written, or a torn text, stands in a value.
* `Host.CanShow`: the inputs that a host can show. `isShowable_iff` says that issues can be sent if it can show theirs.
* `BodyKind.schema`: the fields of each kind of body, and what they may hold.
* `BodyKind.Echoes`: what the issues of a body show of it. The body has none exactly if nothing is shown.
* `refused_answered`: a refused body is answered with its issues exactly if the host can show all that they show.
* `notNumber_crashes`: a body that is refused and answered with a crash.
-/

namespace QueryCanvas.Http

/-! ## Values that can be written -/

/-- **What JSON cannot write** stands in a value, within records and lists of any depth: a double that is not finite,
or a torn text. -/
inductive HoldsUnwritable : Value → Prop
  | double {x : Numeral.Binary64} (h : x.isFinite = false) : HoldsUnwritable (.float x)
  | torn {t : Text.Torn} : HoldsUnwritable (.torn t)
  | item {items : List Value} {v : Value} (hmem : v ∈ items) (h : HoldsUnwritable v) : HoldsUnwritable (.list items)
  | field {fs : List (String × Value)} {f : String × Value} (hmem : f ∈ fs) (h : HoldsUnwritable f.2) :
      HoldsUnwritable (.record fs)

variable {v w : Value}

theorem shownForms_eq_map (vs : List Value) : shownForms vs = vs.map shownForm := by
  induction vs with
  | nil => rfl
  | cons v vs ih => rw [shownForms, List.map_cons, ih]

theorem shownFields_eq_map (fs : List (String × Value)) :
    shownFields fs = fs.map fun f => (f.1, shownForm f.2) := by
  induction fs with
  | nil => rfl
  | cons f fs ih => rw [shownFields, List.map_cons, ih]

theorem encodable_shownForm_list (items : List Value) :
    Json.encodable (shownForm (.list items)) = items.all fun v => Json.encodable (shownForm v) := by
  rw [shownForm, Json.encodable, Json.allEncodable_eq_all, shownForms_eq_map, List.all_map]
  rfl

theorem encodable_shownForm_record (fs : List (String × Value)) :
    Json.encodable (shownForm (.record fs)) = fs.all fun f => Json.encodable (shownForm f.2) := by
  rw [shownForm, Json.encodable, Json.fieldsEncodable_eq_all, shownFields_eq_map, List.all_map]
  rfl

theorem HoldsUnwritable.not_encodable (h : HoldsUnwritable v) : Json.encodable (shownForm v) = false := by
  induction h with
  | double h => exact h
  | torn => rfl
  | item hmem _ ih =>
    rw [encodable_shownForm_list, List.all_eq_false]
    exact ⟨_, hmem, by rw [ih]; exact Bool.false_ne_true⟩
  | field hmem _ ih =>
    rw [encodable_shownForm_record, List.all_eq_false]
    exact ⟨_, hmem, by rw [ih]; exact Bool.false_ne_true⟩

/-- Nothing else keeps a value from being written as it is shown. -/
theorem holdsUnwritable_of_not_encodable : (v : Value) → Json.encodable (shownForm v) = false → HoldsUnwritable v
  | .float _, h => .double h
  | .torn _, _ => .torn
  | .list items, h => by
    rw [encodable_shownForm_list, List.all_eq_false] at h
    obtain ⟨v, hmem, hv⟩ := h
    exact .item hmem (holdsUnwritable_of_not_encodable v (Bool.eq_false_iff.2 hv))
  | .record fs, h => by
    rw [encodable_shownForm_record, List.all_eq_false] at h
    obtain ⟨⟨name, v⟩, hmem, hv⟩ := h
    have hsmaller := sizeOf_field_lt hmem
    exact .field hmem (holdsUnwritable_of_not_encodable v (Bool.eq_false_iff.2 hv))
  | .null, h | .bool _, h | .int _, h | .decimal _, h | .text _, h | .date _, h | .moment _, h | .time _, h
  | .tuple _, h | .range _ _, h | .unordered _, h | .object _, h => by cases h

/-- **Which values can be written as they are shown**: those that hold nothing of the kind. -/
theorem encodable_shownForm : Json.encodable (shownForm v) = true ↔ ¬HoldsUnwritable v := by
  constructor
  · intro h hholds
    rw [hholds.not_encodable] at h
    cases h
  · intro h
    by_contra hnot
    exact h (holdsUnwritable_of_not_encodable v (Bool.eq_false_iff.2 hnot))

/-- An issue can be written exactly if what it shows can. -/
theorem encodable_issue (i : Issue) : Json.encodable i.toValue = true ↔ ¬HoldsUnwritable i.input := by
  rw [← encodable_shownForm, Issue.toValue, Issue.report, encodable_shownForm_record]
  simp [shownForm, Json.encodable]

/-! ## Values that can be shown -/

/-- **The inputs that a host can show**: JSON can write them, and they are not too deep to be gone into. -/
structure Host.CanShow (host : Host) (w : Value) : Prop where
  writes : ¬HoldsUnwritable w
  reaches : showingDepth w ≤ host.shownDepth

/-- Issues can be sent exactly if the host can show what they show. -/
theorem isShowable_iff {host : Host} {issues : List Issue} :
    Result.isShowable host issues = true ↔ ∀ i ∈ issues, host.CanShow i.input := by
  rw [Result.isShowable, Json.allEncodable_eq_all, List.all_map, Bool.and_eq_true, List.all_eq_true, List.all_eq_true]
  simp only [Function.comp, encodable_issue, decide_eq_true_eq]
  exact ⟨fun h i hi => ⟨h.1 i hi, h.2 i hi⟩, fun h => ⟨fun i hi => (h i hi).writes, fun i hi => (h i hi).reaches⟩⟩

/-! ## Fields and what they may hold -/

/-- What a field of a body may hold. -/
inductive FieldForm where
  | text
  | filledText
  | oneOf (names : List String)
  | whole
  | orNull (form : FieldForm)

/-- **The values that a form admits.** -/
def FieldForm.Admits : FieldForm → Value → Prop
  | .text, v => v.isText = true
  | .filledText, v => ∃ s, v = .text s ∧ s ≠ ""
  | .oneOf names, v => ∃ s ∈ names, v = .text s
  | .whole, v => ∃ n, wholeOf v = .ok n
  | .orNull form, v => v = .null ∨ form.Admits v

/-- A field of a body. -/
structure SchemaField where
  name : String
  isRequired : Bool
  form : FieldForm

/-- The fields of a kind of body, in order. What is compared in a filter may be anything. -/
def BodyKind.schema : BodyKind → List SchemaField
  | .reset => [⟨"name", false, .orNull .text⟩]
  | .rename => [⟨"name", true, .filledText⟩]
  | .table => [⟨"table", true, .text⟩]
  | .column => [⟨"table", true, .text⟩, ⟨"column", true, .text⟩, ⟨"alias", false, .orNull .text⟩]
  | .join =>
    [⟨"left_table", true, .text⟩, ⟨"left_column", true, .text⟩, ⟨"right_table", true, .text⟩,
     ⟨"right_column", true, .text⟩, ⟨"join_kind", false, .oneOf (JoinKind.all.map JoinKind.name)⟩]
  | .filter =>
    [⟨"table", true, .text⟩, ⟨"column", true, .text⟩, ⟨"operator", true, .text⟩,
     ⟨"logical_connective", false, .orNull (.oneOf (Connective.all.map Connective.name))⟩]
  | .sort =>
    [⟨"table", true, .text⟩, ⟨"column", true, .text⟩,
     ⟨"direction", false, .oneOf (Direction.all.map Direction.name)⟩]
  | .group => [⟨"table", true, .text⟩, ⟨"column", true, .text⟩]
  | .aggregate =>
    [⟨"function", true, .oneOf (Aggregation.all.map Aggregation.name)⟩, ⟨"table", true, .text⟩,
     ⟨"column", true, .text⟩, ⟨"alias", false, .orNull .text⟩]
  | .limit => [⟨"limit", false, .orNull .whole⟩]

/-- **What the issue of a field shows**, if it has one: the fields of the body, if it has to be there and is not, or
else its value, if that has the wrong form. -/
inductive SchemaField.Echoes (f : SchemaField) (fs : BodyFields) : Value → Prop
  | missing (hreq : f.isRequired = true) (hfield : Value.field? fs f.name = none) : Echoes f fs (.record fs)
  | wrong {v : Value} (hfield : Value.field? fs f.name = some v) (hform : ¬f.form.Admits v) : Echoes f fs v

/-- **What the issues of a body show of it**: all of it if it is no record, or else what the issues of its fields
show. -/
inductive BodyKind.Echoes (k : BodyKind) : Value → Value → Prop
  | whole {v : Value} (h : ∀ fs, v ≠ .record fs) : Echoes k v v
  | field {fs : BodyFields} {f : SchemaField} {w : Value} (hmem : f ∈ k.schema) (h : f.Echoes fs w) :
      Echoes k (.record fs) w

/-! ## The issues of a body -/

section Issues

variable {α β : Type} {fs : BodyFields} {name : String} {form : FieldForm} {schema schema' : List SchemaField}

/-- A reading of values that takes those of a form. -/
def Reads (read : Value → Except IssueKind α) (form : FieldForm) : Prop :=
  ∀ v, (∃ a, read v = .ok a) ↔ form.Admits v

theorem reads_text : Reads readText .text := fun v => by
  simp only [readText_eq_ok, FieldForm.Admits, exists_eq_left']

theorem reads_filledText : Reads readFilledText .filledText := fun v => by
  simp only [readFilledText_eq_ok, FieldForm.Admits]

theorem reads_oneOf (names : List String) : Reads (readOneOf names) (.oneOf names) := fun v => by
  simp only [readOneOf_eq_ok, FieldForm.Admits, and_comm]

theorem reads_whole : Reads wholeOf .whole := fun _ => Iff.rfl

theorem Reads.orNull {read : Value → Except IssueKind α} (h : Reads read form) :
    Reads (orNull read) (.orNull form) := fun v => by
  simp only [orNull_eq_ok, FieldForm.Admits, ← h v]
  by_cases hv : v = .null
  · simp [hv]
  · simp only [hv, false_and, false_or, ne_eq, not_false_eq_true, true_and]
    exact ⟨fun ⟨_, a, ha, _⟩ => ⟨a, ha⟩, fun ⟨a, ha⟩ => ⟨some a, a, ha, rfl⟩⟩

/-- **A checked input that has the issues of some fields**: its issues show what those of the fields show, and it is
refused only with an issue. -/
structure Follows (fs : BodyFields) (schema : List SchemaField) (x : Checked α) : Prop where
  shows : ∀ w, (∃ i ∈ x.issues, i.input = w) ↔ ∃ f ∈ schema, f.Echoes fs w
  refused : ∀ issues, x = .refused issues → issues ≠ []

theorem Checked.issues_ap (f : Checked (α → β)) (x : Checked α) : (f.ap x).issues = f.issues ++ x.issues := by
  cases f <;> cases x <;> rfl

theorem Checked.ap_eq_refused {f : Checked (α → β)} {x : Checked α} {issues : List Issue}
    (h : f.ap x = .refused issues) : (∃ is, f = .refused is) ∨ ∃ is, x = .refused is := by
  cases f with
  | refused is => exact .inl ⟨is, rfl⟩
  | ok g =>
    cases x with
    | refused is => exact .inr ⟨is, rfl⟩
    | ok a => cases h

theorem Follows.seq {f : Checked (α → β)} {x : Checked α} (hf : Follows fs schema f) (hx : Follows fs schema' x) :
    Follows fs (schema ++ schema') (f <*> x) where
  shows w := by
    show (∃ i ∈ (f.ap x).issues, i.input = w) ↔ _
    simp only [Checked.issues_ap, List.mem_append, or_and_right, exists_or, hf.shows, hx.shows]
  refused issues h := by
    have hissues : issues = f.issues ++ x.issues := by
      rw [← Checked.issues_ap]
      exact (congrArg Checked.issues h).symm
    rw [hissues]
    rcases Checked.ap_eq_refused h with ⟨is, rfl⟩ | ⟨is, rfl⟩
    · exact List.append_ne_nil_of_left_ne_nil (hf.refused is rfl) _
    · exact List.append_ne_nil_of_right_ne_nil _ (hx.refused is rfl)

theorem follows_ok (a : α) : Follows fs [] (.ok a) where
  shows w := by simp [Checked.issues]
  refused issues h := by cases h

theorem Follows.map {x : Checked α} (f : α → β) (hx : Follows fs schema x) : Follows fs schema (f <$> x) :=
  (follows_ok f).seq hx

theorem echoes_of_none {f : SchemaField} (h : Value.field? fs f.name = none) :
    f.Echoes fs w ↔ f.isRequired = true ∧ .record fs = w := by
  constructor
  · rintro (⟨hreq, -⟩ | ⟨hfield, -⟩)
    · exact ⟨hreq, rfl⟩
    · rw [h] at hfield
      cases hfield
  · rintro ⟨hreq, rfl⟩
    exact .missing hreq h

theorem echoes_of_some {f : SchemaField} (h : Value.field? fs f.name = some v) :
    f.Echoes fs w ↔ ¬f.form.Admits v ∧ v = w := by
  constructor
  · rintro (⟨-, hfield⟩ | ⟨hfield, hform⟩)
    · rw [h] at hfield
      cases hfield
    · rw [h] at hfield
      cases hfield
      exact ⟨hform, rfl⟩
  · rintro ⟨hform, rfl⟩
    exact .wrong h hform

/-- The issues of one field. -/
theorem follows_field {f : SchemaField} {x : Checked α} (hshows : ∀ w, (∃ i ∈ x.issues, i.input = w) ↔ f.Echoes fs w)
    (hrefused : ∀ issues, x = .refused issues → issues ≠ []) : Follows fs [f] x where
  shows w := by simp only [List.mem_singleton, exists_eq_left, hshows]
  refused := hrefused

/-- A field that is there is read alike, whether it has to be there or not. -/
theorem follows_present {read : Value → Except IssueKind α} (h : Reads read form) (hv : Value.field? fs name = some v)
    (isRequired : Bool) : Follows fs [⟨name, isRequired, form⟩] (required fs name read) := by
  have hechoes : ∀ w, SchemaField.Echoes ⟨name, isRequired, form⟩ fs w ↔ ¬form.Admits v ∧ v = w :=
    fun _ => echoes_of_some hv
  unfold required
  rw [hv]
  simp only
  cases hr : read v with
  | ok a =>
    have hadmits : form.Admits v := (h v).1 ⟨a, hr⟩
    exact follows_field (fun w => by simp [hechoes, hadmits, Checked.issues]) nofun
  | error k =>
    have hrefused : ¬form.Admits v := fun hadmits => by
      obtain ⟨a, ha⟩ := (h v).2 hadmits
      rw [hr] at ha
      cases ha
    exact follows_field (fun w => by simp [hechoes, hrefused, Checked.issues])
      fun issues hissues => by cases hissues; exact List.cons_ne_nil _ _

theorem follows_required {read : Value → Except IssueKind α} (h : Reads read form) (name : String) :
    Follows fs [⟨name, true, form⟩] (required fs name read) := by
  cases hv : Value.field? fs name with
  | some v => exact follows_present h hv true
  | none =>
    have hout : required fs name read = .refused [⟨.missing, fieldPlace name, .record fs⟩] := by
      unfold required
      rw [hv]
    rw [hout]
    exact follows_field (fun w => by simp [echoes_of_none (f := ⟨name, true, form⟩) hv, Checked.issues])
      fun issues hissues => by cases hissues; exact List.cons_ne_nil _ _

theorem follows_defaulted {read : Value → Except IssueKind α} (h : Reads read form) (name : String) (default : α) :
    Follows fs [⟨name, false, form⟩] (defaulted fs name default read) := by
  unfold defaulted
  cases hv : Value.field? fs name with
  | some v => exact follows_present h hv false
  | none =>
    exact follows_field (fun w => by simp [echoes_of_none (f := ⟨name, false, form⟩) hv, Checked.issues]) nofun

theorem follows_textField (name : String) : Follows fs [⟨name, true, .text⟩] (textField fs name) :=
  follows_required reads_text name

theorem follows_optionalTextField (name : String) :
    Follows fs [⟨name, false, .orNull .text⟩] (optionalTextField fs name) :=
  (follows_defaulted reads_text.orNull name _).map _

/-- **The issues of a body** are those of the fields of its kind. -/
theorem BodyKind.command_follows (k : BodyKind) (fs : BodyFields) : Follows fs k.schema (k.command fs) := by
  cases k with
  | reset => exact (follows_defaulted reads_text.orNull "name" _).map _
  | rename => exact (follows_required reads_filledText "name").map _
  | table => exact (follows_textField "table").map _
  | column =>
    exact (((follows_textField "table").map _).seq (follows_textField "column")).seq
      (follows_optionalTextField "alias")
  | join =>
    exact (((((follows_textField "left_table").map _).seq (follows_textField "left_column")).seq
      (follows_textField "right_table")).seq (follows_textField "right_column")).seq
      (follows_defaulted (reads_oneOf _) "join_kind" _)
  | filter =>
    exact ((((follows_textField "table").map _).seq (follows_textField "column")).seq
      (follows_textField "operator")).seq (follows_defaulted (reads_oneOf _).orNull "logical_connective" _)
  | sort =>
    exact (((follows_textField "table").map _).seq (follows_textField "column")).seq
      (follows_defaulted (reads_oneOf _) "direction" _)
  | group => exact ((follows_textField "table").map _).seq (follows_textField "column")
  | aggregate =>
    exact ((((follows_required (reads_oneOf _) "function").map _).seq (follows_textField "table")).seq
      (follows_textField "column")).seq (follows_optionalTextField "alias")
  | limit => exact (follows_defaulted reads_whole.orNull "limit" _).map _

/-- What the issues of a body show is shown by the body. -/
theorem BodyKind.check_shows (k : BodyKind) (v w : Value) :
    (∃ i ∈ (k.check (some v)).issues, i.input = w) ↔ k.Echoes v w := by
  by_cases hv : ∃ fs, v = .record fs
  · obtain ⟨fs, rfl⟩ := hv
    have hfollows := (k.command_follows fs).shows w
    refine hfollows.trans ⟨fun ⟨f, hmem, h⟩ => .field hmem h, fun h => ?_⟩
    cases h with
    | whole h => exact absurd rfl (h fs)
    | field hmem h => exact ⟨_, hmem, h⟩
  · rw [not_exists] at hv
    have hcheck : k.check (some v) = .refused [⟨.notRecord, [.text "body"], v⟩] := by
      cases v with
      | record fs => exact absurd rfl (hv fs)
      | _ => rfl
    rw [hcheck]
    simp only [Checked.issues, List.mem_singleton, exists_eq_left]
    constructor
    · rintro rfl
      exact .whole hv
    · intro h
      cases h with
      | whole => rfl
      | field => exact absurd rfl (hv _)

/-- **A body is refused** exactly if something of it is shown. -/
theorem BodyKind.check_refused_iff (k : BodyKind) (v : Value) :
    (∃ issues, k.check (some v) = .refused issues) ↔ ∃ w, k.Echoes v w := by
  simp only [← k.check_shows]
  constructor
  · rintro ⟨issues, h⟩
    have hne : issues ≠ [] := by
      cases v with
      | record fs => exact (k.command_follows fs).refused issues h
      | _ =>
        cases h
        exact List.cons_ne_nil _ _
    obtain ⟨i, hi⟩ := List.exists_mem_of_ne_nil issues hne
    rw [h]
    exact ⟨_, i, hi, rfl⟩
  · rintro ⟨w, i, hi, -⟩
    cases hc : k.check (some v) with
    | refused issues => exact ⟨issues, rfl⟩
    | ok c =>
      rw [hc] at hi
      cases hi

end Issues

/-! ## The response -/

section Responses

variable {a : App} {r : Request} {key : String} {s : Session} {k : BodyKind} {issues : List Issue}

/-- **A request with a body** of some kind for a session that is open: its text is read as some value. -/
structure Submits (a : App) (r : Request) (key : String) (s : Session) (k : BodyKind) (v : Value) : Prop where
  leads : ∃ e, destination r.method (Target.ofText r.target).path = .endpoint e ∧ e.body? = some (key, k)
  reads : App.bodyValue a.host r.body = .ok (some v)
  finds : a.registry.find? key = some s

/-- The result of a request whose body is refused. -/
theorem Submits.answer (h : Submits a r key s k v) (hrefused : k.check (some v) = .refused issues) :
    (a.answer r (Target.ofText r.target)).1 = .invalid issues := by
  obtain ⟨e, hdest, he⟩ := h.leads
  rw [answer_endpoint hdest, atEndpoint_body he, App.bodyRequest, h.reads]
  simp only
  rw [withSession_found h.finds]
  simp only [hrefused]

/-- **Refused bodies.** A value can be written as it is shown exactly if it holds no double that is not finite and no
torn text, of whatever lists, records and other values it is built. A body that is read is refused exactly if something
of it is shown. The response has status 422 and lists the issues, in a form that JSON can write, if the host can show
all that is shown, and is a crash otherwise. -/
theorem refused_answered (v : Value) :
    (Json.encodable (shownForm v) = true ↔ ¬HoldsUnwritable v) ∧
      ∀ a r key s k, Submits a r key s k v →
        ((∃ issues, k.check (some v) = .refused issues) ↔ ∃ w, k.Echoes v w) ∧
        ∀ issues, k.check (some v) = .refused issues →
          ((∀ w, k.Echoes v w → a.host.CanShow w) →
            (a.handle r).1 = ⟨422, .json (Result.detail (.list (issues.map Issue.toValue)))⟩ ∧ issues ≠ [] ∧
              Json.encodable (Result.detail (.list (issues.map Issue.toValue))) = true) ∧
          ((∃ w, k.Echoes v w ∧ ¬a.host.CanShow w) →
            (a.handle r).1 = ⟨500, .json (Result.detail (.text "Internal Server Error"))⟩) := by
  refine ⟨encodable_shownForm, fun a r key s k h => ⟨k.check_refused_iff v, fun issues hrefused => ?_⟩⟩
  have hshows : ∀ w, (∃ i ∈ issues, i.input = w) ↔ k.Echoes v w := fun w => by
    have := k.check_shows v w
    rwa [hrefused] at this
  have hresponse : (a.handle r).1 = ((Result.invalid issues).settled a.host).toResponse := by
    obtain ⟨e, hdest, he⟩ := h.leads
    rw [← h.answer hrefused]
    exact forMethod_of_body hdest he _
  have hshown : Result.isShowable a.host issues = true ↔ ∀ w, k.Echoes v w → a.host.CanShow w := by
    simp only [isShowable_iff, ← hshows]
    constructor
    · rintro h w ⟨i, hi, rfl⟩
      exact h i hi
    · intro h i hi
      exact h _ ⟨i, hi, rfl⟩
  rw [hresponse, Result.settled]
  constructor
  · intro hall
    have hshowable := hshown.2 hall
    have hwritten : Json.allEncodable (issues.map Issue.toValue) = true := (Bool.and_eq_true _ _ ▸ hshowable).1
    rw [if_pos hshowable]
    refine ⟨rfl, ?_, ?_⟩
    · obtain ⟨w, hw⟩ := (k.check_refused_iff v).1 ⟨issues, hrefused⟩
      obtain ⟨i, hi, -⟩ := (hshows w).2 hw
      exact List.ne_nil_of_mem hi
    · simp [Result.detail, Json.encodable, Json.fieldsEncodable, hwritten]
  · rintro ⟨w, hw, hnot⟩
    rw [if_neg fun hshowable => hnot (hshown.1 hshowable w hw)]
    rfl

/-- A request for a table, with a word in the place of its name. -/
def tableSent (word : String) : Request :=
  ⟨"POST", "/api/query-builder/sessions/id-1/tables", "\x7b\"table\": " ++ word ++ "\x7d", []⟩

/-- The body is read as a record of the word. -/
theorem read_tableSent {word : String} (h : (word, v) ∈ Json.words) {depth : Nat} :
    Json.read (depth + 1) (tableSent word).body = .ok (.record [("table", v)]) := by
  have hfront : "\x7b\"table\": " = "\x7b\"" ++ "table" ++ "\": " := by decide
  rw [tableSent, hfront]
  exact Json.read_wordRecord (by decide) h

/-- The request is one with a body for the open session. -/
theorem submits_tableSent {word : String} (h : (word, v) ∈ Json.words) :
    ∃ s, Submits ordersServed (tableSent word) "id-1" s .table (.record [("table", v)]) := by
  have hfound : (ordersServed.registry.find? "id-1").isSome = true := by decide +kernel
  have hdest : destination "POST" (Target.ofText "/api/query-builder/sessions/id-1/tables").path =
      .endpoint (.addTable "id-1") := by decide +kernel
  have hfilled : (tableSent word).body ≠ "" := by
    intro hempty
    have := congrArg String.toList hempty
    simp [tableSent] at this
  obtain ⟨s, hs⟩ := Option.isSome_iff_exists.1 hfound
  have hread : Json.read ordersServed.host.readDepth (tableSent word).body = .ok (.record [("table", v)]) := by
    rw [host_ordersServed]
    exact read_tableSent h
  exact ⟨s, ⟨_, hdest, rfl⟩, by simp only [App.bodyValue, if_neg hfilled, hread], hs⟩

/-- A truth value is no name. It can be written, and the response lists the one issue that there is. -/
theorem truthValue_listed :
    Json.read Host.usual.readDepth (tableSent "true").body = .ok (.record [("table", .bool true)]) ∧
    (ordersServed.handle (tableSent "true")).1 = ⟨422, .json (Result.detail (.list [.record
      [("type", .text "string_type"), ("loc", .text "('body', 'table')"),
       ("msg", .text "Input should be a valid string"), ("input", .bool true)]]))⟩ := by
  have hword : ("true", .bool true) ∈ Json.words := by simp [Json.words]
  obtain ⟨s, hs⟩ := submits_tableSent hword
  have hrefused : BodyKind.table.check (some (.record [("table", .bool true)])) =
      .refused [⟨.notText, fieldPlace "table", .bool true⟩] := rfl
  have hshown : ∀ w, BodyKind.table.Echoes (.record [("table", .bool true)]) w → ordersServed.host.CanShow w := by
    intro w hw
    rw [← BodyKind.check_shows, hrefused] at hw
    obtain ⟨i, hi, rfl⟩ := hw
    rw [List.mem_singleton.1 hi]
    refine ⟨?_, Nat.zero_le _⟩
    rintro ⟨⟩
  have hanswered := ((refused_answered _).2 _ _ _ _ _ hs).2 _ hrefused
  exact ⟨read_tableSent hword, (hanswered.1 hshown).1⟩

/-- **A refused body that is answered with a crash**: the mark for a missing number in place of a name. -/
theorem notNumber_crashes :
    Json.read Host.usual.readDepth (tableSent "NaN").body = .ok (.record [("table", .float .nan)]) ∧
    (∃ issues, BodyKind.table.check (some (.record [("table", .float .nan)])) = .refused issues) ∧
    (ordersServed.handle (tableSent "NaN")).1.status = 500 :=
  ⟨read_tableSent (by simp [Json.words]), ⟨_, rfl⟩, by decide +kernel⟩

end Responses

end QueryCanvas.Http
