import QueryCanvas.Canvas.Basic
import QueryCanvas.Proofs.Part.FilterValue

/-!
# What the checks of an edit accept

One lemma per check: exactly which loose arguments pass it, and what it then gives.

* `requireTable_eq_ok`, `requireColumn_eq_ok`: a reference passes exactly if it names a table on the
  canvas, and a column that this table has in the catalog (`Canvas.Refers`).
* `withoutId_eq_ok`: an item is removed exactly if there is one of that id.
* `detachFirst_eq_ok`: filters whose operands pass their check are always rebuilt.
-/

namespace QueryCanvas

/-- A table of the catalog has a column. -/
def Catalog.HasColumn (cat : Catalog) (table column : String) : Prop :=
  ∃ info, cat.lookup? table = some info ∧ ∃ col, info.column? column = some col

/-- A text is a letter or an underscore, then letters, digits and underscores. -/
def PlainIdentifier (s : String) : Prop :=
  ∃ c cs, s.toList = c :: cs ∧ (c.isAlpha ∨ c = '_') ∧ ∀ x ∈ cs, x.isAlphanum ∨ x = '_'

namespace Canvas

/-- A reference names a table on the canvas and a column that this table has in the catalog. -/
def Refers (cat : Catalog) (c : Canvas) (table column : String) : Prop :=
  table ∈ c.tables ∧ cat.HasColumn table column

/-- The filters with the first one connected to nothing. -/
def detached : List Filter → List Filter
  | [] => []
  | f :: fs => f.unconnected :: fs

variable {cat : Catalog} {c : Canvas} {t col : String} {v w : Value}

/-! ## References -/

/-- A loose value names a table on the canvas. -/
theorem requireTable_eq_ok : c.requireTable v = .ok t ↔ v = .text t ∧ t ∈ c.tables := by
  cases v with
  | text s =>
    by_cases hs : s ∈ c.tables
    · simp only [requireTable, List.contains_iff_mem, hs, if_true, Except.ok.injEq, Value.text.injEq]
      exact ⟨fun h => ⟨h, h ▸ hs⟩, fun h => h.1⟩
    · simp only [requireTable, List.contains_iff_mem, hs, if_false, reduceCtorEq, Value.text.injEq,
        false_iff, not_and]
      rintro rfl
      exact hs
  | _ => simp [requireTable]

/-- A column that is found by name has that name. -/
theorem columnOf?_eq_some {info : Table} {found : Column} (h : info.columnOf? w = some found) :
    w = .text found.name ∧ info.column? found.name = some found := by
  cases w with
  | text s =>
    have hfound : info.column? s = some found := h
    have hname : found.name = s := by simpa using List.find?_some hfound
    rw [hname]
    exact ⟨rfl, hfound⟩
  | _ => cases h

/-- **References.** Two loose values pass exactly if they name a table on the canvas and a column
that this table has in the catalog. -/
theorem requireColumn_eq_ok :
    c.requireColumn cat v w = .ok (t, col) ↔ v = .text t ∧ w = .text col ∧ Refers cat c t col := by
  simp only [requireColumn, bind_eq_ok]
  constructor
  · rintro ⟨s, hs, h⟩
    obtain ⟨rfl, hmem⟩ := requireTable_eq_ok.1 hs
    cases hinfo : cat.lookup? s with
    | none => simp [hinfo] at h
    | some info =>
      cases hcol : info.columnOf? w with
      | none => cases w <;> simp [hinfo, hcol] at h
      | some found =>
        simp only [hinfo, hcol, pure_eq_ok, Except.ok.injEq, Prod.mk.injEq] at h
        obtain ⟨rfl, rfl⟩ := h
        obtain ⟨rfl, hfound⟩ := columnOf?_eq_some hcol
        exact ⟨rfl, rfl, hmem, info, hinfo, found, hfound⟩
  · rintro ⟨rfl, rfl, hmem, info, hinfo, found, hfound⟩
    refine ⟨t, requireTable_eq_ok.2 ⟨rfl, hmem⟩, ?_⟩
    have hname : found.name = col := by simpa using List.find?_some hfound
    have hcol : info.columnOf? (.text col) = some found := hfound
    simp [hinfo, hcol, hname]

/-! ## Aliases -/

theorem isPlainIdentifier_iff {s : String} : isPlainIdentifier s = true ↔ PlainIdentifier s := by
  simp only [isPlainIdentifier, PlainIdentifier]
  cases s.toList with
  | nil => simp
  | cons c cs => simp [isIdentifierStart]

/-- An alias that is taken is a plain identifier. -/
theorem aliasOf_eq_ok {name : Option String} (h : aliasOf v = .ok name) :
    ∀ a, name = some a → PlainIdentifier a := by
  rintro a rfl
  cases v with
  | text s =>
    simp only [aliasOf] at h
    split at h
    · cases h
    · split at h
      · cases h
        exact isPlainIdentifier_iff.1 ‹_›
      · cases h
  | _ => simp [aliasOf] at h

/-! ## Names -/

/-- **A name** is taken from a text that is not blank, or from a torn one, and is trimmed. -/
theorem nameOf_eq_ok {name : Value} : nameOf v = .ok name ↔
    (∃ s, v = .text s ∧ Text.trim s ≠ "" ∧ name = .text (Text.trim s)) ∨ ∃ t, v = .torn t ∧ name = .torn t.trim := by
  constructor
  · intro h
    cases v with
    | text s =>
      simp only [nameOf] at h
      split at h
      · cases h
      · next hs => exact .inl ⟨s, rfl, hs, (Except.ok.inj h).symm⟩
    | torn t => exact .inr ⟨t, rfl, (Except.ok.inj h).symm⟩
    | _ => cases h
  · rintro (⟨s, rfl, hs, rfl⟩ | ⟨t, rfl, rfl⟩)
    · exact if_neg hs
    · rfl

/-- A name that is taken is not empty. -/
theorem truthy_of_nameOf {name : Value} (h : nameOf v = .ok name) : name.truthy = true := by
  obtain ⟨s, -, hs, rfl⟩ | ⟨t, -, rfl⟩ := nameOf_eq_ok.1 h
  · simpa [Value.truthy] using hs
  · rfl

/-! ## Removal by id -/

/-- **Removal by id.** It passes exactly if the value spells the id of an item, and takes away the
items of that id. -/
theorem withoutId_eq_ok {α : Type} {kind : PartKind} {idOf : α → String} {items rest : List α} :
    withoutId kind idOf v items = .ok rest ↔
      ∃ s, v = .text s ∧ (∃ a ∈ items, idOf a = s) ∧ rest = items.filter (idOf · != s) := by
  cases v with
  | text s =>
    have hrest : items.filter (fun a => (Value.text s).text? != some (idOf a)) =
        items.filter (idOf · != s) := by
      refine List.filter_congr fun a _ => ?_
      simp [Value.text?, bne, Bool.beq_comm]
    have hlen : (items.filter (idOf · != s)).length = items.length ↔ ¬∃ a ∈ items, idOf a = s := by
      simp [List.length_filter_eq_length_iff]
    simp only [withoutId, hrest, hlen]
    by_cases hs : ∃ a ∈ items, idOf a = s
    · rw [if_neg (not_not_intro hs), Except.ok.injEq]
      refine ⟨fun h => ⟨s, rfl, hs, h.symm⟩, ?_⟩
      rintro ⟨s', hs', -, h⟩
      rw [h, Value.text.inj hs']
    · rw [if_pos hs]
      refine ⟨fun h => (by cases h), ?_⟩
      rintro ⟨s', hs', hfound, -⟩
      rw [← Value.text.inj hs'] at hfound
      exact absurd hfound hs
  | _ =>
    have hall : ∀ a ∈ items, (none != some (idOf a)) = true := fun a _ => rfl
    simp [withoutId, Value.text?, List.filter_eq_self.2 hall]

/-! ## The first filter -/

theorem unconnected_of_isNone {f : Filter} (h : f.connective.isSome = false) : f.unconnected = f := by
  obtain ⟨id, table, column, o, u, k⟩ := f
  cases k with
  | none => rfl
  | some k => cases h

/-- **Rebuilding.** Filters whose operands pass their check are rebuilt, whatever stood before
them. -/
theorem detachFirst_eq_ok {fs : List Filter}
    (h : ∀ f ∈ fs, FilterValue.check f.operator f.value = .ok ()) : detachFirst fs = .ok (detached fs) := by
  cases fs with
  | nil => rfl
  | cons f fs =>
    have hf : f.unconnected.checked = .ok f.unconnected :=
      Filter.checked_eq_ok.2 ⟨h f List.mem_cons_self, rfl⟩
    by_cases hk : f.connective.isSome
    · simp [detachFirst, detached, hk, hf]
    · simp [detachFirst, detached, hk, unconnected_of_isNone]

/-! ## How checks refuse -/

section Refuses

variable {α β : Type}

/-- The kinds under which an edit is refused. -/
def editFaults : List FaultKind :=
  [.reference, .validation, .wrongType, .missingMethod]

/-- A check that is refused names one of the kinds of an edit. -/
def Refuses (x : Except EditError α) : Prop :=
  ∀ e, x = .error e → e.kind ∈ editFaults

theorem refuses_ok (a : α) : Refuses (.ok a) := failsOnly_ok a

theorem refuses_error {e : EditError} (h : e.kind ∈ editFaults) : Refuses (.error e : Except EditError α) :=
  failsOnly_error h

theorem refuses_bind {x : Except EditError α} {f : α → Except EditError β} (hx : Refuses x)
    (hf : ∀ a, Refuses (f a)) : Refuses (x >>= f) :=
  failsOnly_bind hx hf

theorem refuses_requireTable : Refuses (c.requireTable v) := by
  cases v with
  | text s =>
    simp only [requireTable]
    split
    · exact refuses_ok s
    · exact refuses_error (by simp [EditError.kind, editFaults])
  | _ => exact refuses_error (by simp [EditError.kind, editFaults])

theorem refuses_requireColumn : Refuses (c.requireColumn cat v w) := by
  refine refuses_bind refuses_requireTable fun t => ?_
  split
  · split
    · exact refuses_ok _
    · exact refuses_error (by simp [EditError.kind, editFaults])
    · exact refuses_error (by simp [EditError.kind, editFaults])
  · exact refuses_error (by simp [EditError.kind, editFaults])

theorem refuses_choose {what : String} {all : List α} {name : α → String} :
    Refuses (choose what all name v) := by
  simp only [choose]
  split
  · exact refuses_ok _
  · exact refuses_error (by simp [EditError.kind, editFaults])

theorem refuses_chooseOperator : Refuses (chooseOperator v) := by
  simp only [chooseOperator]
  split
  · exact refuses_ok _
  · exact refuses_error (by simp [EditError.kind, editFaults])

theorem refuses_connectiveOf : Refuses (connectiveOf v) := by
  cases v with
  | null => exact refuses_ok none
  | _ => exact refuses_bind refuses_choose fun k => refuses_ok (some k)

theorem refuses_aliasOf : Refuses (aliasOf v) := by
  cases v with
  | null => exact refuses_ok none
  | text s =>
    simp only [aliasOf]
    split
    · exact refuses_ok none
    · split
      · exact refuses_ok _
      · exact refuses_error (by simp [EditError.kind, editFaults])
  | _ => exact refuses_error (by simp [EditError.kind, editFaults])

theorem refuses_nameOf : Refuses (nameOf v) := by
  cases v with
  | text s =>
    simp only [nameOf]
    split
    · exact refuses_error (by simp [EditError.kind, editFaults])
    · exact refuses_ok _
  | torn t => exact refuses_ok _
  | _ => exact refuses_error (by simp [EditError.kind, editFaults])

theorem refuses_of_isInvalid {x : Except EditError α} (h : FailsOnly EditError.IsInvalid x) : Refuses x :=
  fun e he => by simp [show e.kind = .validation from h e he, editFaults]

theorem refuses_ofRaw {o : FilterOperator} : Refuses (FilterValue.ofRaw o v) :=
  refuses_of_isInvalid FilterValue.failsOnly_ofRaw

theorem refuses_checked {f : Filter} : Refuses f.checked :=
  refuses_of_isInvalid (failsOnly_bind FilterValue.failsOnly_check fun _ => failsOnly_ok f)

theorem refuses_withoutId {kind : PartKind} {idOf : α → String} {items : List α} :
    Refuses (withoutId kind idOf v items) := by
  simp only [withoutId]
  split
  · exact refuses_error (by simp [EditError.kind, editFaults])
  · exact refuses_ok _

theorem refuses_detachFirst {fs : List Filter} : Refuses (detachFirst fs) := by
  cases fs with
  | nil => exact refuses_ok []
  | cons f fs =>
    simp only [detachFirst]
    split
    · exact refuses_bind refuses_checked fun g => refuses_ok (g :: fs)
    · exact refuses_ok (f :: fs)

end Refuses

end Canvas

end QueryCanvas
