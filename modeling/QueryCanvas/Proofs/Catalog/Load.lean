import Mathlib.Data.List.Induction
import Mathlib.Data.List.Nodup
import QueryCanvas.Catalog.Load
import QueryCanvas.Proofs.Outcome

/-!
# What is loaded

Loading in batches gives the catalog that asking for one table after the other gives, whatever the size of
the batches is. Each listed name gives a table or a warning, in the order in which the names are first
listed, and which of the two it gives depends on nothing but the answer for that name.

* `distinctNames_eq`: the names that are asked for, told apart from how they are gathered.
* `oneByOne`: the catalog that a list of names gives, as a reference. `addBatch_oneByOne` is one batch,
  `foldlM_oneByOne` all of them.
* `load_oneByOne`: a loading gives that catalog.
-/

namespace QueryCanvas

namespace Catalog

variable {α : Type} {reader : SchemaReader} {entries : List Value} {names done : List Value} {size : Nat}
  {c : Catalog} {t : Table}

/-! ## Batches -/

/-- Nothing is lost by cutting. -/
theorem flatten_chunks (h : 0 < size) (xs : List α) : (chunks size xs).flatten = xs := by
  fun_induction chunks size xs with
  | case1 xs hstop =>
    rcases hstop with rfl | rfl
    · rfl
    · exact absurd h (Nat.lt_irrefl 0)
  | case2 xs hgo ih => rw [List.flatten_cons, ih, List.take_append_drop]

/-- No batch is empty, and none is too long. -/
theorem forall_mem_chunks (size : Nat) (xs : List α) :
    ∀ batch ∈ chunks size xs, batch ≠ [] ∧ batch.length ≤ size := by
  fun_induction chunks size xs with
  | case1 xs hstop => simp
  | case2 xs hgo ih =>
    rw [not_or] at hgo
    refine List.forall_mem_cons.2 ⟨⟨?_, List.length_take_le _ _⟩, ih⟩
    rw [ne_eq, List.take_eq_nil_iff, not_or]
    exact ⟨hgo.2, hgo.1⟩

theorem foldl_max_le {ns : List Nat} {m : Nat} (hm : m ≤ size) (h : ∀ n ∈ ns, n ≤ size) :
    ns.foldl max m ≤ size := by
  induction ns generalizing m with
  | nil => exact hm
  | cons n ns ih =>
    obtain ⟨hn, hns⟩ := List.forall_mem_cons.1 h
    exact ih (by omega) hns

/-- A setting that is not negative lets some tables be asked for. -/
theorem batchSizeOf_pos {setting : Option Int} (h : ∀ n, setting = some n → 0 ≤ n) :
    0 < batchSizeOf setting := by
  cases setting with
  | none => decide
  | some n =>
    have hn := h n rfl
    unfold batchSizeOf
    dsimp only
    split
    · decide
    · omega

/-! ## Names -/

/-- The name that a field holds: a text that is not empty. -/
def nameIn? : Option Value → Option String
  | some (.text s) => if s = "" then none else some s
  | _ => none

/-- The name that an entry of a listing gives: a text is one, and a record has one in its field
`table_name` or else in its field `name`. -/
def listedName? : Value → Option String
  | .text s => nameIn? (some (.text s))
  | .record fs => (nameIn? (Value.field? fs "table_name")).or (nameIn? (Value.field? fs "name"))
  | _ => none

/-- A field that holds a text, if it holds anything that counts. -/
def HoldsText (field : Option Value) : Prop :=
  ∀ v, field = some v → v.truthy = true → ∃ s, v = .text s

/-- An entry whose name is a text, if it has one. -/
def NamedByText : Value → Prop
  | .record fs =>
    HoldsText (Value.field? fs "table_name") ∧
      (nameIn? (Value.field? fs "table_name") = none → HoldsText (Value.field? fs "name"))
  | _ => True

theorem nameIn?_of_holdsText {field : Option Value} (h : HoldsText field) :
    nameIn? field = none ∧ (field.getD .null).truthy = false ∨
      ∃ s, nameIn? field = some s ∧ field.getD .null = .text s ∧ (Value.text s).truthy = true := by
  cases field with
  | none => exact .inl ⟨rfl, rfl⟩
  | some v =>
    by_cases hv : v.truthy = true
    · obtain ⟨s, rfl⟩ := h v rfl hv
      have hs : s ≠ "" := by simpa [Value.truthy] using hv
      exact .inr ⟨s, if_neg hs, rfl, hv⟩
    · refine .inl ⟨?_, Bool.eq_false_iff.2 hv⟩
      cases v with
      | text s =>
        have hs : s = "" := by simpa [Value.truthy] using hv
        exact if_pos hs
      | _ => rfl

/-- What an entry gives: nothing that counts, or the text that is its name. -/
theorem entryName_cases {entry : Value} (h : NamedByText entry) :
    listedName? entry = none ∧ (entryName entry).truthy = false ∨
      ∃ s, listedName? entry = some s ∧ entryName entry = .text s ∧ (Value.text s).truthy = true := by
  cases entry with
  | text s =>
    have hfield : HoldsText (some (.text s)) := fun v hv _ => ⟨s, (Option.some.inj hv).symm⟩
    exact nameIn?_of_holdsText hfield
  | record fs =>
    have hname : entryName (.record fs) = ((Value.field? fs "table_name").getD .null).orElse
        ((Value.field? fs "name").getD .null) := rfl
    rw [hname, listedName?, Value.orElse]
    rcases nameIn?_of_holdsText h.1 with ⟨hnone, hfalse⟩ | ⟨s, hs, hval, htrue⟩
    · rw [hnone, Option.none_or, if_neg (by simp [hfalse])]
      exact nameIn?_of_holdsText (h.2 hnone)
    · rw [hs, hval, if_pos htrue]
      exact .inr ⟨s, rfl, rfl, htrue⟩
  | _ => exact .inl ⟨rfl, rfl⟩

/-- The names of a listing: each once, in the order in which they are first listed. -/
def listed (entries : List Value) : List String :=
  (entries.filterMap listedName?).eraseDups

theorem eraseDups_snoc (ss : List String) (s : String) :
    (ss ++ [s]).eraseDups = if s ∈ ss then ss.eraseDups else ss.eraseDups ++ [s] := by
  rw [List.eraseDups_append, List.removeAll]
  by_cases hs : s ∈ ss <;> simp [hs, List.eraseDups_cons]

theorem listed_snoc (entries : List Value) (entry : Value) : listed (entries ++ [entry]) =
    match listedName? entry with
    | some s => if s ∈ listed entries then listed entries else listed entries ++ [s]
    | none => listed entries := by
  unfold listed
  cases hs : listedName? entry with
  | none => simp [hs]
  | some s =>
    have hsnoc : (entries ++ [entry]).filterMap listedName? = entries.filterMap listedName? ++ [s] := by
      simp [hs]
    rw [hsnoc, eraseDups_snoc]
    simp only [List.mem_eraseDups]

/-- **The names that are asked for** are those of the listing. -/
theorem distinctNames_eq (h : ∀ entry ∈ entries, NamedByText entry) :
    distinctNames entries = (listed entries).map .text := by
  induction entries using List.reverseRecOn with
  | nil => rfl
  | append_singleton es e ih =>
    obtain ⟨hes, he⟩ := List.forall_mem_append.1 h
    have ih := ih hes
    unfold distinctNames at ih ⊢
    rw [List.map_append, List.foldl_append, ih, listed_snoc]
    simp only [List.map_cons, List.map_nil, List.foldl_cons, List.foldl_nil]
    rcases entryName_cases (List.forall_mem_singleton.1 he) with ⟨hnone, hfalse⟩ | ⟨s, hs, hval, htrue⟩
    · simp [hnone, hfalse]
    · have hany : ((listed es).map Value.text).any (sameName (.text s)) = decide (s ∈ listed es) := by
        rw [List.any_map, ← List.contains_eq_mem, List.contains_eq_any_beq]
        rfl
      rw [hs, hval, htrue, hany]
      by_cases hmem : s ∈ listed es <;> simp [hmem]

/-- No name is asked for twice. -/
theorem nodup_listed (entries : List Value) : (listed entries).Nodup := by
  induction entries using List.reverseRecOn with
  | nil => exact List.nodup_nil
  | append_singleton es e ih =>
    rw [listed_snoc]
    cases listedName? e with
    | none => exact ih
    | some s =>
      dsimp only
      split
      next => exact ih
      next hnew =>
        refine List.nodup_append.2 ⟨ih, List.nodup_singleton s, fun a ha b hb => ?_⟩
        rw [List.mem_singleton.1 hb]
        exact fun hab => hnew (hab ▸ ha)

/-! ## Tables -/

/-- A name repeats itself unless all are distinct and none was seen. -/
theorem firstRepeated?_eq_none {seen ss : List String} :
    firstRepeated? seen ss = none ↔ ss.Nodup ∧ ∀ s ∈ ss, s ∉ seen := by
  induction ss generalizing seen with
  | nil => simp [firstRepeated?]
  | cons s ss ih =>
    unfold firstRepeated?
    by_cases hs : s ∈ seen
    · simp [hs]
    · rw [if_neg (by simpa using hs), ih, List.nodup_cons, List.forall_mem_cons]
      constructor
      · rintro ⟨hss, hseen⟩
        refine ⟨⟨fun hmem => hseen s hmem List.mem_cons_self, hss⟩, hs, fun x hx hmem => ?_⟩
        exact hseen x hx (List.mem_cons_of_mem s hmem)
      · rintro ⟨⟨hnew, hss⟩, -, hseen⟩
        refine ⟨hss, fun x hx hmem => ?_⟩
        rcases List.mem_cons.1 hmem with rfl | hmem
        · exact hnew hx
        · exact hseen x hx hmem

theorem ofColumns_eq_ok {name : String} {columns : List Column} :
    Table.ofColumns name columns = .ok t ↔ (columns.map (·.name)).Nodup ∧ t = ⟨name, columns⟩ := by
  unfold Table.ofColumns
  cases hrep : firstRepeated? [] (columns.map (·.name)) with
  | none =>
    have hdistinct := (firstRepeated?_eq_none.1 hrep).1
    simp [hdistinct, eq_comm]
  | some s =>
    have hnot : ¬(columns.map (·.name)).Nodup := fun hdistinct => by
      rw [firstRepeated?_eq_none.2 ⟨hdistinct, by simp⟩] at hrep
      cases hrep
    simp [hnot]

/-- A table is read from its rows: one column a row, in the order of the rows, no two of one name. -/
theorem ofRows_eq_ok {name : String} {rows : Value} : Table.ofRows name rows = .ok t ↔
    ∃ entries columns, entriesOf? rows = some entries ∧ entries.mapM Column.ofRow = .ok columns ∧
      (columns.map (·.name)).Nodup ∧ t = ⟨name, columns⟩ := by
  unfold Table.ofRows
  cases entriesOf? rows with
  | none => simp
  | some entries => simp [bind_eq_ok, ofColumns_eq_ok]

theorem loadTable_of_rows {name rows : Value} (hrows : reader.rows name = .ok rows) (hnull : rows ≠ .null) :
    loadTable reader name = (Table.ofRows name.toText rows).mapError SchemaError.fault := by
  unfold loadTable
  rw [hrows]
  cases rows with
  | null => exact absurd rfl hnull
  | _ => rfl

/-- **The table of a name** is what the rows that are answered for it describe. -/
theorem loadTable_eq_ok {name : Value} : loadTable reader name = .ok t ↔
    ∃ rows, reader.rows name = .ok rows ∧ rows ≠ .null ∧ Table.ofRows name.toText rows = .ok t := by
  cases hrows : reader.rows name with
  | error f => simp [loadTable, hrows]
  | ok rows =>
    by_cases hnull : rows = .null
    · subst hnull
      simp [loadTable, hrows]
    · rw [loadTable_of_rows hrows hnull, mapError_eq_ok]
      simp [hnull]

theorem name_loadTable {name : Value} (h : loadTable reader name = .ok t) : t.name = name.toText := by
  obtain ⟨rows, -, -, hrows⟩ := loadTable_eq_ok.1 h
  obtain ⟨entries, columns, -, -, -, rfl⟩ := ofRows_eq_ok.1 hrows
  rfl

/-- A reader that is not called off. -/
def Heeds (reader : SchemaReader) : Prop :=
  ∀ name f, reader.rows name = .error f → f.kind ≠ .abandoned

theorem fault_ne_abandoned (e : SchemaError) : e.fault.kind ≠ .abandoned := by
  cases e <;> nofun

theorem Heeds.loadTable (h : Heeds reader) {name : Value} {f : Fault} (hf : loadTable reader name = .error f) :
    f.kind ≠ .abandoned := by
  cases hrows : reader.rows name with
  | error f' =>
    simp only [Catalog.loadTable, hrows, Except.error.injEq] at hf
    exact hf ▸ h name f' hrows
  | ok rows =>
    by_cases hnull : rows = .null
    · subst hnull
      simp only [Catalog.loadTable, hrows, Except.error.injEq] at hf
      exact hf ▸ fault_ne_abandoned _
    · rw [loadTable_of_rows hrows hnull] at hf
      cases htable : Table.ofRows name.toText rows with
      | ok t =>
        rw [htable] at hf
        cases hf
      | error e =>
        rw [htable] at hf
        cases hf
        exact fault_ne_abandoned e

theorem addAnswer_of_error {name : Value} {f : Fault} (h : f.kind ≠ .abandoned) :
    c.addAnswer name (.error f) = .ok { c with warnings := c.warnings ++ [⟨name, f.reason⟩] } := by
  simp [addAnswer, h]

/-- The warning that a name gives instead of a table. -/
def warningOf? (reader : SchemaReader) (name : Value) : Option Warning :=
  match loadTable reader name with
  | .ok _ => none
  | .error f => some ⟨name, f.reason⟩

/-- **The catalog of names**, asked for one after the other: the tables of those that give one, and a warning
for each of the others. -/
def oneByOne (reader : SchemaReader) (names : List Value) : Catalog where
  tables := names.filterMap fun name => (loadTable reader name).toOption
  warnings := names.filterMap (warningOf? reader)

/-- One batch behind what came before. -/
theorem addBatch_oneByOne (h : Heeds reader) (done batch : List Value) :
    (oneByOne reader done).addBatch (answersOf reader batch) = .ok (oneByOne reader (done ++ batch)) := by
  induction batch generalizing done with
  | nil => simp [addBatch, answersOf]
  | cons name batch ih =>
    have hsplit : done ++ name :: batch = (done ++ [name]) ++ batch := by simp
    have hone : (oneByOne reader done).addAnswer name (Catalog.loadTable reader name) =
        .ok (oneByOne reader (done ++ [name])) := by
      cases hload : Catalog.loadTable reader name with
      | ok t => simp [addAnswer, oneByOne, warningOf?, hload]
      | error f =>
        rw [addAnswer_of_error (h.loadTable hload)]
        simp [oneByOne, warningOf?, hload]
    rw [hsplit, ← ih]
    simp only [addBatch, answersOf, List.map_cons, List.foldlM_cons, hone, ok_bind]

/-- All batches, one behind the other. -/
theorem foldlM_oneByOne (h : Heeds reader) (done : List Value) (batches : List (List Value)) :
    batches.foldlM (fun c batch => c.addBatch (answersOf reader batch)) (oneByOne reader done) =
      .ok (oneByOne reader (done ++ batches.flatten)) := by
  induction batches generalizing done with
  | nil => simp
  | cons batch batches ih =>
    rw [List.foldlM_cons, addBatch_oneByOne h, ok_bind, ih, List.flatten_cons, List.append_assoc]

/-- The tables have the names that give one. -/
theorem tableNames_oneByOne (names : List String) : (oneByOne reader (names.map .text)).tableNames =
    names.filter fun s => (loadTable reader (.text s)).toOption.isSome := by
  simp only [tableNames, oneByOne]
  induction names with
  | nil => rfl
  | cons s names ih =>
    cases hload : loadTable reader (.text s) with
    | ok t =>
      have hname : t.name = s := name_loadTable hload
      rw [List.map_cons, List.filterMap_cons, hload, List.filter_cons, hload]
      simp only [toOption_ok, List.map_cons, hname, Option.isSome_some, if_true, ih]
    | error f =>
      rw [List.map_cons, List.filterMap_cons, hload, List.filter_cons, hload]
      simp only [toOption_error, Option.isSome_none, Bool.false_eq_true, if_false, ih]

theorem lookup?_oneByOne_of_not_mem {names : List String} {s : String} (h : s ∉ names) :
    (oneByOne reader (names.map .text)).lookup? s = none := by
  rw [lookup?, List.find?_eq_none]
  intro t ht hname
  have hmem : t.name ∈ (oneByOne reader (names.map .text)).tableNames := List.mem_map_of_mem ht
  rw [tableNames_oneByOne] at hmem
  exact h (eq_of_beq hname ▸ List.mem_of_mem_filter hmem)

/-- **What is found under a name** is the table of that name, if it gives one. -/
theorem lookup?_oneByOne {names : List String} (hnames : names.Nodup) {s : String} (hs : s ∈ names) :
    (oneByOne reader (names.map .text)).lookup? s = (loadTable reader (.text s)).toOption := by
  induction names with
  | nil => cases hs
  | cons n names ih =>
    obtain ⟨hnew, hrest⟩ := List.nodup_cons.1 hnames
    have hcons : (oneByOne reader ((n :: names).map .text)).lookup? s =
        (((loadTable reader (.text n)).toOption.toList ++ (oneByOne reader (names.map .text)).tables).find?
          (·.name == s)) := by
      cases hload : (loadTable reader (.text n)).toOption <;> simp [lookup?, oneByOne, hload]
    rw [hcons, List.find?_append]
    by_cases hn : n = s
    · subst hn
      have hnone : (oneByOne reader (names.map .text)).tables.find? (·.name == n) = none :=
        lookup?_oneByOne_of_not_mem hnew
      rw [hnone]
      cases hload : loadTable reader (.text n) with
      | ok t =>
        have hname : t.name = n := name_loadTable hload
        simp [hname]
      | error f => simp
    · have hfirst : ((loadTable reader (.text n)).toOption.toList).find? (·.name == s) = none := by
        cases hload : loadTable reader (.text n) with
        | ok t =>
          have hname : t.name = n := name_loadTable hload
          simp [hname, hn]
        | error f => simp
      rw [hfirst, Option.none_or]
      exact ih hrest ((List.mem_cons.1 hs).resolve_left fun h => hn h.symm)

/-- **What is warned of** under a name is the fault for which it gives no table. -/
theorem mem_warnings_oneByOne {names : List String} {s reason : String} (hs : s ∈ names) :
    ⟨.text s, reason⟩ ∈ (oneByOne reader (names.map .text)).warnings ↔
      ∃ f, loadTable reader (.text s) = .error f ∧ f.reason = reason := by
  simp only [oneByOne, List.filterMap_map, List.mem_filterMap, Function.comp_apply]
  constructor
  · rintro ⟨n, hn, hw⟩
    unfold warningOf? at hw
    cases hload : loadTable reader (.text n) with
    | ok t => simp [hload] at hw
    | error f =>
      simp only [hload, Option.some.injEq, Warning.mk.injEq, Value.text.injEq] at hw
      exact ⟨f, hw.1 ▸ hload, hw.2⟩
  · rintro ⟨f, hload, hreason⟩
    exact ⟨s, hs, by simp [warningOf?, hload, hreason]⟩

/-- A catalog of distinct names is handed out as it is. -/
theorem built_oneByOne {names : List String} (h : names.Nodup) :
    (oneByOne reader (names.map .text)).built = .ok (oneByOne reader (names.map .text)) := by
  have hnone : firstRepeated? [] (oneByOne reader (names.map .text)).tableNames = none := by
    rw [firstRepeated?_eq_none, tableNames_oneByOne]
    exact ⟨h.filter _, by simp⟩
  unfold tableNames at hnone
  unfold built ofTables
  rw [hnone]

/-! ## Loading -/

theorem listedNames_eq (hlist : reader.listing = .ok (.list entries))
    (hnamed : ∀ entry ∈ entries, NamedByText entry) :
    listedNames reader = .ok ((listed entries).map .text) := by
  have horelse : (Value.list entries).orElse (.list []) = .list entries := by
    cases entries <;> rfl
  simp only [listedNames, hlist, pure_eq_ok, ok_bind, horelse, entriesOf?, distinctNames_eq hnamed]

/-- **A loading in batches** gives the catalog of the names, asked for one after the other. -/
theorem load_oneByOne (hlist : reader.listing = .ok (.list entries))
    (hnamed : ∀ entry ∈ entries, NamedByText entry) (hheeds : Heeds reader) {setting : Option Int}
    (hsetting : ∀ n, setting = some n → 0 ≤ n) :
    ∃ report, load reader setting = .ok report ∧
      report.catalog = oneByOne reader ((listed entries).map .text) ∧
      report.requested = (listed entries).map .text ∧ report.inFlight ≤ batchSizeOf setting := by
  have hflat := flatten_chunks (batchSizeOf_pos hsetting) ((listed entries).map Value.text)
  have hbatches := foldlM_oneByOne hheeds []
    (chunks (batchSizeOf setting) ((listed entries).map Value.text))
  rw [hflat, List.nil_append] at hbatches
  have hempty : oneByOne reader [] = empty := rfl
  rw [hempty] at hbatches
  simp only [load, listedNames_eq hlist hnamed, ok_bind, hbatches, built_oneByOne (nodup_listed entries),
    hflat, pure_eq_ok, Except.ok.injEq, exists_eq_left', true_and]
  refine foldl_max_le (Nat.zero_le _) fun n hn => ?_
  obtain ⟨batch, hbatch, rfl⟩ := List.mem_map.1 hn
  exact (forall_mem_chunks _ _ batch hbatch).2

end Catalog

end QueryCanvas
