import QueryCanvas.Proofs.Canvas.Invariant
import QueryCanvas.Proofs.Sql.Clauses

/-!
# What a canvas compiles to

A statement says what its canvas says: it splits into the tokens of `canvasTokens` in every dialect,
whatever texts the filters hold and whatever the tables and columns are called. Nothing in a text or a
name is read as anything else. A canvas has no statement only where a number is too long.

* `reads_statement`: a statement is read as the canvas that it was made from.
* `compile_says_canvas`: so is what a reachable canvas compiles to.
* `compile_refuses_tooManyOnes`: a canvas that edits lead to and that has no statement.
-/

namespace QueryCanvas

namespace Sql

open Numeral Canvas

variable {d : Dialect} {cat : Catalog} {c : Canvas}

/-! ## Statements -/

/-- A table that is placed has a name. -/
theorem isName_of_contains {t : String} (hcat : IsNamed cat) (h : cat.contains t = true) : IsName t := by
  obtain ⟨info, hinfo⟩ := Option.isSome_iff_exists.1 h
  have hname : info.name = t := by simpa using List.find?_some hinfo
  exact hname ▸ (hcat info (List.mem_of_find?_eq_some hinfo)).1

theorem isName_of_refers {t col : String} (hcat : IsNamed cat) (h : Refers cat c t col) :
    IsName t ∧ IsName col := by
  obtain ⟨-, info, hinfo, found, hfound⟩ := h
  obtain ⟨htable, hcolumns⟩ := hcat info (List.mem_of_find?_eq_some hinfo)
  have hname : info.name = t := by simpa using List.find?_some hinfo
  have hcolumn : found.name = col := by simpa using List.find?_some hfound
  exact ⟨hname ▸ htable, hcolumn ▸ hcolumns found (List.mem_of_find?_eq_some hfound)⟩

/-- The select list of a well-formed canvas. -/
theorem entries_select (hc : WellFormed cat c) (hcat : IsNamed cat) :
    Entries d
      ((c.columns.map (fun s => SelectItem.column ⟨s.table, s.column⟩ s.aliasName)
        ++ c.aggregates.map fun a => SelectItem.aggregate a.function ⟨a.table, a.column⟩ a.aliasName).map
          (SelectItem.chars d))
      (selectTokens d c) := by
  rw [List.map_append, List.map_map, List.map_map]
  refine (entries_map fun s hs => ?_).append (entries_map fun a ha => ?_)
  · obtain ⟨ht, hcol⟩ := isName_of_refers hcat (hc.grounded.columns s hs)
    exact reads_selected ht hcol (hc.column_aliases s hs)
  · obtain ⟨ht, hcol⟩ := isName_of_refers hcat (hc.grounded.aggregates a ha)
    exact reads_aggregate ht hcol (hc.aggregate_aliases a ha)

/-- The conditions of a well-formed canvas, one for each filter. -/
theorem reads_filters {ks : List (Connective × Condition)}
    (hks : (c.filters.mapM fun f => do return (f.connective.getD .and, ← conditionOf cat f)) = .ok ks)
    (hc : WellFormed cat c) (hcat : IsNamed cat) (hplain : HasPlainOperands c) :
    List.Forall₂ (fun f k => k.1 = f.connective.getD .and ∧
      Reads d (k.2.chars d) (conditionTokens d cat f) isStop) c.filters ks := by
  have hall := (List.forall₂_and_left c.filters ks).2 ⟨fun _ hf => hf, mapM_eq_ok.1 hks⟩
  refine hall.imp fun f k h => ?_
  obtain ⟨hf, hk⟩ := h
  obtain ⟨k', hk', hpair⟩ := bind_eq_ok.1 hk
  cases hpair
  obtain ⟨ht, hcol⟩ := isName_of_refers hcat (hc.grounded.filters f hf)
  exact ⟨rfl, reads_condition hk' ht hcol (hc.shaped f hf) (hplain f hf)⟩

/-- **A statement** is read as the canvas that it was made from. -/
theorem reads_statement {s : Statement} (hs : statement? cat c = .ok (some s)) (hc : WellFormed cat c)
    (hcat : IsNamed cat) (hplain : HasPlainOperands c) :
    Reads d (s.chars d) (canvasTokens d cat c) isStop := by
  cases ht : c.tables with
  | nil => simp [statement?, ht] at hs
  | cons t ts =>
    simp only [statement?, ht, bind_eq_ok, liftM_eq_ok, pure_eq_ok, Except.ok.injEq, Option.some.injEq] at hs
    obtain ⟨ks, hks, l, hl, rfl⟩ := hs
    obtain rfl := writableLimit_eq_ok hl
    have hselect := entries_select (d := d) hc hcat
    have hfrom := reads_tableName (d := d) (isName_of_contains hcat (hc.tables_known t (by simp [ht])))
    have hwhere := entries_conditions (d := d) (reads_filters hks hc hcat hplain) hc.connected
    have hgroups : Entries d (c.groups.map fun g => ColumnRef.chars d ⟨g.table, g.column⟩) _ :=
      entries_map fun g hg =>
        (isName_of_refers hcat (hc.grounded.groups g hg)).elim reads_column
    have hsorts := entries_map fun s hs =>
      (isName_of_refers hcat (hc.grounded.sorts s hs)).elim (reads_sort (d := d))
    rw [Statement.chars, canvasTokens, ← intercalate_nil_left]
    refine Entries.spaced ?_ rfl rfl rfl
    simp only [Statement.clauses, canvasClauses, List.map_map, ht]
    refine .append (.append (.append (.append (.append ?_ ?_) ?_) ?_) ?_) ?_
    · exact .cons (reads_selectClause hselect) (.cons (hfrom.keyword (w := "FROM") rfl) .nil)
    · refine entries_map fun j hj => ?_
      obtain ⟨hleft, hright⟩ := hc.grounded.joins j hj
      exact reads_join (isName_of_refers hcat hleft) (isName_of_refers hcat hright)
    · exact entries_clause hwhere ((hwhere.spaced rfl rfl rfl).keyword (w := "WHERE") rfl)
    · exact entries_clause hgroups ((hgroups.commas.keyword (w := "BY") rfl).keyword (w := "GROUP") rfl)
    · exact entries_clause hsorts ((hsorts.commas.keyword (w := "BY") rfl).keyword (w := "ORDER") rfl)
    · exact entries_limit c.limit

/-! ## Compiling -/

/-- A canvas with a table compiles exactly if its numbers fit, also over another catalog than its own. -/
theorem compile_given_of_shaped (hshaped : ∀ f ∈ c.filters, f.value.shape = f.operator.shape)
    (htables : c.tables ≠ []) : (∃ sql, compile d cat c = .ok sql) ↔ NumbersFit cat c := by
  rw [← statement_given_iff htables hshaped, compile, exists_bind_eq_ok]
  refine exists_congr fun s => and_iff_left_of_imp fun _ => ?_
  cases s with
  | none => exact ⟨_, rfl⟩
  | some s => exact ⟨_, rfl⟩

/-- **A canvas with a table compiles** exactly if its numbers fit. -/
theorem compile_fits_iff (hc : WellFormed cat c) (htables : c.tables ≠ []) :
    (∃ sql, compile d cat c = .ok sql) ↔ NumbersFit cat c :=
  compile_given_of_shaped hc.shaped htables

/-- With plain operands it compiles exactly if it is not overlong. -/
theorem compile_given_iff (hc : WellFormed cat c) (htables : c.tables ≠ []) (hplain : HasPlainOperands c) :
    (∃ sql, compile d cat c = .ok sql) ↔ ¬IsOverlong cat c :=
  (compile_fits_iff hc htables).trans (numbersFit_iff hplain)

/-- What a canvas with a table compiles to is a statement of it. -/
theorem compile_eq_ok {sql : String} (htables : c.tables ≠ []) (h : compile d cat c = .ok sql) :
    ∃ s, statement? cat c = .ok (some s) ∧ sql.toList = s.chars d := by
  obtain ⟨s, hs, hsql⟩ := bind_eq_ok.1 h
  cases s with
  | none =>
    cases ht : c.tables with
    | nil => exact absurd ht htables
    | cons t ts =>
      simp only [statement?, ht, bind_eq_ok, liftM_eq_ok, pure_eq_ok, Except.ok.injEq, reduceCtorEq, and_false,
        exists_const] at hs
  | some s =>
    refine ⟨s, hs, ?_⟩
    rw [← Except.ok.inj hsql, String.toList_ofList]

/-- The first piece, and every later one behind a separator. -/
theorem separated_cons (separator : String) (p : List Char) (ps : List (List Char)) :
    separated separator (p :: ps) = p ++ ps.flatMap (separator.toList ++ ·) := by
  induction ps generalizing p with
  | nil => simp [separated]
  | cons q ps ih =>
    have hq := ih q
    rw [separated] at hq ⊢
    rw [List.intercalate_cons_cons, hq, List.flatMap_cons, List.append_assoc, List.append_assoc]

/-- A statement starts with its first keyword and its select list. -/
theorem chars_eq_select (d : Dialect) (s : Statement) : ∃ rest, s.chars d = "SELECT ".toList ++
    ((if s.items.isEmpty then ['*'] else separated ", " (s.items.map (SelectItem.chars d))) ++ rest) := by
  rw [Statement.chars, Statement.clauses, List.append_assoc, List.append_assoc, List.append_assoc,
    List.append_assoc, List.cons_append, separated_cons, List.append_assoc]
  exact ⟨_, rfl⟩

/-- What a canvas with a table compiles to can be executed. -/
theorem isExecutable_of_compile {sql : String} (htables : c.tables ≠ []) (h : compile d cat c = .ok sql) :
    isExecutable sql = true := by
  obtain ⟨s, -, hchars⟩ := compile_eq_ok htables h
  obtain ⟨rest, hselect⟩ := chars_eq_select d s
  have hhead : sql.toList.head? = some 'S' := by
    rw [hchars, hselect]
    rfl
  simp only [isExecutable, bne_iff_ne, ne_eq]
  rintro rfl
  exact absurd hhead (by decide)

/-- **A statement says what its canvas says.** Whatever edits led to a canvas with a table, in every dialect
its statement splits into the tokens of the canvas: each table, column and alias is one name, and each text
one text. There is no statement exactly where a whole number has too many digits. -/
theorem compile_says_canvas {draft : Draft} (h : Reachable cat draft) (htables : draft.canvas.tables ≠ [])
    (hcat : IsNamed cat) (hplain : HasPlainOperands draft.canvas) (d : Dialect) :
    (¬IsOverlong cat draft.canvas → ∃ sql, compile d cat draft.canvas = .ok sql ∧
      lex d sql.toList = some (canvasTokens d cat draft.canvas)) ∧
    (IsOverlong cat draft.canvas → ∃ e, compile d cat draft.canvas = .error e) := by
  have hc := h.sound.toWellFormed
  have hgiven := compile_given_iff (d := d) hc htables hplain
  constructor
  · intro hshort
    obtain ⟨sql, hsql⟩ := hgiven.2 hshort
    obtain ⟨s, hs, hchars⟩ := compile_eq_ok htables hsql
    refine ⟨sql, hsql, ?_⟩
    rw [hchars]
    exact (reads_statement hs hc hcat hplain).lex_eq
  · intro hlong
    rw [exists_error_iff, hgiven]
    exact not_not_intro hlong

/-- A filter that compares with a text that tries to leave its quotes. -/
def quoting : Edit :=
  .addFilter (.text "customers") (.text "name") (.text "equals") (.text "\\' OR 1=1 -- ") .null

/-- The draft that it leads to. -/
def quotingDraft : Draft :=
  performAll shop (shopEdits ++ [quoting]) (opened (.text "Q") .null .fresh)

theorem filters_quotingDraft : quotingDraft.canvas.filters =
    [⟨"id-4", "customers", "name", .like, .scalar (.text "Ann"), none⟩,
     ⟨"id-5", "customers", "name", .equals, .scalar (.text "\\' OR 1=1 -- "), some .and⟩] := by
  cbv

theorem isNamed_shop : IsNamed shop := by
  simp [IsNamed, IsName, shop, plainTable]

/-- The text stays one text, also where backslashes escape. -/
theorem compile_quotingDraft : ∃ sql, compile .mysql shop quotingDraft.canvas = .ok sql ∧
    lex .mysql sql.toList = some
      [.keyword "select", .name "customers", .sign ".", .name "name", .keyword "as", .name "who",
       .keyword "from", .name "customers",
       .keyword "where", .name "customers", .sign ".", .name "name", .name "ilike", .text "%Ann%",
       .keyword "and", .name "customers", .sign ".", .name "name", .sign "=", .text "\\' OR 1=1 -- "] := by
  have hreach : Reachable shop quotingDraft :=
    reachable_performAll (shopEdits ++ [quoting]) (.text "Q") .null .fresh
  have hplain : HasPlainOperands quotingDraft.canvas := by
    rw [HasPlainOperands, filters_quotingDraft]
    simp [FilterValue.operands, IsPlain]
  have hshort : ¬IsOverlong shop quotingDraft.canvas := by
    have hlimit : quotingDraft.canvas.limit = none := by decide +kernel
    rw [IsOverlong, filters_quotingDraft, hlimit]
    simp [IsOverlongFilter, FilterValue.operands, IsTooLong, FilterOperator.isNumericComparison]
  obtain ⟨sql, hsql, htokens⟩ :=
    (compile_says_canvas hreach (by decide +kernel) isNamed_shop hplain .mysql).1 hshort
  refine ⟨sql, hsql, htokens.trans (congrArg some ?_)⟩
  decide +kernel

/-- A draft with a filter that compares a numeric column by size with a text. -/
def sizingDraft (s : String) : Draft :=
  performAll shop
    [.addTable (.text "orders"),
     .addFilter (.text "orders") (.text "total") (.text "greater_than") (.text s) .null]
    (opened (.text "Q") .null .fresh)

theorem filters_sizingDraft (s : String) : (sizingDraft s).canvas.filters =
    [⟨"id-2", "orders", "total", .greaterThan, .scalar (.text s), none⟩] := by
  cbv

theorem tables_sizingDraft (s : String) : (sizingDraft s).canvas.tables = ["orders"] := by
  cbv

theorem spellsTooLong_ones {n : Nat} (h : maxDigits < n) :
    SpellsTooLong (String.ofList (List.replicate n '1')) := by
  have hone : ∀ c ∈ List.replicate n '1', c = '1' := fun c hc => List.eq_of_mem_replicate hc
  refine ⟨[], List.replicate n '1', ?_, by simp, fun c hc => ?_, by simpa using h⟩
  · rw [String.toList_ofList, List.nil_append]
    refine Text.trimChars_eq_self fun c hc => ?_
    rw [hone c hc]
    decide
  · rw [hone c hc]
    decide

/-- Ones, one more than the digits that are read. -/
def tooManyOnes : String :=
  String.ofList (List.replicate 4301 '1')

/-- **No statement** for a filter that compares with so many digits, although nothing refuses the filter. -/
theorem compile_refuses_tooManyOnes :
    Reachable shop (sizingDraft tooManyOnes) ∧ (sizingDraft tooManyOnes).canvas.tables ≠ [] ∧ IsNamed shop ∧
      HasPlainOperands (sizingDraft tooManyOnes).canvas ∧
      ∀ d, ¬∃ sql, compile d shop (sizingDraft tooManyOnes).canvas = .ok sql ∧
        lex d sql.toList = some (canvasTokens d shop (sizingDraft tooManyOnes).canvas) := by
  have hreach : Reachable shop (sizingDraft tooManyOnes) := reachable_performAll _ (.text "Q") .null .fresh
  have hne : (sizingDraft tooManyOnes).canvas.tables ≠ [] := by simp [tables_sizingDraft]
  have hplain : HasPlainOperands (sizingDraft tooManyOnes).canvas := by
    rw [HasPlainOperands, filters_sizingDraft]
    simp [FilterValue.operands, IsPlain]
  have hlong : IsOverlong shop (sizingDraft tooManyOnes).canvas := by
    rw [IsOverlong, filters_sizingDraft]
    refine .inl ⟨_, List.mem_singleton_self _, .inr ⟨rfl, ?_, _, rfl, spellsTooLong_ones (by decide)⟩⟩
    decide +kernel
  refine ⟨hreach, hne, isNamed_shop, hplain, fun d hsql => ?_⟩
  obtain ⟨sql, hsql, -⟩ := hsql
  exact (compile_given_iff hreach.sound.toWellFormed hne hplain).1 ⟨sql, hsql⟩ hlong

end Sql

end QueryCanvas
