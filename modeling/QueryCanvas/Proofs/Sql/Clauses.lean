import QueryCanvas.Proofs.Canvas.WellFormed
import QueryCanvas.Proofs.Sql.Magnitude
import QueryCanvas.Proofs.Sql.Writable

/-!
# Clauses and their tokens

Each part of a statement is read as the tokens of its part of the canvas: one lemma for each kind of value,
condition and clause. A name must not have a line break at its end, and a value must be plain.

* `reads_column`, `reads_literal`: names and values.
* `reads_condition`: the condition of a filter.
* `reads_selectClause`, `reads_join`, `entries_conditions`, `entries_clause`, `entries_limit`: the clauses.
-/

namespace QueryCanvas

namespace Sql

open Numeral Canvas

variable {d : Dialect} {cat : Catalog} {f : Filter} {v : Value} {n : String} {p : List Char} {ts : List Token}

/-! ## Names and values -/

theorem reads_tableName (h : IsName n) : Reads d (nameChars d n) [.name n] isStop :=
  (reads_name h).entry (by cases d <;> decide)

theorem reads_column {t col : String} (ht : IsName t) (hcol : IsName col) :
    Reads d (ColumnRef.chars d ⟨t, col⟩) (columnTokens t col) isStop := by
  have hdot := (reads_tableName (d := d) hcol).sign (c := '.') (by decide)
  exact (reads_name ht).append hdot (by cases d <;> decide)

/-- A plain identifier is not empty and does not end with a line break. -/
theorem isName_of_plainIdentifier {a : String} (h : PlainIdentifier a) : a ≠ "" ∧ IsName a := by
  obtain ⟨c, cs, hchars, hc, hcs⟩ := h
  refine ⟨?_, fun hlast => ?_⟩
  · rintro rfl
    cases hchars
  · have hmem := List.mem_of_getLast? hlast
    rw [hchars] at hmem
    rcases List.mem_cons.1 hmem with rfl | hmem
    · exact absurd hc (by decide)
    · exact absurd (hcs _ hmem) (by decide)

/-- An entry with its alias, if it has one. -/
theorem Reads.aliased {aliasName : Option String} (h : Reads d p ts isStop)
    (halias : ∀ a, aliasName = some a → PlainIdentifier a) :
    Reads d (p ++ aliasChars d aliasName) (ts ++ aliasTokens d aliasName) isStop := by
  cases aliasName with
  | none => simpa [aliasChars, aliasTokens] using h
  | some a =>
    obtain ⟨hne, hname⟩ := isName_of_plainIdentifier (halias a rfl)
    have has : Reads d (' ' :: ("AS".toList ++ ' ' :: nameChars d a)) [.ofWord d "AS", .name a] isStop :=
      ((reads_tableName hname).keyword rfl).blank
    rw [aliasChars, if_neg hne]
    exact h.append has rfl

theorem reads_numberText {s : String} (h : IsNumeral s.toList) : Reads d s.toList [.numeral s] isStop := by
  have hread := reads_numeral (d := d) h
  rw [String.ofList_toList] at hread
  exact hread.entry (by decide)

theorem reads_textLiteral (cs : List Char) : Reads d (textLiteral d cs) [.text (String.ofList cs)] isStop :=
  (reads_text cs).entry (by decide)

/-- A text as a literal is read as the text. -/
theorem reads_textString (s : String) : Reads d (textLiteral d s.toList) [.text s] isStop := by
  have hread := reads_textLiteral (d := d) s.toList
  rwa [String.ofList_toList] at hread

/-- A truth value is a word, in SQLite a number. -/
theorem reads_bool (b : Bool) : Reads d (boolLiteral d b) (literalTokens d (.bool b)) isStop := by
  have hnumeral : ∀ s : String, IsDigits s.toList → Reads d s.toList [.numeral s] isStop := fun s hs =>
    reads_numberText (magnitude_digits hs).isUnsigned.plain
  have hword : ∀ w : String, isWordText w = true → Reads d w.toList [.ofWord d w] isStop := fun w hw =>
    reads_wordEntry hw
  cases d <;> cases b
  case sqlite.false => exact hnumeral "0" (isDigits_singleton rfl)
  case sqlite.true => exact hnumeral "1" (isDigits_singleton rfl)
  all_goals exact hword _ rfl

/-- **A plain value** is read as itself. -/
theorem reads_literal (h : IsPlain v) : Reads d (literal d v) (literalTokens d v) isStop := by
  cases v with
  | bool b => exact reads_bool b
  | int n => exact reads_numberText (isNumeral_int n)
  | float x =>
    cases x with
    | finite s m e => exact reads_numberText (isNumeral_float s m e)
    | _ => cases h
  | decimal x =>
    cases x with
    | finite s m e => exact reads_numberText (isNumeral_decimal s m e)
    | _ => cases h
  | text s => exact reads_textString s
  | date | moment | time => exact reads_textLiteral _
  | null | torn | list | tuple | record | range | unordered | object => cases h

/-! ## Conditions -/

section Conditions

variable {t col : String}

/-- A comparison of a column with a value. -/
theorem reads_compare (op : Comparison) (ht : IsName t) (hcol : IsName col) (hv : IsPlain v) :
    Reads d ((Condition.compare ⟨t, col⟩ op v).chars d)
      (columnTokens t col ++ .sign op.sign :: literalTokens d v) isStop := by
  have hop := ((reads_literal (d := d) hv).blank.comparison op).blank
  rw [Condition.chars, List.append_assoc, List.cons_append]
  exact (reads_column ht hcol).append hop rfl

theorem reads_like (part : String) (ht : IsName t) (hcol : IsName col) :
    Reads d ((Condition.like ⟨t, col⟩ part).chars d)
      (columnTokens t col ++ [.ofWord d "ILIKE", .text ("%" ++ part ++ "%")]) isStop := by
  have hpattern := reads_textString (d := d) ("%" ++ part ++ "%")
  rw [Condition.chars, List.append_assoc]
  exact (reads_column ht hcol).append (hpattern.keyword (w := "ILIKE") rfl).blank rfl

/-- A choice among values, in parentheses with commas between them. -/
theorem reads_oneOf {vs : List Value} (ht : IsName t) (hcol : IsName col) (hvs : ∀ v ∈ vs, IsPlain v) :
    Reads d ((Condition.oneOf ⟨t, col⟩ vs).chars d)
      (columnTokens t col ++ .ofWord d "IN" :: .sign "(" ::
        ([.sign ","].intercalate (vs.map (literalTokens d)) ++ [.sign ")"])) isStop := by
  have hvalues := (entries_map fun v hv => reads_literal (d := d) (hvs v hv)).commas
  have hclose : Reads d [')'] [.sign ")"] isStop := reads_nil.sign (by decide)
  have hin := ((hvalues.append hclose rfl).sign (c := '(') (by decide)).keyword (w := "IN") rfl
  rw [Condition.chars, List.append_assoc, List.append_assoc]
  exact (reads_column ht hcol).append hin.blank rfl

theorem reads_between {lo hi : Value} (ht : IsName t) (hcol : IsName col) (hlo : IsPlain lo) (hhi : IsPlain hi) :
    Reads d ((Condition.between ⟨t, col⟩ lo hi).chars d)
      (columnTokens t col ++ .ofWord d "BETWEEN" ::
        (literalTokens d lo ++ .ofWord d "AND" :: literalTokens d hi)) isStop := by
  have hand := ((reads_literal (d := d) hhi).keyword (w := "AND") rfl).blank
  have hbetween := ((reads_literal hlo).append hand rfl).keyword (w := "BETWEEN") rfl
  rw [Condition.chars, List.append_assoc, List.append_assoc, List.append_assoc]
  exact (reads_column ht hcol).append hbetween.blank rfl

theorem reads_isNull (ht : IsName t) (hcol : IsName col) :
    Reads d ((Condition.isNull ⟨t, col⟩).chars d)
      (columnTokens t col ++ [.ofWord d "IS", .ofWord d "NULL"]) isStop := by
  have hnull := reads_wordEntry (d := d) (w := "NULL") rfl
  exact (reads_column ht hcol).append (hnull.keyword (w := "IS") rfl).blank rfl

theorem reads_isNotNull (ht : IsName t) (hcol : IsName col) :
    Reads d ((Condition.isNotNull ⟨t, col⟩).chars d)
      (columnTokens t col ++ [.ofWord d "IS", .ofWord d "NOT", .ofWord d "NULL"]) isStop := by
  have hnull := reads_wordEntry (d := d) (w := "NULL") rfl
  exact (reads_column ht hcol).append ((hnull.keyword (w := "NOT") rfl).keyword (w := "IS") rfl).blank rfl

/-- **A condition** is read as the condition of its filter. -/
theorem reads_condition {k : Condition} (hk : conditionOf cat f = .ok k) (ht : IsName f.table)
    (hcol : IsName f.column) (hshape : f.value.shape = f.operator.shape)
    (hplain : ∀ v ∈ f.value.operands, IsPlain v) :
    Reads d (k.chars d) (conditionTokens d cat f) isStop := by
  have hscalar : ∀ {v : Value}, f.value = .scalar v → IsPlain v := fun hval =>
    hplain _ (by simp [hval, FilterValue.operands])
  cases asks_of_conditionOf hk hshape with
  | isNull hop =>
    simp only [conditionTokens, hop]
    exact reads_isNull ht hcol
  | isNotNull hop =>
    simp only [conditionTokens, hop]
    exact reads_isNotNull ht hcol
  | oneOf hop hval =>
    rw [hval] at hplain
    simp only [conditionTokens, hop, hval]
    exact reads_oneOf ht hcol hplain
  | @between lo hi hop hval =>
    rw [hval] at hplain
    simp only [conditionTokens, hop, hval]
    exact reads_between ht hcol (hplain lo (by simp [FilterValue.operands]))
      (hplain hi (by simp [FilterValue.operands]))
  | like hop hval =>
    simp only [conditionTokens, hop, hval]
    exact reads_like _ ht hcol
  | equal hop hval | notEqual hop hval =>
    simp only [conditionTokens, hop, hval]
    exact reads_compare _ ht hcol (hscalar hval)
  | greater hop hval hw | less hop hval hw =>
    simp only [conditionTokens, hop, hval, comparand, hw]
    exact reads_compare _ ht hcol (numericIfPossible_plain hw (hscalar hval))

end Conditions

/-! ## Clauses -/

/-- An entry of the select list that is a column. -/
theorem reads_selected {s : SelectedColumn} (ht : IsName s.table) (hcol : IsName s.column)
    (halias : ∀ a, s.aliasName = some a → PlainIdentifier a) :
    Reads d (SelectItem.chars d (.column ⟨s.table, s.column⟩ s.aliasName))
      (columnTokens s.table s.column ++ aliasTokens d s.aliasName) isStop :=
  (reads_column ht hcol).aliased halias

theorem isWordText_aggregation (a : Aggregation) : isWordText a.name = true := by
  cases a <;> rfl

/-- An entry of the select list that is an aggregate. -/
theorem reads_aggregate {a : Aggregate} (ht : IsName a.table) (hcol : IsName a.column)
    (halias : ∀ n, a.aliasName = some n → PlainIdentifier n) :
    Reads d (SelectItem.chars d (.aggregate a.function ⟨a.table, a.column⟩ a.aliasName))
      (.ofWord d a.function.name :: .sign "(" :: (columnTokens a.table a.column
        ++ .sign ")" :: aliasTokens d a.aliasName)) isStop := by
  have hclose : Reads d (')' :: aliasChars d a.aliasName) (.sign ")" :: aliasTokens d a.aliasName) isStop := by
    have hnil : Reads d [')'] [.sign ")"] isStop := reads_nil.sign (by decide)
    exact hnil.aliased halias
  have hopen := ((reads_column ht hcol).append hclose rfl).sign (c := '(') (by decide)
  rw [SelectItem.chars, List.append_assoc]
  exact hopen.word (isWordText_aggregation _) rfl

/-- A join, its keyword and the two columns that it equates. -/
theorem reads_join {j : Join} (hleft : IsName j.leftTable ∧ IsName j.leftColumn)
    (hright : IsName j.rightTable ∧ IsName j.rightColumn) :
    Reads d
      (JoinClause.chars d
        ⟨j.kind, j.rightTable, ⟨j.leftTable, j.leftColumn⟩, ⟨j.rightTable, j.rightColumn⟩⟩)
      (joinTokens d j) isStop := by
  have hkind : isWordText j.kind.name = true := by cases j.kind <;> rfl
  have hequal := (reads_column (d := d) hright.1 hright.2).blank.comparison .equal
  have hends := (reads_column (d := d) hleft.1 hleft.2).append hequal.blank rfl
  have hon := (reads_tableName (d := d) hright.1).append (hends.keyword (w := "ON") rfl).blank rfl
  simp only [JoinClause.chars, List.append_assoc]
  exact (hon.keyword (w := "JOIN") rfl).keyword hkind

/-- The select clause, with a star in place of entries if there are none. -/
theorem reads_selectClause {items : List SelectItem} {tss : List (List Token)}
    (h : Entries d (items.map (SelectItem.chars d)) tss) :
    Reads d
      ("SELECT ".toList ++ if items.isEmpty then ['*'] else separated ", " (items.map (SelectItem.chars d)))
      (.ofWord d "SELECT" :: if tss.isEmpty then [.sign "*"] else [.sign ","].intercalate tss) isStop := by
  cases items with
  | nil =>
    cases h
    have hstar : Reads d ['*'] [.sign "*"] isStop := reads_nil.sign (by decide)
    exact hstar.keyword (w := "SELECT") rfl
  | cons i items =>
    cases h with
    | cons hp hps => exact (Entries.commas (.cons hp hps)).keyword (w := "SELECT") rfl

/-- A clause that is there only if it has entries. -/
theorem entries_clause {opening sep : String} {os sts : List Token} {pieces : List (List Char)}
    {tss : List (List Token)} (h : Entries d pieces tss)
    (hread : Reads d (opening.toList ++ separated sep pieces) (os ++ sts.intercalate tss) isStop) :
    Entries d (clause opening sep pieces) (clauseTokens os sts tss) := by
  cases h with
  | nil => exact .nil
  | cons hp hps => exact .cons hread .nil

/-- Later conditions stand behind their connectives. -/
theorem entries_laterConditions {fs : List Filter} {ks : List (Connective × Condition)}
    (hfs : List.Forall₂ (fun f k => k.1 = f.connective.getD .and ∧
      Reads d (k.2.chars d) (conditionTokens d cat f) isStop) fs ks)
    (hconnected : ∀ f ∈ fs, f.connective = some .and ∨ f.connective = some .or) :
    Entries d (ks.map fun (k, c) => k.name.toList ++ ' ' :: c.chars d) (fs.map (filterTokens d cat)) := by
  induction hfs with
  | nil => exact .nil
  | @cons f k fs ks hf hfs ih =>
    obtain ⟨hhead, htail⟩ := List.forall_mem_cons.1 hconnected
    obtain ⟨hk, hread⟩ := hf
    have hword : isWordText k.1.name = true := by cases k.1 <;> rfl
    have htokens : filterTokens d cat f = .ofWord d k.1.name :: conditionTokens d cat f := by
      rcases hhead with h | h <;> simp [filterTokens, hk, h]
    rw [List.map_cons, List.map_cons, htokens]
    exact .cons (hread.keyword hword) (ih htail)

/-- **The conditions** are read as the filters, the first without a connective. -/
theorem entries_conditions {fs : List Filter} {ks : List (Connective × Condition)}
    (hfs : List.Forall₂ (fun f k => k.1 = f.connective.getD .and ∧
      Reads d (k.2.chars d) (conditionTokens d cat f) isStop) fs ks) (hconnected : Connected fs) :
    Entries d (conditionChars d ks) (fs.map (filterTokens d cat)) := by
  cases hfs with
  | nil => exact .nil
  | @cons f k fs ks hf hfs =>
    obtain ⟨hnone, hlater⟩ := hconnected
    have htokens : filterTokens d cat f = conditionTokens d cat f := by
      rw [filterTokens, hnone]
      rfl
    rw [List.map_cons, htokens]
    exact .cons hf.2 (entries_laterConditions hfs hlater)

/-- A column that orders the rows, with its direction. -/
theorem reads_sort {s : Sorting} (ht : IsName s.table) (hcol : IsName s.column) :
    Reads d (ColumnRef.chars d ⟨s.table, s.column⟩ ++ ' ' :: s.direction.name.toList)
      (columnTokens s.table s.column ++ [.ofWord d s.direction.name]) isStop := by
  have hword : isWordText s.direction.name = true := by cases s.direction <;> rfl
  exact (reads_column ht hcol).append (reads_wordEntry hword).blank rfl

/-- The limit, if there is one. -/
theorem entries_limit (limit : Option Int) :
    Entries d
      (match limit with
        | some n => ["LIMIT ".toList ++ (toString n).toList]
        | none => [])
      (limit.map fun n => [.ofWord d "LIMIT", .numeral (toString n)]).toList := by
  cases limit with
  | none => exact .nil
  | some n => exact .cons ((reads_numberText (isNumeral_int n)).keyword (w := "LIMIT") rfl) .nil

end Sql

end QueryCanvas
