import QueryCanvas.Proofs.Sql.Compile
import QueryCanvas.Proofs.Sql.Unbroken

/-!
# Calm statements

A statement is calm if no backslash stands right before a quote or at the end in anything that it writes in
quotes: its names, unless they are quoted with backticks, and its texts. The guard finds no semicolon
in a calm statement, whatever else its names and texts hold.

* `passes_literal`, `passes_column`, `passes_condition`: values, columns and conditions.
* `Statement.IsCalm.unbroken`: the whole statement.
* `statement_isCalm`: the statement of a canvas is calm if the canvas is (`IsCalmCanvas`).
-/

namespace QueryCanvas

namespace Sql

open Numeral Canvas Lexeme

/-- A value that is calm where it is quoted. Numbers, truth values, dates and times have no backslash. -/
def IsCalmValue : Value → Prop
  | .bool _ | .int _ | .float _ | .decimal _ | .date _ | .moment _ | .time _ => True
  | v => isCalm '\x27' v.toText.toList = true

/-- A column with a calm name, of a table with a calm name. -/
def ColumnRef.IsCalm (d : Dialect) (r : ColumnRef) : Prop :=
  isCalmName d r.table = true ∧ isCalmName d r.column = true

/-- An entry of the select list with calm names. -/
def SelectItem.IsCalm (d : Dialect) : SelectItem → Prop
  | .column r a | .aggregate _ r a => r.IsCalm d ∧ ∀ n, a = some n → isCalmName d n = true

/-- A join with calm names. -/
def JoinClause.IsCalm (d : Dialect) (j : JoinClause) : Prop :=
  isCalmName d j.table = true ∧ j.left.IsCalm d ∧ j.right.IsCalm d

/-- A condition with calm names and values. The text of a pattern stands between two signs. -/
def Condition.IsCalm (d : Dialect) : Condition → Prop
  | .compare r _ v => r.IsCalm d ∧ IsCalmValue v
  | .like r part => r.IsCalm d ∧ isCalm '\x27' ("%" ++ part ++ "%").toList = true
  | .oneOf r vs => r.IsCalm d ∧ ∀ v ∈ vs, IsCalmValue v
  | .between r lo hi => r.IsCalm d ∧ IsCalmValue lo ∧ IsCalmValue hi
  | .isNull r | .isNotNull r => r.IsCalm d

/-- **A calm statement.** -/
structure Statement.IsCalm (d : Dialect) (s : Statement) : Prop where
  items : ∀ i ∈ s.items, i.IsCalm d
  source : isCalmName d s.source = true
  joins : ∀ j ∈ s.joins, j.IsCalm d
  conditions : ∀ k ∈ s.conditions, k.2.IsCalm d
  groups : ∀ r ∈ s.groups, r.IsCalm d
  sorts : ∀ x ∈ s.sorts, x.1.IsCalm d

variable {d : Dialect} {p p' : List Char} {stop : Char → Bool} {v : Value} {r : ColumnRef}

/-! ## Signs and words of the grammar -/

/-- A sign passes in front of any piece. -/
theorem Passes.sign {c : Char} (h : Passes p stop) (hc : c ∈ signs) : Passes (c :: p) stop := by
  intro rest hhead hrest
  refine .cons fun before => ?_
  have hkind : (kindAt before c (p ++ rest)).1 ≠ .semicolon ∧ (kindAt before c (p ++ rest)).2 = 0 := by
    simp only [signs, List.mem_cons, List.not_mem_nil, or_false] at hc
    rcases hc with rfl | rfl | rfl | rfl | rfl | rfl | rfl | rfl | rfl | rfl | rfl <;>
      exact ⟨fun h => (by cases h), rfl⟩
  rw [List.append_eq, hkind.2]
  exact ⟨hkind.1, h rest hhead hrest⟩

theorem Passes.blank (h : Passes p stop) : Passes (' ' :: p) stop :=
  h.sign (by decide)

/-- A word of the grammar with a blank behind it. -/
theorem Passes.keyword {w : String} (h : Passes p stop) (hw : w.toList.all isRunChar = true) :
    Passes (w.toList ++ ' ' :: p) stop :=
  (passes_run (List.all_eq_true.1 hw)).append h.blank (by decide)

theorem passes_word {w : String} (hw : w.toList.all isRunChar = true) : Passes w.toList isFollow :=
  (passes_run (List.all_eq_true.1 hw)).entry (by decide)

/-- Pieces with separators between them pass. -/
theorem passes_separated {x : Char} {xs : List Char} {sep : String} {pieces : List (List Char)}
    (h : ∀ p ∈ pieces, Passes p isFollow) (hsep : sep.toList = x :: xs) (hx : isFollow x = true)
    (hpass : ∀ {p}, Passes p isFollow → Passes (x :: xs ++ p) isFollow) :
    Passes (separated sep pieces) isFollow := by
  induction pieces with
  | nil => exact passes_nil
  | cons p pieces ih =>
    obtain ⟨hp, hpieces⟩ := List.forall_mem_cons.1 h
    cases pieces with
    | nil =>
      rw [separated_cons, List.flatMap_nil, List.append_nil]
      exact hp
    | cons p' pieces =>
      have hrest := ih hpieces
      rw [separated_cons] at hrest ⊢
      rw [List.flatMap_cons, hsep, List.append_assoc]
      exact hp.append (by rw [hsep] at hrest; exact hpass hrest) hx

theorem passes_commas {pieces : List (List Char)} (h : ∀ p ∈ pieces, Passes p isFollow) :
    Passes (separated ", " pieces) isFollow :=
  passes_separated h rfl rfl fun hp => hp.blank.sign (by decide)

theorem passes_spaced {pieces : List (List Char)} (h : ∀ p ∈ pieces, Passes p isFollow) :
    Passes (separated " " pieces) isFollow :=
  passes_separated h rfl rfl fun hp => hp.blank

theorem passes_lines {pieces : List (List Char)} (h : ∀ p ∈ pieces, Passes p isFollow) :
    Passes (separated "\n" pieces) isFollow :=
  passes_separated h rfl rfl fun hp => hp.sign (by decide)

/-! ## Values and columns -/

theorem not_mem_padded (width n : Nat) : '\\' ∉ Calendar.padded width n := fun h => by
  have := (isDigits_padLeft (isDigits_toDigits n) width).2 _ h
  exact absurd this (by decide)

theorem not_mem_dateChars (x : Date) : '\\' ∉ Calendar.dateChars x := by
  simp [Calendar.dateChars, not_mem_padded]

theorem not_mem_clockChars (f : Calendar.Fraction) (t : TimeOfDay) : '\\' ∉ Calendar.clockChars f t := by
  simp only [Calendar.clockChars]
  split <;> simp [not_mem_padded]

theorem not_mem_timeChars (d : Dialect) (t : TimeOfDay) : '\\' ∉ timeChars d t := by
  have hoffset : ∀ o, '\\' ∉ Calendar.offsetText o := fun o => by
    simp only [Calendar.offsetText]
    split <;> split <;> simp [not_mem_padded]
  have htime : '\\' ∉ Calendar.timeChars t := by
    cases ho : t.offset <;> simp [Calendar.timeChars, not_mem_clockChars, hoffset, ho]
  cases d <;> first | exact htime | exact not_mem_clockChars _ t

/-- **A calm value** passes. -/
theorem passes_literal (h : IsCalmValue v) : Passes (literal d v) isFollow := by
  have htext : ∀ {cs : List Char}, isCalm '\x27' cs = true → Passes (textLiteral d cs) isFollow := fun hcs =>
    (passes_text hcs).entry (by decide)
  cases v with
  | bool b => cases d <;> cases b <;> exact (passes_run (List.all_eq_true.1 rfl)).entry (by decide)
  | int n => exact (passes_numeral (isNumeral_int n)).entry (by decide)
  | float x => exact (passes_float x).entry (by decide)
  | decimal x => exact (passes_decimal x).entry (by decide)
  | date x => exact htext (isCalm_of_not_mem (not_mem_dateChars x))
  | moment m =>
    exact htext (isCalm_of_not_mem (by simp [not_mem_dateChars, not_mem_timeChars]))
  | time t => exact htext (isCalm_of_not_mem (not_mem_timeChars d t))
  | _ => exact htext h

theorem passes_column (h : r.IsCalm d) : Passes (r.chars d) isFollow :=
  (passes_name h.1).append ((passes_name h.2).sign (by decide)) rfl

/-! ## Conditions and clauses -/

/-- **A calm condition** passes. -/
theorem passes_condition {k : Condition} (h : k.IsCalm d) : Passes (k.chars d) isFollow := by
  cases k with
  | compare r op v =>
    have hsign : op.sign.toList.all isRunChar = true := by cases op <;> rfl
    have hvalue := ((passes_literal (d := d) h.2).keyword hsign).blank
    rw [Condition.chars, List.append_assoc, List.cons_append]
    exact (passes_column h.1).append hvalue rfl
  | like r part =>
    have hpattern : Passes (literal d (.text ("%" ++ part ++ "%"))) isFollow := passes_literal h.2
    rw [Condition.chars, List.append_assoc]
    exact (passes_column h.1).append (hpattern.keyword (w := "ILIKE") rfl).blank rfl
  | oneOf r vs =>
    have hvalues : Passes (separated ", " (vs.map (literal d))) isFollow :=
      passes_commas (List.forall_mem_map.2 fun v hv => passes_literal (h.2 v hv))
    have hclose : Passes [')'] isFollow := (passes_run (List.all_eq_true.1 rfl)).entry (by decide)
    have hin := ((hvalues.append hclose rfl).sign (c := '(') (by decide)).keyword (w := "IN") rfl
    rw [Condition.chars, List.append_assoc, List.append_assoc]
    exact (passes_column h.1).append hin.blank rfl
  | between r lo hi =>
    have hand := ((passes_literal (d := d) h.2.2).keyword (w := "AND") rfl).blank
    have hbetween := ((passes_literal (d := d) h.2.1).append hand rfl).keyword (w := "BETWEEN") rfl
    rw [Condition.chars, List.append_assoc, List.append_assoc, List.append_assoc]
    exact (passes_column h.1).append hbetween.blank rfl
  | isNull r =>
    have hnull : Passes "NULL".toList isFollow := passes_word rfl
    exact (passes_column h).append (hnull.keyword (w := "IS") rfl).blank rfl
  | isNotNull r =>
    have hnull : Passes "NULL".toList isFollow := passes_word rfl
    exact (passes_column h).append ((hnull.keyword (w := "NOT") rfl).keyword (w := "IS") rfl).blank rfl

/-- An entry with its alias, if it has one. -/
theorem Passes.aliased {aliasName : Option String} (h : Passes p isFollow)
    (halias : ∀ n, aliasName = some n → isCalmName d n = true) :
    Passes (p ++ aliasChars d aliasName) isFollow := by
  cases aliasName with
  | none => simpa [aliasChars] using h
  | some a =>
    rw [aliasChars]
    split
    · simpa using h
    · have has : Passes (' ' :: ("AS".toList ++ ' ' :: nameChars d a)) isFollow :=
        ((passes_name (halias a rfl)).keyword rfl).blank
      exact h.append has rfl

theorem passes_item {i : SelectItem} (h : i.IsCalm d) : Passes (i.chars d) isFollow := by
  cases i with
  | column r a => exact (passes_column h.1).aliased h.2
  | aggregate f r a =>
    have hclose : Passes (')' :: aliasChars d a) isFollow := by
      have hnil : Passes [')'] isFollow := (passes_run (List.all_eq_true.1 rfl)).entry (by decide)
      exact hnil.aliased h.2
    have hopen := ((passes_column h.1).append hclose rfl).sign (c := '(') (by decide)
    have hname : ∀ c ∈ f.name.toList, isRunChar c = true := by cases f <;> exact List.all_eq_true.1 rfl
    rw [SelectItem.chars, List.append_assoc]
    exact (passes_run hname).append hopen (by decide)

theorem passes_join {j : JoinClause} (h : j.IsCalm d) : Passes (j.chars d) isFollow := by
  have hkind : j.kind.name.toList.all isRunChar = true := by cases j.kind <;> rfl
  have hequal := ((passes_column h.2.2).keyword (w := "=") rfl).blank
  have hends := ((passes_column h.2.1).append hequal rfl).keyword (w := "ON") rfl
  have hon := ((passes_name h.1).append hends.blank rfl).keyword (w := "JOIN") rfl
  simp only [JoinClause.chars, List.append_assoc]
  exact hon.keyword hkind

/-- A clause that is there only if it has entries. -/
theorem passes_clause {opening sep : String} {pieces : List (List Char)}
    (h : Passes (opening.toList ++ separated sep pieces) isFollow) :
    ∀ p ∈ clause opening sep pieces, Passes p isFollow := by
  intro p hp
  rw [clause] at hp
  split at hp
  · cases hp
  · rw [List.mem_singleton.1 hp]
    exact h

theorem passes_conditions {ks : List (Connective × Condition)} (h : ∀ k ∈ ks, k.2.IsCalm d) :
    ∀ p ∈ conditionChars d ks, Passes p isFollow := by
  cases ks with
  | nil => simp [conditionChars]
  | cons k ks =>
    obtain ⟨hk, hks⟩ := List.forall_mem_cons.1 h
    refine List.forall_mem_cons.2 ⟨passes_condition hk, List.forall_mem_map.2 fun x hx => ?_⟩
    have hword : x.1.name.toList.all isRunChar = true := by cases x.1 <;> rfl
    exact (passes_condition (hks x hx)).keyword hword

theorem passes_sort {x : ColumnRef × Direction} (h : x.1.IsCalm d) :
    Passes (x.1.chars d ++ ' ' :: x.2.name.toList) isFollow := by
  have hdirection : x.2.name.toList.all isRunChar = true := by cases x.2 <;> rfl
  exact (passes_column h).append (passes_word hdirection).blank rfl

/-- **A calm statement** has no semicolon for the guard. -/
theorem Statement.IsCalm.unbroken {s : Statement} (h : s.IsCalm d) : Unbroken (s.chars d) := by
  have hitems := passes_commas (List.forall_mem_map.2 fun i hi => passes_item (h.items i hi))
  have hselect : Passes ("SELECT ".toList ++ if s.items.isEmpty then ['*']
      else separated ", " (s.items.map (SelectItem.chars d))) isFollow := by
    split
    · exact (passes_run (List.all_eq_true.1 rfl)).entry (by decide)
    · exact hitems.keyword (w := "SELECT") rfl
  have hfrom : Passes ("FROM ".toList ++ nameChars d s.source) isFollow :=
    (passes_name h.source).keyword (w := "FROM") rfl
  have hjoins : ∀ p ∈ s.joins.map (JoinClause.chars d), Passes p isFollow :=
    List.forall_mem_map.2 fun j hj => passes_join (h.joins j hj)
  have hwhere : ∀ p ∈ clause "WHERE " " " (conditionChars d s.conditions), Passes p isFollow :=
    passes_clause ((passes_spaced (passes_conditions h.conditions)).keyword (w := "WHERE") rfl)
  have hgroups : ∀ p ∈ clause "GROUP BY " ", " (s.groups.map (ColumnRef.chars d)), Passes p isFollow := by
    have hrefs := passes_commas (List.forall_mem_map.2 fun r hr => passes_column (h.groups r hr))
    exact passes_clause ((hrefs.keyword (w := "BY") rfl).keyword (w := "GROUP") rfl)
  have hsorts : ∀ p ∈ clause "ORDER BY " ", " (s.sorts.map fun x => x.1.chars d ++ ' ' :: x.2.name.toList),
      Passes p isFollow := by
    have hentries := passes_commas (List.forall_mem_map.2 fun x hx => passes_sort (h.sorts x hx))
    exact passes_clause ((hentries.keyword (w := "BY") rfl).keyword (w := "ORDER") rfl)
  have hlimit : ∀ n : Int, Passes ("LIMIT ".toList ++ (toString n).toList) isFollow := fun n =>
    ((passes_numeral (isNumeral_int n)).entry (by decide)).keyword (w := "LIMIT") rfl
  refine (passes_lines ?_).unbroken
  simp only [Statement.clauses, List.forall_mem_append, List.forall_mem_cons, List.not_mem_nil, false_implies,
    implies_true, and_true]
  refine ⟨⟨⟨⟨⟨⟨hselect, hfrom⟩, hjoins⟩, hwhere⟩, hgroups⟩, hsorts⟩, ?_⟩
  cases s.limit with
  | none => simp
  | some n => exact List.forall_mem_singleton.2 (hlimit n)

/-! ## Canvases -/

/-- The columns that the parts of a canvas name. -/
def namedColumns (c : Canvas) : List String :=
  c.columns.map (·.column) ++ c.joins.flatMap (fun j => [j.leftColumn, j.rightColumn])
    ++ c.filters.map (·.column) ++ c.sorts.map (·.column) ++ c.groups.map (·.column)
    ++ c.aggregates.map (·.column)

/-- A filter with calm operands. A pattern ends in a sign, so a backslash may stand at its end. -/
def IsCalmFilter (f : Filter) : Prop :=
  match f.operator, f.value with
  | .like, .scalar v => isCalm '\x27' ("%" ++ v.toText ++ "%").toList = true
  | _, v => ∀ w ∈ v.operands, IsCalmValue w

/-- **A calm canvas**: no backslash stands right before a quote or at the end in a text that a filter compares
with, nor in the name of a table or a column if the dialect does not quote with backticks. -/
structure IsCalmCanvas (d : Dialect) (c : Canvas) : Prop where
  tables : ∀ t ∈ c.tables, isCalmName d t = true
  columns : ∀ n ∈ namedColumns c, isCalmName d n = true
  filters : ∀ f ∈ c.filters, IsCalmFilter f

variable {cat : Catalog} {c : Canvas}

/-- A plain identifier has no backslash. -/
theorem isCalmName_of_plain {a : String} (h : PlainIdentifier a) : isCalmName d a = true := by
  obtain ⟨x, xs, hchars, hx, hxs⟩ := h
  have hslash : '\\' ∉ a.toList := by
    rw [hchars, List.mem_cons, not_or]
    refine ⟨?_, fun hmem => absurd (hxs _ hmem) (by decide)⟩
    rintro rfl
    exact absurd hx (by decide)
  rw [isCalmName, isCalm_of_not_mem hslash, Bool.or_true]

theorem IsShortNumber.isCalm (h : IsShortNumber v) : IsCalmValue v := by
  cases v <;> trivial

/-- A calm value stays calm where it is taken as the number that it looks like. -/
theorem IsCalmValue.comparand {numeric : Bool} {w : Value} (h : IsCalmValue v)
    (hw : numericIfPossible numeric v = .ok w) : IsCalmValue w := by
  rcases numericIfPossible_cases hw with rfl | ⟨-, hshort⟩
  · exact h
  · exact hshort.isCalm

/-- The condition of a calm filter is calm. -/
theorem condition_isCalm {f : Filter} {k : Condition} (hk : Asks cat f k) (hf : IsCalmFilter f)
    (hr : ColumnRef.IsCalm d ⟨f.table, f.column⟩) : k.IsCalm d := by
  cases hk with
  | isNull | isNotNull => exact hr
  | oneOf hop hval =>
    simp only [IsCalmFilter, hop, hval] at hf
    exact ⟨hr, hf⟩
  | between hop hval =>
    simp only [IsCalmFilter, hop, hval] at hf
    exact ⟨hr, hf _ (by simp [FilterValue.operands]), hf _ (by simp [FilterValue.operands])⟩
  | like hop hval =>
    simp only [IsCalmFilter, hop, hval] at hf
    exact ⟨hr, hf⟩
  | equal hop hval | notEqual hop hval =>
    simp only [IsCalmFilter, hop, hval] at hf
    exact ⟨hr, hf _ (by simp [FilterValue.operands])⟩
  | greater hop hval hw | less hop hval hw =>
    simp only [IsCalmFilter, hop, hval] at hf
    exact ⟨hr, (hf _ (by simp [FilterValue.operands])).comparand hw⟩

/-- **The statement of a calm canvas** is calm. -/
theorem statement_isCalm {s : Statement} (h : IsCalmCanvas d c) (hc : WellFormed cat c)
    (hs : statement? cat c = .ok (some s)) : s.IsCalm d := by
  have hcolumns := h.columns
  simp only [namedColumns, List.forall_mem_append, List.forall_mem_map, List.forall_mem_flatMap,
    List.forall_mem_cons] at hcolumns
  obtain ⟨⟨⟨⟨⟨hselected, hjoins⟩, hfilters⟩, hsorts⟩, hgroups⟩, haggregates⟩ := hcolumns
  have hg := hc.grounded
  cases ht : c.tables with
  | nil => simp [statement?, ht] at hs
  | cons t ts =>
    simp only [statement?, ht, bind_eq_ok, liftM_eq_ok, pure_eq_ok, Except.ok.injEq, Option.some.injEq] at hs
    obtain ⟨ks, hks, l, hl, rfl⟩ := hs
    refine ⟨?items, h.tables t (by simp [ht]), ?joins, ?conditions, ?groups, ?sorts⟩
    case items =>
      refine List.forall_mem_append.2
        ⟨List.forall_mem_map.2 fun x hx => ?_, List.forall_mem_map.2 fun x hx => ?_⟩
      · exact ⟨⟨h.tables _ (hg.columns x hx).1, hselected x hx⟩,
          fun n hn => isCalmName_of_plain (hc.column_aliases x hx n hn)⟩
      · exact ⟨⟨h.tables _ (hg.aggregates x hx).1, haggregates x hx⟩,
          fun n hn => isCalmName_of_plain (hc.aggregate_aliases x hx n hn)⟩
    case joins =>
      refine List.forall_mem_map.2 fun j hj => ?_
      obtain ⟨hleft, hright⟩ := hg.joins j hj
      obtain ⟨hleft', hright', -⟩ := hjoins j hj
      exact ⟨h.tables _ hright.1, ⟨h.tables _ hleft.1, hleft'⟩, h.tables _ hright.1, hright'⟩
    case conditions =>
      refine forall_mem_of_mapM hks fun f hf k hk => ?_
      obtain ⟨k', hk', hpair⟩ := bind_eq_ok.1 hk
      cases hpair
      exact condition_isCalm (asks_of_conditionOf hk' (hc.shaped f hf)) (h.filters f hf)
        ⟨h.tables _ (hg.filters f hf).1, hfilters f hf⟩
    case groups => exact List.forall_mem_map.2 fun x hx => ⟨h.tables _ (hg.groups x hx).1, hgroups x hx⟩
    case sorts => exact List.forall_mem_map.2 fun x hx => ⟨h.tables _ (hg.sorts x hx).1, hsorts x hx⟩

end Sql

end QueryCanvas
