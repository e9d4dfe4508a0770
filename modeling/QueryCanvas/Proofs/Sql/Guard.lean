import QueryCanvas.Proofs.Sql.Calm
import QueryCanvas.Sql.Guard

/-!
# The guard on compiled statements

What a canvas compiles to is a SELECT, so the guard can only refuse it for being several statements. It is
that exactly if more than blanks stand behind the semicolon that the guard takes for its end.

* `check_select`: the guard on a text that starts with the word SELECT.
* `guard_admits_compiled`: the guard on what a reachable canvas compiles to; it always admits a calm canvas,
  and a statement without a semicolon.
* `guard_refuses_escaping`: a canvas that edits lead to and whose statement the guard refuses.
-/

namespace QueryCanvas

namespace Sql

open Lexeme Canvas

namespace Guard

variable {o : Open} {l : Lexeme} {ls : List Lexeme} {sql : String}

/-! ## Statements of a text -/

/-- The lexemes behind the semicolon that ends a statement of which `depth` parentheses are open. -/
def behindEnd (depth : Int) : List Lexeme → List Lexeme
  | [] => []
  | l :: ls => if l.kind = .semicolon ∧ depthAfter depth l ≤ 0 then ls else behindEnd (depthAfter depth l) ls

/-- What stands behind the first statement of a text: what follows its semicolon, without the blanks and the
comments that still belong to it. -/
def overhang (sql : String) : List Lexeme :=
  (behindEnd 0 (scan sql.toList)).dropWhile trails

/-- Splitting loses nothing: the statements make up the lexemes. -/
theorem flatten_statementsFrom (o : Open) (ls : List Lexeme) :
    (statementsFrom o ls).flatten = o.lexemes.reverse ++ ls := by
  induction ls generalizing o with
  | nil =>
    cases ho : o.lexemes <;> simp [statementsFrom, ho]
  | cons l ls ih =>
    rw [statementsFrom]
    split
    · rw [List.flatten_cons, ih]
      rfl
    · rw [ih]
      simp [Open.push]

/-- A statement whose semicolon has come takes what trails it. -/
theorem statementsFrom_ended (hne : o.lexemes ≠ []) (hended : o.ended = true) :
    statementsFrom o ls =
      (o.lexemes.reverse ++ ls.takeWhile trails) :: statementsFrom .none (ls.dropWhile trails) := by
  induction ls generalizing o with
  | nil => simp [statementsFrom, hne, Open.none]
  | cons l ls ih =>
    rw [statementsFrom, hended]
    by_cases hl : trails l = true
    · rw [if_neg (by simp [hl]), ih (by simp [Open.push]) (by simp [Open.push, hended]),
        List.takeWhile_cons_of_pos hl, List.dropWhile_cons_of_pos hl]
      simp [Open.push]
    · rw [if_pos (by simp [hl]), List.takeWhile_cons_of_neg hl, List.dropWhile_cons_of_neg hl, List.append_nil]
      rfl

/-- The first statement goes on up to its semicolon; the others are those of what stands behind it. -/
theorem statementsFrom_eq (hne : o.lexemes ≠ []) (hended : o.ended = false) :
    ∃ front, statementsFrom o ls =
      (o.lexemes.reverse ++ front) :: statementsFrom .none ((behindEnd o.depth ls).dropWhile trails) := by
  induction ls generalizing o with
  | nil => exact ⟨[], by simp [statementsFrom, hne, behindEnd, Open.none]⟩
  | cons l ls ih =>
    have hpush : (o.push l).lexemes ≠ [] := by simp [Open.push]
    rw [statementsFrom, if_neg (by simp [hended]), behindEnd]
    by_cases hend : l.kind = .semicolon ∧ depthAfter o.depth l ≤ 0
    · rw [if_pos hend, statementsFrom_ended hpush (by simp [Open.push, hend])]
      exact ⟨l :: ls.takeWhile trails, by simp [Open.push]⟩
    · have hopen : (o.push l).ended = false := by simpa [Open.push, hended] using hend
      obtain ⟨front, hfront⟩ := ih hpush hopen
      rw [if_neg hend, hfront]
      exact ⟨l :: front, by simp [Open.push]⟩

/-- Lexemes have no statement but blank ones exactly if they are blank throughout. -/
theorem filter_statementsFrom_eq_nil :
    (statementsFrom .none ls).filter (!isBlankStatement ·) = [] ↔ isBlankStatement ls = true := by
  have hall : isBlankStatement ls = (statementsFrom .none ls).all isBlankStatement := by
    have hflat : (statementsFrom .none ls).flatten = ls := flatten_statementsFrom .none ls
    calc
      isBlankStatement ls = isBlankStatement (statementsFrom .none ls).flatten := by rw [hflat]
      _ = (statementsFrom .none ls).all isBlankStatement := List.all_flatten
  rw [hall, List.filter_eq_nil_iff, List.all_eq_true]
  simp

/-- The word that a query starts with. -/
def selectWord : Lexeme := ⟨.word, "SELECT".toList⟩

theorem statementType_select : statementType (selectWord :: ls) = "SELECT" := by
  have hcapitals : selectWord.capitals = "SELECT" := by decide
  rw [statementType, List.dropWhile_cons_of_neg (by decide)]
  simp only [hcapitals]
  rfl

theorem not_isBlankStatement_select : isBlankStatement (selectWord :: ls) = false := by
  have hword : (selectWord.text.all Text.isBlank) = false := by decide
  rw [isBlankStatement, List.all_cons, hword, Bool.false_and]

/-- **A text that starts with the word SELECT** passes unless it has more than blanks behind its first
statement. -/
theorem check_select (h : scan sql.toList = selectWord :: ls) :
    check sql = if isBlankStatement (overhang sql) then .ok () else .error .notSingle := by
  obtain ⟨front, hfront⟩ : ∃ front, statementsFrom .none (scan sql.toList) =
      (selectWord :: front) :: statementsFrom .none (overhang sql) := by
    rw [overhang, h]
    exact statementsFrom_eq (o := Open.none.push selectWord) (List.cons_ne_nil _ _) rfl
  have hstatements : statements sql =
      (selectWord :: front) :: (statementsFrom .none (overhang sql)).filter (!isBlankStatement ·) := by
    rw [statements, hfront, List.filter_cons_of_pos (by rw [not_isBlankStatement_select]; rfl)]
  rw [check, hstatements]
  by_cases hblank : isBlankStatement (overhang sql) = true
  · rw [filter_statementsFrom_eq_nil.2 hblank, if_pos hblank]
    exact if_pos statementType_select
  · rw [if_neg hblank]
    cases hrest : (statementsFrom .none (overhang sql)).filter (!isBlankStatement ·) with
    | nil => exact absurd (filter_statementsFrom_eq_nil.1 hrest) hblank
    | cons s ss => rfl

/-- Without a semicolon nothing stands behind the first statement. -/
theorem behindEnd_eq_nil {depth : Int} (h : ∀ l ∈ ls, l.kind ≠ .semicolon) : behindEnd depth ls = [] := by
  induction ls generalizing depth with
  | nil => rfl
  | cons l ls ih =>
    obtain ⟨hl, hls⟩ := List.forall_mem_cons.1 h
    rw [behindEnd, if_neg (by simp [hl]), ih hls]

theorem overhang_eq_nil (h : Unbroken sql.toList) : overhang sql = [] := by
  rw [overhang, scan, behindEnd_eq_nil (h none), List.dropWhile_nil]

end Guard

/-! ## Statements of a canvas -/

variable {d : Dialect} {cat : Catalog} {cs : List Char}

theorem quotedKind_ne {kind : LexemeKind} {q : Char} {escapes : Bool} (h : kind ≠ .semicolon) :
    (quotedKind kind q escapes cs).1 ≠ .semicolon := by
  rw [quotedKind]
  split
  · exact h
  · simp

theorem wordKind_ne : (wordKind cs).1 ≠ .semicolon := by
  rw [wordKind]
  split <;> simp

/-- Only a semicolon is a lexeme of its kind. -/
theorem kindAt_semicolon {before : Option Char} {c : Char} (h : (kindAt before c cs).1 = .semicolon) :
    c = ';' := by
  by_contra hc
  have hite : ∀ {p : Prop} [Decidable p] {x y : LexemeKind × Nat}, x.1 ≠ .semicolon → y.1 ≠ .semicolon →
      (if p then x else y).1 ≠ .semicolon := fun hx hy => by
    split
    · exact hx
    · exact hy
  revert h
  rw [kindAt, if_neg hc]
  refine hite (by simp) <| hite (by simp) <| hite (by simp) <| hite (by simp) <| hite (by simp) <|
    hite (quotedKind_ne (by decide)) <| hite (quotedKind_ne (by decide)) <| hite (quotedKind_ne (by decide)) <|
    hite (by simp) <| hite ?_ <| hite (by simp) <| hite (by simp) <| hite (by simp) <| hite (by simp) <|
    hite wordKind_ne <| hite (by simp) (by simp)
  split <;> simp

theorem unbroken_of_not_mem (h : ';' ∉ cs) : Unbroken cs := by
  induction hlen : cs.length using Nat.strong_induction_on generalizing cs with
  | _ n ih =>
    cases cs with
    | nil => exact unbroken_nil
    | cons c cs =>
      rw [List.mem_cons, not_or] at h
      refine .cons fun before => ⟨fun hkind => h.1 (kindAt_semicolon hkind).symm, ?_⟩
      refine ih _ ?_ (fun hmem => h.2 (List.mem_of_mem_drop hmem)) rfl
      rw [List.length_drop, ← hlen, List.length_cons]
      omega

/-- An entry of the select list starts with what is neither blank nor a point. -/
theorem head_item (d : Dialect) (i : SelectItem) :
    ∃ x xs, i.chars d = x :: xs ∧ Text.isBlank x = false ∧ x ≠ '.' := by
  cases i with
  | column r a =>
    obtain ⟨x, xs, hchars, hx⟩ := head_nameChars d r.table
    exact ⟨x, _, by rw [SelectItem.chars, ColumnRef.chars, hchars]; rfl, hx⟩
  | aggregate f r a => cases f <;> exact ⟨_, _, rfl, by decide, by decide⟩

/-- A statement starts with its first word and a select list that is there. -/
theorem chars_head (d : Dialect) (s : Statement) :
    ∃ x xs, s.chars d = "SELECT ".toList ++ x :: xs ∧ Text.isBlank x = false ∧ x ≠ '.' := by
  obtain ⟨rest, hchars⟩ := chars_eq_select d s
  rw [hchars]
  cases s.items with
  | nil => exact ⟨'*', rest, rfl, by decide, by decide⟩
  | cons i is =>
    obtain ⟨x, xs, hitem, hx⟩ := head_item d i
    rw [List.map_cons, separated_cons, hitem]
    exact ⟨x, _, rfl, hx⟩

/-- **The word SELECT** is the first lexeme of a statement. -/
theorem scan_statement (d : Dialect) (s : Statement) :
    ∃ ls, scan (s.chars d) = Guard.selectWord :: ls := by
  obtain ⟨x, xs, hchars, hblank, hpoint⟩ := chars_head d s
  have hkind : kindAt none 'S' ("ELECT ".toList ++ x :: xs) = (.word, 5) := by
    have hspace : makesName (' ' :: x :: xs) = false := by
      have hskip : Text.isBlank ' ' = true := by decide
      rw [makesName, List.dropWhile_cons_of_pos hskip, List.dropWhile_cons_of_neg (by simp [hblank])]
      simp [hpoint]
    have hend : ∀ y, (' ' :: x :: xs).head? = some y → Text.isWord y = false ∧ continuesWord y = false := by
      rintro y hy
      cases hy
      decide
    have hword : "ELECT ".toList ++ x :: xs = "ELECT".toList ++ ' ' :: x :: xs := rfl
    rw [kindAt_word none (by decide), hword, wordKind,
      takeWhile_append_stop (List.all_eq_true.1 rfl) fun y hy => (hend y hy).1,
      takeWhile_append_stop (List.all_eq_true.1 rfl) fun y hy => (hend y hy).2, List.drop_left, hspace]
    rfl
  have hsplit : s.chars d = 'S' :: ("ELECT ".toList ++ x :: xs) := hchars
  rw [scan, hsplit, scanFrom, hkind]
  exact ⟨_, rfl⟩

/-- **The guard on what a canvas compiles to.** Whatever edits led to a canvas with a table, in every dialect
its statement is a SELECT for the guard, which admits it unless more than blanks stand behind the semicolon that
it takes for the end of the statement. So it admits every calm canvas, whatever quotes, semicolons, comment signs
and keywords are in its names and texts, and every statement without a semicolon. There is no statement exactly
where a number does not fit. -/
theorem guard_admits_compiled {draft : Draft} (h : Canvas.Reachable cat draft)
    (htables : draft.canvas.tables ≠ []) (d : Dialect) :
    (NumbersFit cat draft.canvas → ∃ sql, compile d cat draft.canvas = .ok sql ∧
      (Guard.check sql = if Guard.isBlankStatement (Guard.overhang sql) then .ok () else .error .notSingle) ∧
      (IsCalmCanvas d draft.canvas ∨ ';' ∉ sql.toList → Guard.check sql = .ok ())) ∧
    (¬NumbersFit cat draft.canvas → ∃ e, compile d cat draft.canvas = .error e) := by
  have hc := h.sound.toWellFormed
  have hgiven := compile_fits_iff (d := d) hc htables
  constructor
  · intro hfit
    obtain ⟨sql, hsql⟩ := hgiven.2 hfit
    obtain ⟨s, hs, hchars⟩ := compile_eq_ok htables hsql
    obtain ⟨ls, hscan⟩ := scan_statement d s
    rw [← hchars] at hscan
    have hcheck := Guard.check_select hscan
    refine ⟨sql, hsql, hcheck, fun hcalm => ?_⟩
    have hunbroken : Unbroken sql.toList := by
      rcases hcalm with hcalm | hsemicolon
      · rw [hchars]
        exact (statement_isCalm hcalm hc hs).unbroken
      · exact unbroken_of_not_mem hsemicolon
    rw [hcheck, Guard.overhang_eq_nil hunbroken]
    rfl
  · intro hlong
    rw [exists_error_iff, hgiven]
    exact hlong

/-- A draft with a filter that asks for a customer of this name. -/
def namingDraft (name : String) : Draft :=
  performAll shop
    [.addTable (.text "customers"),
     .addFilter (.text "customers") (.text "name") (.text "equals") (.text name) .null]
    (opened (.text "Q") .null .fresh)

theorem canvas_namingDraft (name : String) : (namingDraft name).canvas =
    ⟨.text "id-1", .text "Q", ["customers"], [], [],
      [⟨"id-2", "customers", "name", .equals, .scalar (.text name), none⟩], [], [], [], none⟩ := by
  cbv

theorem fits_namingDraft (name : String) : NumbersFit shop (namingDraft name).canvas := by
  simp [NumbersFit, canvas_namingDraft, FitsFilter, FilterValue.operands, isWritable,
    FilterOperator.isNumericComparison]

/-- A name that tries to end its quotes and its statement. -/
def leaving : String := "'; DROP TABLE customers; -- /* \"a\\b\" */ SELECT `c`;"

/-- It stays inside its quotes. -/
theorem guard_admits_leaving : Canvas.Reachable shop (namingDraft leaving) ∧
    (namingDraft leaving).canvas.tables ≠ [] ∧
    ∃ sql, compile .postgresql shop (namingDraft leaving).canvas = .ok sql ∧ Guard.check sql = .ok () := by
  have hreach : Canvas.Reachable shop (namingDraft leaving) := reachable_performAll _ (.text "Q") .null .fresh
  have htables : (namingDraft leaving).canvas.tables ≠ [] := by simp [canvas_namingDraft]
  have hcalm : IsCalmCanvas .postgresql (namingDraft leaving).canvas := by
    rw [canvas_namingDraft]
    refine ⟨by decide, by decide, List.forall_mem_singleton.2 (List.forall_mem_singleton.2 ?_)⟩
    show isCalm '\x27' leaving.toList = true
    decide
  obtain ⟨sql, hsql, -, hcheck⟩ := (guard_admits_compiled hreach htables .postgresql).1 (fits_namingDraft leaving)
  exact ⟨hreach, htables, sql, hsql, hcheck (.inl hcalm)⟩

/-- A name with a quote behind a backslash, and a semicolon behind them. -/
def escaping : String := "\\';x"

/-- **Two statements** for the guard: it takes the quote for one behind an escape, and the doubled one for the
end of the text. -/
theorem guard_refuses_escaping : Canvas.Reachable shop (namingDraft escaping) ∧
    (namingDraft escaping).canvas.tables ≠ [] ∧ NumbersFit shop (namingDraft escaping).canvas ∧
      ∀ d, ∃ sql, compile d shop (namingDraft escaping).canvas = .ok sql ∧
        Guard.check sql = .error .notSingle := by
  have hreach : Canvas.Reachable shop (namingDraft escaping) := reachable_performAll _ (.text "Q") .null .fresh
  have hplain : Guard.check "SELECT *\nFROM customers\nWHERE customers.name = '\\'';x'" = .error .notSingle := by
    cbv
  have hdoubled : Guard.check "SELECT *\nFROM customers\nWHERE customers.name = '\\\\'';x'" =
      .error .notSingle := by
    cbv
  refine ⟨hreach, by simp [canvas_namingDraft], fits_namingDraft escaping, fun d => ?_⟩
  rw [canvas_namingDraft]
  cases d with
  | ansi | postgresql | sqlite => exact ⟨_, rfl, hplain⟩
  | mysql => exact ⟨_, rfl, hdoubled⟩

end Sql

end QueryCanvas
