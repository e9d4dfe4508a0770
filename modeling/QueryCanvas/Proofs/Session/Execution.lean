import QueryCanvas.Proofs.Session.History
import QueryCanvas.Proofs.Sql.Total

/-!
# What an execution hands over

Without a table there is nothing to execute, and the session stays as it is. With one, an idle session hands
the statement of its canvas to the warehouse, unless a number of the canvas is too long to be written.

* `reachable_play`: the canvas of a session is one that edits lead to, whatever happened to the session.
* `executes_reachable`: what compiling and executing come to, for every canvas that edits lead to.
* `no_statement_tooManyOnes`: a session that has a table and nothing to hand over.
-/

namespace QueryCanvas

open Canvas Sql

variable {s : LiveSession}

/-! ## The canvas of a session -/

/-- One event leaves a session with a reachable canvas. -/
theorem reachable_step (h : Reachable s.session.canvasCatalog ⟨s.session.canvas, s.ids⟩) (e : Event) :
    Reachable (s.step e).2.session.canvasCatalog ⟨(s.step e).2.session.canvas, (s.step e).2.ids⟩ := by
  by_cases he : e.keepsCanvas = true
  · obtain ⟨hkeeps, -, hids⟩ := s.step_kept he
    obtain ⟨hcanvas, hcat⟩ := (s.step_moves e).canvas hkeeps
    rw [hcanvas, hcat, hids]
    exact h
  · cases e with
    | newQuery name => exact ⟨_, .opened name .null s.ids, .refl⟩
    | edit x =>
      obtain ⟨start, hstart, hedited⟩ := h
      exact ⟨start, hstart, hedited.tail ⟨x, rfl⟩⟩
    | _ => exact absurd rfl he

/-- **The canvas of a session** is reachable, whatever happened to the session since it was opened. -/
theorem reachable_play (dialect : Dialect) (cat : Catalog) (limit : Value) (ids : IdSupply) (clock : Clock)
    (events : List Event) :
    let s := (play LiveSession.step events (.opened dialect cat limit ids clock)).2
    Reachable s.session.canvasCatalog ⟨s.session.canvas, s.ids⟩ := by
  induction events using List.reverseRecOn with
  | nil => exact ⟨_, .opened (.text defaultName) .null ids.next.2, .refl⟩
  | append_singleton events e ih =>
    rw [play_snoc]
    exact reachable_step ih e

/-! ## Executions -/

/-- Without a table an execution is refused, and nothing changes. -/
theorem execute_nothing (h : s.session.sql = .ok noTables) : s.step .execute = (.refused .nothing, s) := by
  simp [LiveSession.step, Session.begin, h, isExecutable]

/-- An idle session hands its query over. -/
theorem execute_query {sql : String} (h : s.session.sql = .ok sql) (hquery : sql ≠ noTables)
    (hidle : s.session.running = none) : (s.step .execute).1 = .handed sql := by
  simp [LiveSession.step, Session.begin, h, isExecutable, hquery, Session.isExecuting, hidle]

/-- An execution without a statement is refused, and nothing changes. -/
theorem execute_uncompilable {e : CompileError} (h : s.session.sql = .error e) :
    s.step .execute = (.refused (.uncompilable e), s) := by
  simp [LiveSession.step, Session.begin, h]

/-- **What a reachable canvas comes to.** Over every catalog and in every dialect it compiles, to a query exactly
if it has a table, unless a number of it is too long to be written. A session that holds it refuses to execute
it without a table, and is not changed; with one, an idle session hands its query over. -/
theorem executes_reachable {cat : Catalog} {draft : Draft} (h : Reachable cat draft) :
    (∀ d cat', Compiles d cat' draft.canvas) ∧
    ∀ s : LiveSession, s.session.canvas = draft.canvas →
      (draft.canvas.tables = [] → s.step .execute = (.refused .nothing, s)) ∧
      (draft.canvas.tables ≠ [] → s.session.running = none →
        (NumbersFit s.session.catalog draft.canvas →
          ∃ sql, s.session.sql = .ok sql ∧ (s.step .execute).1 = .handed sql) ∧
        (¬NumbersFit s.session.catalog draft.canvas →
          ∃ e, s.step .execute = (.refused (.uncompilable (.numeral e)), s))) := by
  have hshaped := h.sound.shaped
  refine ⟨fun d cat' => compile_cases d cat' hshaped, fun s hs => ?_⟩
  have hsql : s.session.sql = compile s.session.dialect s.session.catalog draft.canvas := by
    rw [← hs]
    rfl
  cases compile_cases s.session.dialect s.session.catalog hshaped with
  | nothing htables hc =>
    exact ⟨fun _ => execute_nothing (hsql.trans hc), fun hne => absurd htables hne⟩
  | query htables hfits hc hquery =>
    refine ⟨fun hnil => absurd hnil htables, fun _ hidle => ⟨fun _ => ?_, fun hlong => absurd hfits hlong⟩⟩
    exact ⟨_, hsql.trans hc, execute_query (hsql.trans hc) hquery hidle⟩
  | tooLong htables hlong hc =>
    refine ⟨fun hnil => absurd hnil htables, fun _ _ => ⟨fun hfits => absurd hfits hlong, fun _ => ?_⟩⟩
    exact ⟨_, execute_uncompilable (hsql.trans hc)⟩

/-! ## A comparison with a number -/

/-- A session whose canvas compares a numeric column by size with a text. -/
def comparing (text : String) : LiveSession :=
  (play LiveSession.step
    [.edit (.addTable (.text "orders")),
     .edit (.addFilter (.text "orders") (.text "total") (.text "less_than") (.text text) .null)]
    (.opened .ansi shop .null .fresh .fresh)).2

theorem filters_comparing (text : String) : (comparing text).session.canvas.filters =
    [⟨"id-3", "orders", "total", .lessThan, .scalar (.text text), none⟩] := rfl

theorem tables_comparing (text : String) : (comparing text).session.canvas.tables = ["orders"] := rfl

theorem limit_comparing (text : String) : (comparing text).session.canvas.limit = none := rfl

theorem reachable_comparing (text : String) :
    Reachable (comparing text).session.canvasCatalog ⟨(comparing text).session.canvas, (comparing text).ids⟩ :=
  reachable_play _ _ _ _ _ _

/-- A short number is handed over. -/
theorem comparing_handed : ∃ sql, (comparing "5").session.sql = .ok sql ∧
    ((comparing "5").step .execute).1 = .handed sql := by
  have hfits : NumbersFit (comparing "5").session.catalog (comparing "5").session.canvas := by
    have hshort : ¬SpellsTooLong "5" := by
      rw [← numericForm_refused_iff]
      rintro ⟨e, he⟩
      cases he
    simp [NumbersFit, filters_comparing, limit_comparing, FitsFilter, FilterValue.operands, isWritable, hshort]
  obtain ⟨-, hsession⟩ := executes_reachable (reachable_comparing "5")
  obtain ⟨-, hexecute⟩ := hsession (comparing "5") rfl
  exact (hexecute (by simp [tables_comparing]) rfl).1 hfits

/-- **Nothing is handed over** for a comparison with a number of too many digits, although the session is idle
and has a table: it cannot be compiled. -/
theorem no_statement_tooManyOnes :
    Reachable (comparing tooManyOnes).session.canvasCatalog
        ⟨(comparing tooManyOnes).session.canvas, (comparing tooManyOnes).ids⟩ ∧
      (comparing tooManyOnes).session.canvas.tables ≠ [] ∧ (comparing tooManyOnes).session.running = none ∧
      (∀ d, ¬∃ sql, compile d (comparing tooManyOnes).session.catalog (comparing tooManyOnes).session.canvas =
        .ok sql) ∧
      ∀ sql, ((comparing tooManyOnes).step .execute).1 ≠ .handed sql := by
  have hreach := reachable_comparing tooManyOnes
  have htables : (comparing tooManyOnes).session.canvas.tables ≠ [] := by simp [tables_comparing]
  have hlong : ¬NumbersFit (comparing tooManyOnes).session.catalog (comparing tooManyOnes).session.canvas := by
    intro hfits
    have hfilter := hfits.1 _ (by rw [filters_comparing]; exact List.mem_singleton_self _)
    refine hfilter.2 ⟨rfl, ?_, tooManyOnes, rfl, spellsTooLong_ones (by decide)⟩
    decide +kernel
  refine ⟨hreach, htables, rfl, fun d => ?_, fun sql hhanded => ?_⟩
  · rw [compile_given_of_shaped hreach.sound.shaped htables]
    exact hlong
  · obtain ⟨e, he⟩ : ∃ e, (comparing tooManyOnes).session.sql = .error e := by
      rw [exists_error_iff, Session.sql, compile_given_of_shaped hreach.sound.shaped htables]
      exact hlong
    rw [execute_uncompilable he] at hhanded
    cases hhanded

end QueryCanvas
