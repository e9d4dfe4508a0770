import QueryCanvas.Audit.Trail
import QueryCanvas.Http.App
import QueryCanvas.Proofs.Session.Flight
import QueryCanvas.Proofs.Session.Identity

/-!
# What the rows of an execution say

The row of an execution is written when its run ends. It carries the statement that was handed over when
the run started, but the id and the name that the canvas has by then.

* `Meanwhile`: what is known of a session while a run is under way.
* `row_of_execution`: the row of an execution names the query that its statement was compiled from
  exactly if no new query was started meanwhile and the query has the same name again.
* `execute_played`: the service executes in one go what the events do one after the other.
-/

namespace QueryCanvas

open Canvas

variable {start s s' : LiveSession} {h : List Report} {e : Event}

/-! ## While a run is under way -/

/-- A run that does not end keeps its statement, and its session keeps its id. -/
theorem Moves.statement {t t' : Session} {r : Report} {run : Run} (hm : Moves t r t')
    (hrun : t.running = some run) (hr : r.isEnded = false) :
    ∃ run', t'.running = some run' ∧ run'.sql = run.sql := by
  cases hm with
  | handed now hsql hidle => simp [hrun] at hidle
  | rows hrun' harr hok => cases hr
  | failed hrun' harr herr => cases hr
  | cancelled hrun' harr =>
    rw [hrun] at hrun'
    exact ⟨_, rfl, by rw [Option.some.inj hrun']⟩
  | _ => exact ⟨run, hrun, rfl⟩

/-- A run starts with the statement that the canvas compiles to. -/
theorem Moves.started {t t' : Session} {sql : String} (hm : Moves t (.handed sql) t') :
    t.sql = .ok sql ∧ t'.running = some ⟨sql, false⟩ := by
  cases hm with
  | handed now hsql hidle => exact ⟨hsql, rfl⟩

/-- **While a run is under way**: what is known of the canvas, and the statement of the run. -/
structure Meanwhile (start : LiveSession) (sql : String) (h : List Report) (s : LiveSession) : Prop where
  identified : Identified s
  since : Since start h s
  id : s.session.id = start.session.id
  running : ∃ run, s.session.running = some run ∧ run.sql = sql

theorem Meanwhile.step {sql : String} (hm : Meanwhile start sql h s) (hr : (s.step e).1.isEnded = false) :
    Meanwhile start sql (h ++ [(s.step e).1]) (s.step e).2 where
  identified := (hm.identified.step e).1
  since := hm.since.step hm.identified e
  id := (s.step_moves e).id.trans hm.id
  running := by
    obtain ⟨run, hrun, hsql⟩ := hm.running
    obtain ⟨run', hrun', hsql'⟩ := (s.step_moves e).statement hrun hr
    exact ⟨run', hrun', hsql'.trans hsql⟩

/-! ## Audited sessions -/

namespace AuditedSession

/-- Recording reads the clock, and leaves the session as the event left it. -/
theorem step_live (a : AuditedSession) (e : Event) : (a.step e).1 = (a.live.step e).1 ∧
    ∃ clock, (a.step e).2.live = { (a.live.step e).2 with clock := clock } := by
  simp only [step]
  split <;> exact ⟨rfl, _, rfl⟩

theorem step_moves (a : AuditedSession) (e : Event) :
    Moves a.live.session (a.step e).1 (a.step e).2.live.session := by
  obtain ⟨hreport, clock, hlive⟩ := a.step_live e
  rw [hreport, hlive]
  exact a.live.step_moves e

/-- Only the end of a run touches the log. -/
theorem step_unended {a : AuditedSession} {e : Event} (h : (a.step e).1.isEnded = false) :
    (a.step e).2 = { a with live := (a.live.step e).2 } := by
  rw [(a.step_live e).1] at h
  cases hreport : (a.live.step e).1 with
  | ended outcome =>
    rw [hreport] at h
    cases h
  | _ => simp only [step, hreport]

/-- The end of a run is recorded with its statement. -/
theorem step_ended {a : AuditedSession} {e : Event} {outcome : Outcome} {run : Run}
    (he : (a.step e).1 = .ended outcome) (hrun : a.live.session.running = some run) :
    (a.step e).2.audit =
      (a.audit.record (a.live.step e).2.session run.sql outcome (a.live.step e).2.clock).1 := by
  rw [(a.step_live e).1] at he
  simp only [step, he, hrun]

theorem identified_play (events : List Event) {a : AuditedSession} (ha : Identified a.live) :
    Identified (play step events a).2.live := by
  induction events generalizing a with
  | nil => exact ha
  | cons e events ih =>
    obtain ⟨-, clock, hlive⟩ := a.step_live e
    have hstep := (ha.step e).1
    exact ih (a := (a.step e).2) (hlive ▸ ⟨hstep.sound, hstep.given⟩)

theorem meanwhile_play {start : LiveSession} {sql : String} (events : List Event) {a : AuditedSession}
    (ha : Meanwhile start sql [] a.live) (hr : ∀ r ∈ (play step events a).1, r.isEnded = false) :
    Meanwhile start sql (play step events a).1 (play step events a).2.live := by
  induction events using List.reverseRecOn with
  | nil => exact ha
  | append_singleton events e ih =>
    rw [play_snoc] at hr ⊢
    rw [List.forall_mem_append, List.forall_mem_singleton] at hr
    obtain ⟨hreport, clock, hlive⟩ := (play step events a).2.step_live e
    have hm := ih hr.1
    rw [hreport] at hr ⊢
    have hstep := hm.step hr.2
    rw [hlive]
    refine ⟨⟨hstep.identified.sound, hstep.identified.given⟩, ?_, hstep.id, hstep.running⟩
    cases hstep.since with
    | same hids hnone hid => exact .same hids hnone hid
    | another hids hsome hlater hid => exact .another hids hsome hlater hid

end AuditedSession

/-! ## The row -/

/-- Whether an outcome leaves a row. -/
def IsRecorded (outcome : Outcome) : Prop :=
  ∀ e, outcome = .error e → AuditEntry.isRecorded e = true

/-- The row of an outcome: the id and the name are those of the canvas when it is written. -/
theorem AuditStore.record_eq {sql : String} {outcome : Outcome} (hrec : IsRecorded outcome)
    (hsql : ∀ r, outcome = .ok r → r.sql = sql) (t : Session) (rows : List AuditRow) (clock : Clock) :
    ∃ row : AuditRow, (AuditStore.record (some rows) t sql outcome clock).1 = some (rows ++ [row]) ∧
      row.sql = sql ∧ row.sessionId = t.id ∧ row.queryId = t.canvas.id ∧ row.queryName = t.canvas.name := by
  cases outcome with
  | ok r => exact ⟨_, rfl, hsql r rfl, rfl, rfl, rfl⟩
  | error e =>
    have he := hrec e rfl
    simp only [record, AuditEntry.ofOutcome, he, if_true]
    exact ⟨_, rfl, rfl, rfl, rfl, rfl⟩

namespace AuditedSession

variable {s₀ s₁ s₂ s₃ : AuditedSession} {earlier meantime : List Report} {sql : String} {outcome : Outcome}
  {rows : List AuditRow}

/-- **The row of an execution.** Whatever came before it and whatever happens while it is under way, it
leaves one row if its outcome is one to record. The row has the statement that was handed over, which
the canvas compiled to at that moment. It names the query that the canvas was then exactly if no new
query was started meanwhile and the name is the same when the run ends. -/
theorem row_of_execution {dialect : Sql.Dialect} {cat : Catalog} {limit : Value} {ids : IdSupply}
    {clock : Clock} {store : AuditStore} {before during : List Event}
    (hbefore : play step before ⟨.opened dialect cat limit ids clock, store⟩ = (earlier, s₀))
    (hstart : s₀.step .execute = (.handed sql, s₁))
    (hduring : play step during s₁ = (meantime, s₂)) (hrunning : ∀ r ∈ meantime, r.isEnded = false)
    (hend : s₂.step .proceed = (.ended outcome, s₃))
    (hlog : s₂.audit = some rows) (hrec : IsRecorded outcome) :
    s₀.live.session.sql = .ok sql ∧
    ∃ row, s₃.audit = some (rows ++ [row]) ∧ row.sql = sql ∧ row.sessionId = s₀.live.session.id ∧
      ((row.queryId = s₀.live.session.canvas.id ∧ row.queryName = s₀.live.session.canvas.name) ↔
        (∀ r ∈ meantime, r.isNewQuery = false) ∧
          s₂.live.session.canvas.name = s₀.live.session.canvas.name) := by
  have hid₀ : Identified s₀.live := by
    have := identified_play (a := ⟨.opened dialect cat limit ids clock, store⟩) before
      (identified_opened dialect cat limit ids clock)
    rwa [hbefore] at this
  have hid₁ : Identified s₁.live := by
    have := identified_play [.execute] hid₀
    rwa [play, hstart] at this
  have hmoves := s₀.step_moves .execute
  rw [hstart] at hmoves
  obtain ⟨hsql, hrun₁⟩ := hmoves.started
  obtain ⟨hcanvas, -⟩ := hmoves.canvas rfl
  have hfirst : Meanwhile s₁.live sql [] s₁.live :=
    ⟨hid₁, .same (Nat.le_refl _) (by simp) rfl, rfl, _, hrun₁, rfl⟩
  have hmeanwhile := meanwhile_play during hfirst (by rw [hduring]; exact hrunning)
  rw [hduring] at hmeanwhile
  obtain ⟨run, hrun, rfl⟩ := hmeanwhile.running
  have hended := s₂.step_moves .proceed
  rw [hend] at hended
  obtain ⟨run', answer, hrun', -, hout, -, -⟩ := hended.ended
  have hrows : ∀ r, outcome = .ok r → r.sql = run.sql := fun r hr => by
    rw [hrun] at hrun'
    rw [Option.some.inj hrun']
    exact Run.sql_of_outcome (hout.trans hr)
  -- The row is written when the run has ended, with the canvas of that moment.
  have haudit := step_ended (congrArg Prod.fst hend) hrun
  have hlast := s₂.live.step_moves .proceed
  rw [← (s₂.step_live .proceed).1, hend] at hlast
  obtain ⟨hcanvas₂, -⟩ := hlast.canvas rfl
  obtain ⟨row, hrow, hrowSql, hrowId, hrowQuery, hrowName⟩ :=
    AuditStore.record_eq hrec hrows (s₂.live.step .proceed).2.session rows (s₂.live.step .proceed).2.clock
  refine ⟨hsql, row, ?_, hrowSql, ?_, ?_⟩
  · rw [← hrow, ← hlog, ← haudit, hend]
  · rw [hrowId, hlast.id, hmeanwhile.id, hmoves.id]
  · rw [hrowQuery, hrowName, hcanvas₂, ← hmeanwhile.since.id_eq_iff hid₁, hcanvas]

/-- A session on the shop whose executions are recorded. -/
def shopTrail : AuditedSession :=
  ⟨.opened .ansi shop .null .fresh .fresh, some []⟩

/-- The session when its statement is with the warehouse. -/
def ordersHanded : AuditedSession :=
  (play step [.edit (.addTable (.text "orders")), .execute] shopTrail).2

/-- Then the limit is set and the warehouse answers. -/
def ordersAnswered : AuditedSession :=
  (play step [.edit (.setLimit (.int 5)), .answer (.rows (some []))] ordersHanded).2

/-- The row has the statement without the limit, and the query. -/
theorem row_ordersAnswered : ∃ row, (ordersAnswered.step .proceed).2.audit = some [row] ∧
    row.sql = "SELECT *\nFROM orders" ∧ row.queryId = .text "id-2" ∧ row.queryName = .text "New Query" := by
  have hbefore : play step [.edit (.addTable (.text "orders"))] shopTrail =
      ([.edited (.ok (.flag true))], (shopTrail.step (.edit (.addTable (.text "orders")))).2) := rfl
  have hstart : (shopTrail.step (.edit (.addTable (.text "orders")))).2.step .execute =
      (.handed "SELECT *\nFROM orders", ordersHanded) := rfl
  have hduring : play step [.edit (.setLimit (.int 5)), .answer (.rows (some []))] ordersHanded =
      ([.edited (.ok .done), .answered (.rows (some []))], ordersAnswered) := rfl
  have hend : ordersAnswered.step .proceed =
      (.ended (.ok ⟨"SELECT *\nFROM orders", []⟩), (ordersAnswered.step .proceed).2) := rfl
  obtain ⟨-, row, haudit, hsql, -, hquery⟩ :=
    row_of_execution hbefore hstart hduring (by simp [Report.isEnded]) hend rfl nofun
  obtain ⟨hid, hname⟩ := hquery.2 ⟨by simp [Report.isNewQuery], rfl⟩
  exact ⟨row, haudit, hsql, hid, hname⟩

/-- **The row names another query** than the one that its statement was compiled from, if a new query is
started before the warehouse answers. -/
theorem row_of_another_query : ordersHanded.live.session.canvas.id = .text "id-2" ∧
    ∃ row,
      (play step [.newQuery (.text "Q"), .answer (.rows (some [])), .proceed] ordersHanded).2.audit = some [row] ∧
      row.sql = "SELECT *\nFROM orders" ∧ row.queryId = .text "id-3" ∧ row.queryName = .text "Q" :=
  ⟨rfl, _, rfl, rfl, rfl, rfl⟩

end AuditedSession

/-! ## The service -/

/-- A session of the service and its log, as an audited session. -/
def Http.App.audited (a : Http.App) (s : Session) : AuditedSession :=
  ⟨⟨s, a.ids, a.clock⟩, a.audit⟩

/-- The session behind three events in a row: a statement is handed over, the warehouse answers, and the run
ends and is recorded. -/
def Http.App.executed (a : Http.App) (s : Session) (sql : String) : AuditedSession :=
  (play AuditedSession.step [.execute, .answer (a.warehouse.run sql).1, .proceed] (a.audited s)).2

/-- What a log holds once a row may have been written to it is a log again. -/
theorem AuditStore.record_or (store : AuditStore) (s : Session) (sql : String) (outcome : Outcome) (clock : Clock) :
    (store.record s sql outcome clock).1.or store = (store.record s sql outcome clock).1 := by
  cases store with
  | none => rfl
  | some rows =>
    unfold record
    dsimp only
    split <;> rfl

/-- **The service executes** as these three events. Only if the log cannot take the row it stays as it was. -/
theorem execute_played {a : Http.App} {s s' : Session} {sql : String} {clock : Clock}
    (h : s.begin a.clock = .ok (sql, s', clock)) :
    (a.execute s).2.audit = (if Http.isRecordable s.canvas then (a.executed s sql).audit else a.audit) ∧
      (a.execute s).2.registry =
        a.registry.replace (a.executed s sql).live.session.id (a.executed s sql).live.session := by
  have hm := LiveSession.begin_moves h
  cases hm with
  | handed now hsql hidle =>
    simp only [Http.App.execute, h, Http.App.executed, Http.App.audited, play, AuditedSession.step,
      LiveSession.step, Session.finish, Session.receive, Session.accepts, Session.isWaiting, Session.resume,
      Option.isSome_some, Option.isNone_none, Bool.and_self, if_true, Option.any_some, Bool.false_eq_true,
      if_false, Option.all_none]
    cases Run.outcome s.limit ⟨sql, false⟩ (a.warehouse.run sql).1 <;> cases Http.isRecordable s.canvas
    · exact ⟨rfl, rfl⟩
    · exact ⟨AuditStore.record_or _ _ _ _ _, rfl⟩
    · exact ⟨rfl, rfl⟩
    · exact ⟨AuditStore.record_or _ _ _ _ _, rfl⟩

end QueryCanvas
