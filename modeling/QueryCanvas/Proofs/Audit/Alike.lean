import Mathlib.Data.Option.Basic
import QueryCanvas.Proofs.Audit.Reading
import QueryCanvas.Proofs.Audit.Trail
import QueryCanvas.Proofs.Session.Alike

/-!
# Logs that differ in ids and times

What is recorded of runs that end alike in sessions that are alike.

* `AuditRow.Alike`: rows that differ in their number, the time, and the id of the query.
* `AuditStore.Alike`: logs in which the rows of a session are alike, from some point on.
* `AuditedSession.step_alike`, `play_alike`: what events lead to in two sessions with such logs.
-/

namespace QueryCanvas

variable {ρ : Equiv.Perm String} {key : String} {old : List AuditRow}

/-! ## Rows -/

/-- **Rows that are alike** but for their number, the time, and the id of the query. -/
structure AuditRow.Alike (ρ : Equiv.Perm String) (r r' : AuditRow) : Prop where
  sessionId : r'.sessionId = r.sessionId
  queryId : r'.queryId = r.queryId.renamed ρ
  queryName : r'.queryName = r.queryName
  sql : r'.sql = r.sql
  rowCount : r'.rowCount = r.rowCount
  executionTime : r'.executionTime = r.executionTime
  success : r'.success = r.success
  errorType : r'.errorType = r.errorType
  errorMessage : r'.errorMessage = r.errorMessage

namespace AuditStore

/-- The rows of a session, if there is a log. -/
def of (key : String) (store : AuditStore) : Option (List AuditRow) :=
  store.map fun rows => rows.filter (·.sessionId == key)

variable {store store' : AuditStore} {s s' : Session} {sql : String} {outcome : Outcome} {clock clock' : Clock}

/-- **Logs that are alike** for a session: the same old rows, and then rows that are alike. -/
def Alike (ρ : Equiv.Perm String) (key : String) (old : List AuditRow) (store store' : AuditStore) : Prop :=
  Option.Rel (fun rows rows' => ∃ added added', rows = old ++ added ∧ rows' = old ++ added' ∧
    List.Forall₂ (AuditRow.Alike ρ) added added') (store.of key) (store'.of key)

/-- What is recorded of another session is not seen. -/
theorem of_record (h : s.id ≠ key) : AuditStore.of key (store.record s sql outcome clock).1 = store.of key := by
  cases store with
  | none => rfl
  | some rows =>
    cases outcome with
    | ok r => simp [record, AuditEntry.ofOutcome, AuditLog.create, of, h]
    | error e =>
      by_cases he : AuditEntry.isRecorded e = true
      · simp [record, AuditEntry.ofOutcome, he, AuditLog.create, of, h]
      · simp [record, AuditEntry.ofOutcome, he, of]

/-- Of logs that are alike both can be read, or neither. -/
theorem Alike.cases (h : Alike ρ key old store store') : (store = none ∧ store' = none) ∨
    ∃ rows rows' added added', store = some rows ∧ store' = some rows' ∧
      rows.filter (·.sessionId == key) = old ++ added ∧ rows'.filter (·.sessionId == key) = old ++ added' ∧
      List.Forall₂ (AuditRow.Alike ρ) added added' := by
  cases store with
  | none =>
    cases store' with
    | none => exact .inl ⟨rfl, rfl⟩
    | some rows' => cases h
  | some rows =>
    cases store' with
    | none => cases h
    | some rows' =>
      obtain ⟨added, added', hold, hold', hadded⟩ := Option.rel_some_some.1 h
      exact .inr ⟨rows, rows', added, added', rfl, rfl, hold, hold', hadded⟩

/-- A row more on each side. -/
theorem Alike.snoc {rows rows' : List AuditRow} {row row' : AuditRow}
    (h : Alike ρ key old (some rows) (some rows')) (hid : row.sessionId = key) (hrow : row.Alike ρ row') :
    Alike ρ key old (some (rows ++ [row])) (some (rows' ++ [row'])) := by
  obtain ⟨added, added', hold, hold', hadded⟩ := Option.rel_some_some.1 h
  have hid' : row'.sessionId = key := hrow.sessionId.trans hid
  refine Option.rel_some_some.2 ⟨added ++ [row], added' ++ [row'], ?_, ?_, ?_⟩
  · simp [hid, hold]
  · simp [hid', hold']
  · exact List.rel_append hadded (.cons hrow .nil)

/-- **The same end of a run is recorded alike** in sessions that are alike. -/
theorem Alike.record (h : Alike ρ key old store store') (hs : s.Alike ρ s') (hid : s.id = key) :
    Alike ρ key old (store.record s sql outcome clock).1 (store'.record s' sql outcome clock').1 := by
  have hquery : s'.canvas.id = s.canvas.id.renamed ρ ∧ s'.canvas.name = s.canvas.name := by
    rw [hs.canvas]
    exact ⟨rfl, rfl⟩
  obtain ⟨rfl, rfl⟩ | ⟨rows, rows', -, -, rfl, rfl, -⟩ := h.cases
  · exact h
  · cases outcome with
    | ok r => exact h.snoc hid ⟨hs.id, hquery.1, hquery.2, rfl, rfl, rfl, rfl, rfl, rfl⟩
    | error e =>
      by_cases he : AuditEntry.isRecorded e = true
      · simp only [AuditStore.record, AuditEntry.ofOutcome, he, if_true]
        exact h.snoc hid ⟨hs.id, hquery.1, hquery.2, rfl, rfl, rfl, rfl, rfl, rfl⟩
      · simp only [AuditStore.record, AuditEntry.ofOutcome, he]
        exact h

/-- A summary counts the rows of a session alone. -/
theorem summary_of {kept : List AuditRow} {rows : List AuditRow} (h : rows.filter (·.sessionId == key) = kept) :
    AuditLog.summary rows key = ⟨kept.length, kept.countP (·.success), kept.countP (!·.success)⟩ := by
  rw [AuditLog.summary_eq, ← h, List.countP_filter, List.countP_filter, List.countP_eq_length_filter]
  simp only [Bool.and_comm]

/-- Rows that are alike are counted alike. -/
theorem countP_alike {rows rows' : List AuditRow} (h : List.Forall₂ (AuditRow.Alike ρ) rows rows') (f : Bool → Bool) :
    rows'.countP (fun r => f r.success) = rows.countP fun r => f r.success := by
  induction h with
  | nil => rfl
  | cons hrow hrows ih => rw [List.countP_cons, List.countP_cons, ih, hrow.success]

/-- **The summaries of a session** in logs that are alike are the same. -/
theorem Alike.summary (h : Alike ρ key old store store') :
    (store'.map fun rows => AuditLog.summary rows key) = store.map fun rows => AuditLog.summary rows key := by
  obtain ⟨rfl, rfl⟩ | ⟨rows, rows', added, added', rfl, rfl, hold, hold', hadded⟩ := h.cases
  · rfl
  · have hsucceeded := countP_alike hadded id
    have hfailed := countP_alike hadded not
    simp only [id] at hsucceeded
    rw [Option.map_some, Option.map_some, summary_of hold, summary_of hold', List.length_append, List.length_append,
      List.countP_append, List.countP_append, List.countP_append, List.countP_append, hadded.length_eq, hsucceeded,
      hfailed]

end AuditStore

/-! ## Audited sessions -/

namespace AuditedSession

variable {x x' : AuditedSession} {e : Event}

/-- **Audited sessions that are alike**, with an id. -/
structure Alike (ρ : Equiv.Perm String) (key : String) (old : List AuditRow) (x x' : AuditedSession) : Prop where
  session : x.live.session.Alike ρ x'.live.session
  id : x.live.session.id = key
  log : x.audit.Alike ρ key old x'.audit

/-- What happens in another session is not seen in the log. -/
theorem of_step (h : x.live.session.id ≠ key) (e : Event) :
    AuditStore.of key (x.step e).2.audit = AuditStore.of key x.audit := by
  simp only [step]
  split
  next outcome run hreport hrun =>
    refine AuditStore.of_record ?_
    rwa [(x.live.step_moves e).id]
  next => rfl

/-- What leaves the canvas alone takes no id. -/
theorem ids_step_kept (x : AuditedSession) (he : e.keepsCanvas = true) : (x.step e).2.live.ids = x.live.ids := by
  obtain ⟨-, clock, hlive⟩ := x.step_live e
  rw [hlive]
  exact (x.live.step_kept he).2.2

/-- What leaves the canvas alone leaves alike what was alike. -/
theorem step_kept_alike (h : x.Alike ρ key old x') (he : e.keepsCanvas = true) :
    (x.step e).2.Alike ρ key old (x'.step e).2 := by
  obtain ⟨hreport, hsession⟩ := LiveSession.step_kept_alike h.session he
  have hid := (x.live.step_moves e).id.trans h.id
  simp only [step, hreport, h.session.running]
  split
  next outcome run hended hrun => exact ⟨hsession, hid, h.log.record hsession hid⟩
  next => exact ⟨hsession, hid, h.log⟩

/-- **An event in sessions that are alike** leaves them alike, and their logs, if the ids that it takes match. -/
theorem step_alike (h : x.Alike ρ key old x') (e : Event) :
    Draws ρ x.live.ids x'.live.ids (x.step e).2.live.ids (x'.step (e.renamed ρ)).2.live.ids
      ((x.step e).2.Alike ρ key old (x'.step (e.renamed ρ)).2) := by
  by_cases he : e.keepsCanvas = true
  · rw [Event.renamed_kept he, x.ids_step_kept he, x'.ids_step_kept he]
    exact ⟨0, rfl, rfl, fun _ => step_kept_alike h he⟩
  · have hended : (x.step e).1.isEnded = false ∧ (x'.step (e.renamed ρ)).1.isEnded = false := by
      cases e <;> first | exact ⟨rfl, rfl⟩ | exact absurd rfl he
    rw [step_unended hended.1, step_unended hended.2]
    obtain ⟨n, hids, hids', halike⟩ := LiveSession.step_alike h.session e
    exact ⟨n, hids, hids', fun hm => ⟨halike hm, (x.live.step_moves e).id.trans h.id, h.log⟩⟩

/-! ### Events in a row -/

/-- Events give a session no other id. -/
theorem id_play (events : List Event) (x : AuditedSession) :
    (play step events x).2.live.session.id = x.live.session.id := by
  induction events generalizing x with
  | nil => rfl
  | cons e events ih => exact (ih (x.step e).2).trans (x.step_moves e).id

/-- Events that leave the canvas alone take no id. -/
theorem ids_play_kept {events : List Event} (hkept : ∀ e ∈ events, e.keepsCanvas = true) (x : AuditedSession) :
    (play step events x).2.live.ids = x.live.ids := by
  induction events generalizing x with
  | nil => rfl
  | cons e events ih =>
    have he : e.keepsCanvas = true := hkept e List.mem_cons_self
    exact (ih (fun y hy => hkept y (List.mem_cons_of_mem e hy)) (x.step e).2).trans (x.ids_step_kept he)

/-- Whatever happens in another session is not seen in the log. -/
theorem of_play (h : x.live.session.id ≠ key) (events : List Event) :
    AuditStore.of key (play step events x).2.audit = AuditStore.of key x.audit := by
  induction events generalizing x with
  | nil => rfl
  | cons e events ih =>
    have hid : (x.step e).2.live.session.id ≠ key := by rwa [(x.step_moves e).id]
    exact (ih hid).trans (of_step h e)

/-- **Events in a row**, of which only the last may change the canvas. -/
theorem play_alike (h : x.Alike ρ key old x') {events : List Event}
    (hkept : ∀ e ∈ events.dropLast, e.keepsCanvas = true) :
    Draws ρ x.live.ids x'.live.ids (play step events x).2.live.ids
      (play step (events.map (Event.renamed ρ)) x').2.live.ids
      ((play step events x).2.Alike ρ key old (play step (events.map (Event.renamed ρ)) x').2) := by
  induction events generalizing x x' with
  | nil => exact ⟨0, rfl, rfl, fun _ => h⟩
  | cons e events ih =>
    cases events with
    | nil => exact step_alike h e
    | cons e' events =>
      have he : e.keepsCanvas = true := hkept e List.mem_cons_self
      have hrest := ih (step_kept_alike h he) fun y hy => hkept y (List.mem_cons_of_mem e hy)
      rw [x.ids_step_kept he, x'.ids_step_kept he] at hrest
      rw [List.map_cons, Event.renamed_kept he]
      exact hrest

end AuditedSession

end QueryCanvas
