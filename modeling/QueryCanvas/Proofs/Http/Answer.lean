import QueryCanvas.Proofs.Http.Service

/-!
# What answers leave alone

A request is answered without a look at the log of requests, on whatever host the service runs.

* `Result.IsUsual`: what an endpoint answers, next to failures and crashes, has a status of its own below theirs.
* `Unlogged`: such an answer, with the log and the host as they were. `unlogged_answer` says that every request but
  a preflight is answered so, and `host_handle` that no request moves the service to another host.
-/

namespace QueryCanvas.Http

variable {a : App} {t : Target} {n : Nat} {key : String}

/-! ## Results of requests -/

/-- **A result as requests have it**: what is done, refused or sent elsewhere has a status of its own, below those of
failures and crashes. No endpoint answers a preflight. -/
def Result.IsUsual : Result → Prop
  | .done n _ | .refused n _ => n < 500
  | .preflight _ => False
  | _ => True

/-- **What is answered without the log**: a usual result, the log as it was, and the same host. -/
structure Unlogged (a : App) (out : Result × App) : Prop where
  usual : out.1.IsUsual
  log : out.2.requestLog = a.requestLog
  host : out.2.host = a.host

theorem usual_compiled (hn : n < 500) (x : Except Sql.CompileError Value) : (App.compiled n x).IsUsual := by
  cases x with
  | ok v => exact hn
  | error e => trivial

theorem usual_ofEditError (err : EditError) : (Result.ofEditError err).IsUsual := by
  unfold Result.ofEditError
  split <;> trivial

theorem unlogged_withSession {f : Session → App → Result × App} (h : ∀ s a, Unlogged a (f s a)) :
    Unlogged a (a.withSession key f) := by
  unfold App.withSession
  split
  next s registry clock hget => exact ⟨(h s _).usual, (h s _).log, (h s _).host⟩
  next => exact ⟨Nat.le_of_ble_eq_true rfl, rfl, rfl⟩

theorem unlogged_keep (s : Session) (a : App) : Unlogged a (a.keep s) :=
  ⟨usual_compiled (Nat.le_of_ble_eq_true rfl) _, rfl, rfl⟩

theorem unlogged_edit (e : Edit) (s : Session) (a : App) : Unlogged a (a.edit e s) := by
  unfold App.edit
  split
  next ids hedit => exact ⟨(unlogged_keep _ _).usual, rfl, rfl⟩
  next err s ids hedit => exact ⟨usual_ofEditError err, rfl, rfl⟩

theorem unlogged_bodyRequest (k : BodyKind) (body : String) : Unlogged a (a.bodyRequest k key body) := by
  unfold App.bodyRequest
  split
  next r hbody =>
    refine ⟨?_, rfl, rfl⟩
    unfold App.bodyValue at hbody
    split at hbody
    · cases hbody
    · split at hbody <;> cases hbody
      · trivial
      all_goals exact Nat.le_of_ble_eq_true rfl
  next v hbody =>
    refine unlogged_withSession fun s b => ?_
    split
    next c hc =>
      unfold App.command
      split
      · exact unlogged_edit _ s b
      · exact ⟨(unlogged_keep _ _).usual, rfl, rfl⟩
    next => exact ⟨trivial, rfl, rfl⟩

theorem unlogged_startSession : Unlogged a a.startSession := by
  unfold App.startSession
  split
  next => exact ⟨trivial, rfl, rfl⟩
  next report hreport =>
    dsimp only
    split
    · exact ⟨trivial, rfl, rfl⟩
    · refine ⟨?_, rfl, rfl⟩
      dsimp only
      exact usual_compiled (Nat.le_of_ble_eq_true rfl) _

theorem unlogged_endSession : Unlogged a (a.endSession key) := by
  unfold App.endSession
  split <;> exact ⟨Nat.le_of_ble_eq_true rfl, rfl, rfl⟩

theorem unlogged_removePart (kind item : String) (s : Session) (a : App) :
    Unlogged a (App.removePart kind item s a) := by
  unfold App.removePart
  split
  · exact unlogged_edit _ s a
  · exact ⟨Nat.le_of_ble_eq_true rfl, rfl, rfl⟩

theorem unlogged_suggestJoins (s : Session) (a : App) : Unlogged a (App.suggestJoins t s a) := by
  unfold App.suggestJoins
  split
  · exact ⟨Nat.le_of_ble_eq_true rfl, rfl, rfl⟩
  · exact ⟨trivial, rfl, rfl⟩

theorem unlogged_execute (s : Session) (a : App) : Unlogged a (a.execute s) := by
  unfold App.execute
  split
  next => exact ⟨trivial, rfl, rfl⟩
  next sql s clock hbegin =>
    split
    split
    next => exact ⟨trivial, rfl, rfl⟩
    next outcome s hfinish =>
      split
      dsimp only
      split
      · exact ⟨Nat.le_of_ble_eq_true rfl, rfl, rfl⟩
      · exact ⟨trivial, rfl, rfl⟩

theorem usual_executions : (a.executions key t).IsUsual := by
  unfold App.executions
  split
  · trivial
  · trivial
  · exact Nat.le_of_ble_eq_true rfl

theorem usual_executionSummary : (a.executionSummary key).IsUsual := by
  unfold App.executionSummary
  split
  · trivial
  · exact Nat.le_of_ble_eq_true rfl

/-- **Every endpoint** answers without the log. -/
theorem unlogged_atEndpoint (e : Endpoint) (t : Target) (body : String) : Unlogged a (a.atEndpoint e t body) := by
  cases hb : e.body? with
  | some b =>
    rw [atEndpoint_body hb]
    exact unlogged_bodyRequest _ body
  | none =>
    cases e with
    | documentation => exact ⟨trivial, rfl, rfl⟩
    | startSession => exact unlogged_startSession
    | endSession => exact unlogged_endSession
    | showSession | showSql =>
      exact unlogged_withSession fun s b => ⟨usual_compiled (Nat.le_of_ble_eq_true rfl) _, rfl, rfl⟩
    | showCatalog | cancel => exact unlogged_withSession fun s b => ⟨Nat.le_of_ble_eq_true rfl, rfl, rfl⟩
    | suggestJoins => exact unlogged_withSession unlogged_suggestJoins
    | removeTable => exact unlogged_withSession (unlogged_edit _)
    | removePart => exact unlogged_withSession (unlogged_removePart _ _)
    | execute => exact unlogged_withSession unlogged_execute
    | executions => exact ⟨usual_executions, rfl, rfl⟩
    | executionSummary => exact ⟨usual_executionSummary, rfl, rfl⟩
    | _ => cases hb

/-- **Every request** is answered without the log, unless it is a preflight. -/
theorem unlogged_answer (a : App) {r : Request} (h : r.preflight? = none) (t : Target) : Unlogged a (a.answer r t) := by
  unfold App.answer App.route
  rw [h]
  dsimp only
  split
  · exact unlogged_atEndpoint _ t r.body
  · exact ⟨Nat.le_of_ble_eq_true rfl, rfl, rfl⟩
  · exact ⟨trivial, rfl, rfl⟩
  · exact ⟨Nat.le_of_ble_eq_true rfl, rfl, rfl⟩

/-- **No request moves the service** to another host. -/
theorem host_handle (a : App) (r : Request) : (a.handle r).2.host = a.host := by
  have hsame : (a.answer r (Target.ofText r.target)).2.host = a.host := by
    cases h : r.preflight? with
    | none => exact (unlogged_answer a h _).host
    | some method => rw [App.answer, h]
  exact hsame

end QueryCanvas.Http
