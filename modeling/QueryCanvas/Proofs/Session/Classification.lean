import QueryCanvas.Proofs.Session.Execution
import QueryCanvas.Proofs.Session.Flight

/-!
# How an execution ends

The wait for an answer may be long: the canvas is edited meanwhile, a new query is started, further executions
are refused. The run ends all the same by the answer alone, and says of it what it was, with one exception: the
warehouse's own time limit is taken for that of the session.

* `Pending`: a run that nobody called off, and the answer that ended the wait for it. `Moves.pending` is the step
  of the invariant, `pending_play` the induction over the events.
* `Classified`: what an execution makes of each answer. `Faithful`: what it should make of it.
* `execution_classified`: every execution of an idle session is classified, and faithfully exactly if the
  answer is no end of a time limit.
* `ended_timedOut_early`: a run that ends timed out although the warehouse answered at once.
-/

namespace QueryCanvas

/-! ## Answers -/

/-- The answer that ends a wait, or that takes the place of the one that did. -/
def Report.arrival? : Report → Option Answer
  | .answered a | .interrupted a => some a
  | _ => none

/-- The answer that counts after some reports of a run. An answer that comes when the time limit has ended does
not count. -/
def arrivalOf? (reports : List Report) : Option Answer :=
  (reports.filterMap Report.arrival?).getLast?

/-- Whether an answer is a fault that says that some time limit has ended. -/
def Answer.isTimeoutFault : Answer → Bool
  | .fault f => f.kind.isTimeout
  | _ => false

/-- **What an execution makes of an answer**, in the order in which the kinds of a fault are told apart. -/
inductive Classified (sql : String) (limit : Value) : Answer → Outcome → Prop
  | rows (rows : Option (List Row)) : Classified sql limit (.rows rows) (.ok ⟨sql, rows.getD []⟩)
  | silence : Classified sql limit .silence (.error (.timedOut limit))
  | calledOff : Classified sql limit .abandoned (.error .abandoned)
  | abandoned {f : Fault} (hkind : f.kind = .abandoned) : Classified sql limit (.fault f) (.error .abandoned)
  | timedOut {f : Fault} (htimeout : f.kind.isTimeout = true) :
      Classified sql limit (.fault f) (.error (.timedOut limit))
  | passedOn {f : Fault} (htimeout : f.kind.isTimeout = false) (hexecution : f.kind.isExecution = true) :
      Classified sql limit (.fault f) (.error (.passedOn f))
  | wrapped {f : Fault} (htimeout : f.kind.isTimeout = false) (hexecution : f.kind.isExecution = false)
      (hkind : f.kind ≠ .abandoned) : Classified sql limit (.fault f) (.error (.wrapped f))

/-- **What an execution owes its caller** for an answer. -/
structure Faithful (sql : String) (a : Answer) (o : Outcome) : Prop where
  /-- Rows are the result, under the names of the first row. -/
  rows : ∀ rows, a = .rows rows → ∃ r, o = .ok r ∧ r.sql = sql ∧ r.rows = rows.getD [] ∧
    r.columns = ((rows.getD []).head?.map fun row => row.map (·.1)).getD []
  /-- A fault of one of the execution kinds is passed on. -/
  passedOn : ∀ f, a = .fault f → f.kind.isExecution = true → o = .error (.passedOn f)
  /-- Any other one, but that the warehouse gave up, is wrapped in one of the execution kinds, with its text or
  the name of its kind. -/
  wrapped : ∀ f, a = .fault f → f.kind.isExecution = false → f.kind ≠ .abandoned → ∃ e, o = .error e ∧
    e = .wrapped f ∧ e.kind = .execution ∧ e.message = (if f.message = "" then f.kind.name else f.message) ∧
    e.cause? = some f.kind
  /-- An execution times out only without an answer. -/
  timedOut : ∀ limit, o = .error (.timedOut limit) → a = .silence

variable {sql : String} {limit : Value} {a : Answer} {o : Outcome} {reports : List Report} {s s' : Session}
variable {r : Report}

/-- A run that nobody called off is classified. -/
theorem classified_outcome (a : Answer) : Classified sql limit a ((Run.mk sql false).outcome limit a) := by
  cases a with
  | rows rows => exact .rows rows
  | silence => exact .silence
  | abandoned => exact .calledOff
  | fault f =>
    simp only [Run.outcome]
    by_cases hkind : f.kind = .abandoned
    · rw [if_pos hkind]
      exact .abandoned hkind
    · rw [if_neg hkind, RunError.ofFault]
      cases htimeout : f.kind.isTimeout with
      | true => exact .timedOut htimeout
      | false =>
        cases hexecution : f.kind.isExecution with
        | true => exact .passedOn htimeout hexecution
        | false => exact .wrapped htimeout hexecution hkind

theorem QueryResult.columns_eq (r : QueryResult) :
    r.columns = (r.rows.head?.map fun row => row.map (·.1)).getD [] := by
  unfold columns
  cases r.rows <;> rfl

/-- **Only the end of a time limit is misread**: it is taken for that of the session. -/
theorem Classified.faithful_iff (h : Classified sql limit a o) : Faithful sql a o ↔ a.isTimeoutFault = false := by
  cases h with
  | rows rows =>
    refine iff_of_true ?_ rfl
    exact
      { rows := fun rows' h => by
          cases h
          exact ⟨_, rfl, rfl, rfl, QueryResult.columns_eq _⟩
        passedOn := nofun
        wrapped := nofun
        timedOut := nofun }
  | silence =>
    exact iff_of_true { rows := nofun, passedOn := nofun, wrapped := nofun, timedOut := fun _ _ => rfl } rfl
  | calledOff => exact iff_of_true { rows := nofun, passedOn := nofun, wrapped := nofun, timedOut := nofun } rfl
  | @abandoned f hkind =>
    have hplain : f.kind.isTimeout = false ∧ f.kind.isExecution = false := by
      rw [hkind]
      exact ⟨rfl, rfl⟩
    refine iff_of_true ?_ hplain.1
    exact
      { rows := nofun
        passedOn := fun f' h hexecution => by
          cases h
          rw [hplain.2] at hexecution
          cases hexecution
        wrapped := fun f' h _ hne => by
          cases h
          exact absurd hkind hne
        timedOut := nofun }
  | @timedOut f htimeout =>
    refine iff_of_false (fun h => ?_) (by simp [Answer.isTimeoutFault, htimeout])
    cases h.timedOut limit rfl
  | @passedOn f htimeout hexecution =>
    refine iff_of_true ?_ htimeout
    exact
      { rows := nofun
        passedOn := fun f' h _ => by
          cases h
          rfl
        wrapped := fun f' h hplain _ => by
          cases h
          rw [hexecution] at hplain
          cases hplain
        timedOut := nofun }
  | @wrapped f htimeout hexecution hkind =>
    refine iff_of_true ?_ htimeout
    exact
      { rows := nofun
        passedOn := fun f' h hpassed => by
          cases h
          rw [hexecution] at hpassed
          cases hpassed
        wrapped := fun f' h _ _ => by
          cases h
          exact ⟨_, rfl, rfl, rfl, rfl, rfl⟩
        timedOut := nofun }

/-! ## The wait -/

/-- **A run that waits or has its answer**: nobody called it off, and what came of the wait is what the reports
say. -/
structure Pending (sql : String) (limit : Value) (reports : List Report) (s : Session) : Prop where
  running : s.running = some ⟨sql, false⟩
  arrived : s.arrived = arrivalOf? reports
  limit : s.limit = limit

theorem arrivalOf?_snoc (reports : List Report) (r : Report) :
    arrivalOf? (reports ++ [r]) = r.arrival?.or (arrivalOf? reports) := by
  unfold arrivalOf?
  cases h : r.arrival? <;> simp [h]

/-- Whatever happens meanwhile, only an answer ends the wait. -/
theorem Moves.pending (hm : Moves s r s') (h : Pending sql limit reports s) (hended : r.isEnded = false)
    (hcancel : r ≠ .cancelled true) : Pending sql limit (reports ++ [r]) s' := by
  have hrunning := h.running
  have hsnoc := arrivalOf?_snoc reports r
  cases hm with
  | handed now hsql hidle =>
    rw [hidle] at hrunning
    cases hrunning
  | rows hrun harr hok => cases hended
  | failed hrun harr herr => cases hended
  | cancelled hrun harr => exact absurd rfl hcancel
  | answered a hrun harr => exact { h with arrived := hsnoc.symm }
  | interrupted hrun harr hforce => exact { h with arrived := hsnoc.symm }
  | refused herr => exact { h with arrived := h.arrived.trans hsnoc.symm }
  | notCancelled hidle => exact { h with arrived := h.arrived.trans hsnoc.symm }
  | newQuery c now => exact { h with arrived := h.arrived.trans hsnoc.symm }
  | edited reply c => exact { h with arrived := h.arrived.trans hsnoc.symm }
  | nothing now => exact { h with arrived := h.arrived.trans hsnoc.symm }

namespace LiveSession

/-- Neither the end of a run nor a cancellation is among some reports. -/
def Uncalled (reports : List Report) : Prop :=
  ∀ r ∈ reports, r.isEnded = false ∧ r ≠ .cancelled true

/-- **The wait**, over any number of events. -/
theorem pending_play {s : LiveSession} (h : Pending sql limit [] s.session) (events : List Event)
    (hquiet : Uncalled (play step events s).1) :
    Pending sql limit (play step events s).1 (play step events s).2.session := by
  induction events using List.reverseRecOn with
  | nil => exact h
  | append_singleton events e ih =>
    rw [play_snoc] at hquiet ⊢
    obtain ⟨hbefore, hlast⟩ := List.forall_mem_append.1 hquiet
    obtain ⟨hended, hcancel⟩ := hlast _ List.mem_cons_self
    exact (step_moves _ e).pending (ih hbefore) hended hcancel

/-- A run goes on with the answer that counts, and not without one. -/
theorem step_proceed {s : LiveSession} (h : Pending sql limit reports s.session) :
    (s.step .proceed).1 = match arrivalOf? reports with
      | some a => .ended ((Run.mk sql false).outcome limit a)
      | none => .nothing := by
  simp only [step, Session.resume, h.running, h.arrived, h.limit]
  cases arrivalOf? reports <;> rfl

/-- An execution of an idle session that has a query starts the wait. -/
theorem pending_execute {s : LiveSession} (hsql : s.session.sql = .ok sql) (hquery : Sql.isExecutable sql = true)
    (hidle : s.session.running = none) :
    (s.step .execute).1 = .handed sql ∧ Pending sql s.session.limit [] (s.step .execute).2.session := by
  have hne : sql ≠ Sql.noTables := by simpa [Sql.isExecutable] using hquery
  have hhanded := execute_query hsql hne hidle
  have hm := s.step_moves .execute
  rw [hhanded] at hm
  refine ⟨hhanded, ?_⟩
  generalize (s.step .execute).2.session = s' at hm
  cases hm with
  | handed now _ _ => exact ⟨rfl, rfl, rfl⟩

/-- **Classification.** An idle session that has a query hands it over. Whatever happens then, short of a
cancellation, the run does not end before an answer has come; it ends by the answer that counts, as `Classified`
says; and it does for it what it owes its caller exactly if the answer is no fault that says that a time limit has
ended. -/
theorem execution_classified {s t : LiveSession} {events : List Event} (hsql : s.session.sql = .ok sql)
    (hquery : Sql.isExecutable sql = true) (hidle : s.session.running = none)
    (hplay : play step events (s.step .execute).2 = (reports, t)) (hquiet : Uncalled reports) :
    (s.step .execute).1 = .handed sql ∧ (arrivalOf? reports = none → (t.step .proceed).1 = .nothing) ∧
      ∀ a, arrivalOf? reports = some a → ∃ o, (t.step .proceed).1 = .ended o ∧
        Classified sql s.session.limit a o ∧ (Faithful sql a o ↔ a.isTimeoutFault = false) := by
  obtain ⟨hhanded, hstart⟩ := pending_execute hsql hquery hidle
  have hpending := pending_play hstart events
  rw [hplay] at hpending
  have hproceed := step_proceed (hpending hquiet)
  refine ⟨hhanded, fun hnone => ?_, fun a ha => ?_⟩
  · rw [hproceed, hnone]
  · have hclassified : Classified sql s.session.limit a _ := classified_outcome a
    exact ⟨_, by rw [hproceed, ha], hclassified, hclassified.faithful_iff⟩

/-- A session on the shop that has a table. -/
def ordering : LiveSession :=
  (shopSession.step (.edit (.addTable (.text "orders")))).2

theorem sql_ordering : ordering.session.sql = .ok "SELECT *\nFROM orders" := rfl

/-- A connection that is lost while a new query is started is wrapped. -/
theorem classified_lost : ∃ reports t,
    play step [.newQuery (.text "Q"), .answer (.fault ⟨.connection, none⟩)] (ordering.step .execute).2 =
      (reports, t) ∧
    ∃ o, (t.step .proceed).1 = .ended o ∧ Faithful "SELECT *\nFROM orders" (.fault ⟨.connection, none⟩) o := by
  obtain ⟨t, hplay⟩ : ∃ t, play step [.newQuery (.text "Q"), .answer (.fault ⟨.connection, none⟩)]
      (ordering.step .execute).2 = ([.newQuery, .answered (.fault ⟨.connection, none⟩)], t) := ⟨_, rfl⟩
  have hquiet : Uncalled [.newQuery, .answered (.fault ⟨.connection, none⟩)] :=
    List.forall_mem_cons.2 ⟨⟨rfl, nofun⟩, List.forall_mem_singleton.2 ⟨rfl, nofun⟩⟩
  obtain ⟨-, -, hends⟩ := execution_classified sql_ordering (by decide) rfl hplay hquiet
  obtain ⟨o, hended, -, hfaithful⟩ := hends _ rfl
  exact ⟨_, t, hplay, o, hended, hfaithful.2 rfl⟩

/-- **Timed out at once**: the warehouse says that its pool of connections is exhausted, and the run ends as
if it had not answered within the time limit of the session. -/
theorem ended_timedOut_early :
    (play step [.execute, .answer (.fault ⟨.timeout, some "pool exhausted"⟩), .proceed] ordering).1 =
      [.handed "SELECT *\nFROM orders", .answered (.fault ⟨.timeout, some "pool exhausted"⟩),
        .ended (.error (.timedOut Session.defaultLimit))] ∧
    ¬Faithful "SELECT *\nFROM orders" (.fault ⟨.timeout, some "pool exhausted"⟩)
      (.error (.timedOut Session.defaultLimit)) := by
  refine ⟨rfl, fun h => ?_⟩
  cases h.timedOut _ rfl

end LiveSession

end QueryCanvas
