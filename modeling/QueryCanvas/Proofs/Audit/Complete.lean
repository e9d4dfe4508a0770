import QueryCanvas.Audit.Shared
import QueryCanvas.Proofs.Audit.Reading
import QueryCanvas.Proofs.Audit.Trail
import QueryCanvas.Proofs.Session.Alike

/-!
# Every execution is in the log

Sessions take turns, and each write to the log may fail. What came of the turns says what the log holds.

* `Tells`: what the row of an execution says of its outcome.
* `step_rows`, `step_flights`, `SameButLog.step`: what one turn adds to the log, how it moves the runs of the
  sessions, and that nothing else comes of it if the log cannot be written.
* `every_run_recorded`: one row for each run that ended and is to be recorded, and what reading the log then shows.
-/

namespace QueryCanvas

/-! ## The row of an outcome -/

/-- **A message as the log keeps it**: whole, or cut behind 997 characters and marked. -/
inductive Keeps (message : String) : String → Prop
  | whole (h : message.length ≤ 1000) : Keeps message message
  | cut (h : 1000 < message.length) : Keeps message (String.ofList (message.toList.take 997 ++ ['.', '.', '.']))

theorem Keeps.length_le {message kept : String} (h : Keeps message kept) : kept.length ≤ 1000 := by
  cases h with
  | whole h => exact h
  | cut h =>
    rw [String.length_ofList, List.length_append, List.length_take]
    exact Nat.add_le_add_right (Nat.min_le_left _ _) 3

theorem keeps_shortened (message : String) : Keeps message (Text.shortened AuditEntry.maxMessage message) := by
  unfold Text.shortened
  simp only [String.length_toList]
  by_cases h : 1000 < message.length
  · have hne : message.toList.isEmpty = false := by
      rw [List.isEmpty_eq_false_iff, ← List.length_pos_iff, String.length_toList]
      exact Nat.zero_lt_of_lt h
    have hlong : (AuditEntry.maxMessage : Int) < message.length := by exact_mod_cast h
    simp only [hne, hlong, decide_true, Bool.not_false, Bool.and_self, if_true]
    exact .cut h
  · have hshort : ¬(AuditEntry.maxMessage : Int) < message.length := by exact_mod_cast h
    simp only [hshort, decide_false, Bool.and_false, Bool.false_eq_true, if_false]
    exact .whole (Nat.le_of_not_lt h)

/-- Whether a run ended as if it had not reached the warehouse, or without anybody waiting for it. -/
def RunError.isPassedOver : RunError → Bool
  | .passedOn f => f.kind == .nothingToExecute || f.kind == .sessionBusy
  | .abandoned => true
  | _ => false

/-- Whether an outcome is one of those that are to be recorded. -/
def Report.isRecorded : Report → Bool
  | .ended (.ok _) => true
  | .ended (.error e) => !e.isPassedOver
  | _ => false

/-- A failed run is recorded unless it is passed over. -/
theorem Run.isRecorded_outcome {run : Run} {limit : Value} {a : Answer} {e : RunError}
    (h : run.outcome limit a = .error e) : AuditEntry.isRecorded e = !e.isPassedOver := by
  have hcalled : ∀ run : Run, AuditEntry.isRecorded run.calledOff = !run.calledOff.isPassedOver := fun run => by
    unfold Run.calledOff
    split <;> rfl
  cases a with
  | rows rows => cases h
  | silence =>
    cases h
    rfl
  | abandoned =>
    cases h
    exact hcalled run
  | fault f =>
    simp only [Run.outcome, Except.error.injEq] at h
    split at h
    · exact h ▸ hcalled run
    · subst h
      unfold RunError.ofFault
      split
      · rfl
      · split
        next hexec => simp [AuditEntry.isRecorded, RunError.kind, RunError.isPassedOver, hexec, bne]
        next => rfl

/-- **What a row tells** of the outcome of an execution: rows are counted, and a failure is named and its message
kept. -/
inductive Tells (session : String) : Outcome → AuditRow → Prop
  | rows {r : QueryResult} {row : AuditRow} (hsession : row.sessionId = session) (hsuccess : row.success = true)
      (hcount : row.rowCount = some (r.rows.length : Int)) (htype : row.errorType = none)
      (hmessage : row.errorMessage = none) (hsql : row.sql = r.sql) : Tells session (.ok r) row
  | failure {e : RunError} {row : AuditRow} {kept : String} (hsession : row.sessionId = session)
      (hsuccess : row.success = false) (hcount : row.rowCount = none) (htype : row.errorType = some e.kind.name)
      (hmessage : row.errorMessage = some kept) (hkept : Keeps e.message kept) : Tells session (.error e) row

theorem Tells.length_le {session message : String} {outcome : Outcome} {row : AuditRow}
    (h : Tells session outcome row) (hm : row.errorMessage = some message) : message.length ≤ 1000 := by
  cases h with
  | rows _ _ _ _ hnone =>
    rw [hnone] at hm
    cases hm
  | failure _ _ _ _ hkept hkeeps =>
    rw [hkept] at hm
    cases hm
    exact hkeeps.length_le

/-- What is written of a run that ended: a row that tells of it, if it is to be recorded. -/
theorem AuditStore.record_tells {run : Run} {limit : Value} {a : Answer} {outcome : Outcome}
    (hout : run.outcome limit a = outcome) (s : Session) (sql : String) (rows : List AuditRow) (clock : Clock) :
    if (Report.ended outcome).isRecorded then
      ∃ row, (AuditStore.record (some rows) s sql outcome clock).1 = some (rows ++ [row]) ∧ Tells s.id outcome row
    else (AuditStore.record (some rows) s sql outcome clock).1 = some rows := by
  cases outcome with
  | ok r => exact ⟨_, rfl, .rows rfl rfl rfl rfl rfl rfl⟩
  | error e =>
    have hrec := Run.isRecorded_outcome hout
    simp only [Report.isRecorded, record, AuditEntry.ofOutcome, hrec]
    by_cases he : e.isPassedOver = true
    · simp [he]
    · simp only [he, Bool.not_false, if_true]
      exact ⟨_, rfl, .failure rfl rfl rfl rfl rfl (keeps_shortened e.message)⟩

/-! ## One turn -/

section Turns

variable {ι : Type}

/-- Whether a row is left: the outcome is one to be recorded, and the log could be written. -/
def Happening.leavesRow (x : Happening ι) : Bool :=
  x.report.isRecorded && x.isWritable

/-- A row tells of what came of a turn, if that was the end of a run. -/
def SharedTrail.TellsOf (t : SharedTrail ι) (x : Happening ι) (row : AuditRow) : Prop :=
  ∃ outcome, x.report = .ended outcome ∧ Tells (t.sessions x.who).id outcome row

/-- Whether a statement of a session was handed over. -/
def Happening.hands [DecidableEq ι] (i : ι) (x : Happening ι) : Bool :=
  decide (x.who = i) && x.report.isHanded

/-- Whether a run of a session ended. -/
def Happening.ends [DecidableEq ι] (i : ι) (x : Happening ι) : Bool :=
  decide (x.who = i) && x.report.isEnded

/-- What is done in a turn, whatever becomes of the log. -/
def Turn.act (turn : Turn ι) : ι × Event :=
  (turn.who, turn.event)

/-- What came of a turn, but for the log. -/
def Happening.told (x : Happening ι) : ι × Report :=
  (x.who, x.report)

end Turns

/-- A run starts when its statement is handed over, and is over when it ends. -/
theorem Moves.flights {s s' : Session} {r : Report} (hm : Moves s r s') :
    s.isExecuting.toNat + r.isHanded.toNat = s'.isExecuting.toNat + r.isEnded.toNat := by
  cases hm with
  | handed now hsql hidle => simp [Session.isExecuting, hidle, Report.isHanded, Report.isEnded]
  | rows hrun harr hok => simp [Session.isExecuting, hrun, Report.isHanded, Report.isEnded]
  | failed hrun harr herr => simp [Session.isExecuting, hrun, Report.isHanded, Report.isEnded]
  | cancelled hrun harr => simp [Session.isExecuting, hrun, Report.isHanded, Report.isEnded]
  | _ => rfl

namespace SharedTrail

variable {ι : Type} [DecidableEq ι] {t u : SharedTrail ι} {turn : Turn ι}

theorem step_moves (t : SharedTrail ι) (turn : Turn ι) :
    Moves (t.sessions turn.who) (t.step turn).1.report ((t.step turn).2.sessions turn.who) := by
  have hm := (t.audited turn.who turn.isWritable).step_moves turn.event
  simp only [step, if_true]
  exact hm

theorem step_others {i : ι} (h : i ≠ turn.who) : (t.step turn).2.sessions i = t.sessions i := by
  simp only [step, h, if_false]

/-- No session is given another id. -/
theorem id_step (t : SharedTrail ι) (turn : Turn ι) (i : ι) :
    ((t.step turn).2.sessions i).id = (t.sessions i).id := by
  by_cases h : i = turn.who
  · rw [h]
    exact (t.step_moves turn).id
  · rw [step_others h]

/-- Nothing is written before a run ends. -/
theorem rows_unended (t : SharedTrail ι) (turn : Turn ι) (h : (t.step turn).1.report.isEnded = false) :
    (t.step turn).2.rows = t.rows ∧ (t.step turn).1.leavesRow = false := by
  have hunended : ((t.audited turn.who turn.isWritable).step turn.event).1.isEnded = false := h
  constructor
  · have haudit := congrArg AuditedSession.audit (AuditedSession.step_unended hunended)
    show ((t.audited turn.who turn.isWritable).step turn.event).2.audit.getD t.rows = t.rows
    rw [haudit, audited]
    cases turn.isWritable <;> rfl
  · unfold Happening.leavesRow
    cases hr : (t.step turn).1.report with
    | ended outcome =>
      rw [hr] at h
      cases h
    | _ => rfl

/-- When a run ends, a row that tells of it is written, if it is to be recorded and the log can be written. -/
theorem rows_ended {outcome : Outcome} (h : (t.step turn).1.report = .ended outcome) :
    if (t.step turn).1.leavesRow then
      ∃ row, (t.step turn).2.rows = t.rows ++ [row] ∧ Tells (t.sessions turn.who).id outcome row
    else (t.step turn).2.rows = t.rows := by
  have hm := t.step_moves turn
  rw [h] at hm
  obtain ⟨run, a, hrun, -, houtcome, -, -⟩ := hm.ended
  have haudit := AuditedSession.step_ended (a := t.audited turn.who turn.isWritable) h hrun
  have hid := ((t.audited turn.who turn.isWritable).live.step_moves turn.event).id
  have htells := AuditStore.record_tells houtcome
    ((t.audited turn.who turn.isWritable).live.step turn.event).2.session run.sql t.rows
    ((t.audited turn.who turn.isWritable).live.step turn.event).2.clock
  rw [hid] at htells
  have hleaves : (t.step turn).1.leavesRow = ((Report.ended outcome).isRecorded && turn.isWritable) := by
    rw [← h]
    rfl
  have hrows : (t.step turn).2.rows =
      ((t.audited turn.who turn.isWritable).step turn.event).2.audit.getD t.rows := rfl
  rw [hleaves, hrows, haudit]
  cases hw : turn.isWritable with
  | false =>
    rw [Bool.and_false, if_neg Bool.false_ne_true]
    rfl
  | true =>
    rw [hw] at htells
    rw [Bool.and_true]
    by_cases hrec : (Report.ended outcome).isRecorded = true
    · rw [if_pos hrec] at htells ⊢
      obtain ⟨row, hrow, htold⟩ := htells
      refine ⟨row, ?_, htold⟩
      simp only [audited, if_true] at hrow ⊢
      rw [hrow]
      rfl
    · rw [if_neg hrec] at htells ⊢
      simp only [audited, if_true] at htells ⊢
      rw [htells]
      rfl

/-- **What one turn writes**: a row that tells of it, or nothing. -/
theorem step_rows (t : SharedTrail ι) (turn : Turn ι) :
    ∃ written, (t.step turn).2.rows = t.rows ++ written ∧
      List.Forall₂ t.TellsOf ([(t.step turn).1].filter Happening.leavesRow) written := by
  cases hended : (t.step turn).1.report with
  | ended outcome =>
    have hrows := rows_ended hended
    by_cases hleaves : (t.step turn).1.leavesRow = true
    · rw [if_pos hleaves] at hrows
      obtain ⟨row, hrow, htold⟩ := hrows
      refine ⟨[row], hrow, ?_⟩
      rw [List.filter_singleton, hleaves]
      exact .cons ⟨outcome, hended, htold⟩ .nil
    · rw [if_neg hleaves] at hrows
      rw [Bool.not_eq_true] at hleaves
      refine ⟨[], by rw [hrows, List.append_nil], ?_⟩
      rw [List.filter_singleton, hleaves]
      exact .nil
  | _ =>
    obtain ⟨hrows, hleaves⟩ := rows_unended t turn (by rw [hended]; rfl)
    refine ⟨[], by rw [hrows, List.append_nil], ?_⟩
    rw [List.filter_singleton, hleaves]
    exact .nil

omit [DecidableEq ι] in
theorem TellsOf.of_id {x : Happening ι} {row : AuditRow} (h : u.TellsOf x row)
    (hid : ∀ i, (u.sessions i).id = (t.sessions i).id) : t.TellsOf x row := by
  obtain ⟨outcome, hout, htells⟩ := h
  exact ⟨outcome, hout, hid x.who ▸ htells⟩

/-- A turn starts a run, ends one, or leaves the runs as they are. -/
theorem step_flights (t : SharedTrail ι) (turn : Turn ι) (i : ι) :
    (t.sessions i).isExecuting.toNat + [(t.step turn).1].countP (Happening.hands i) =
      ((t.step turn).2.sessions i).isExecuting.toNat + [(t.step turn).1].countP (Happening.ends i) := by
  have hflights := (t.step_moves turn).flights
  have hwho : (t.step turn).1.who = turn.who := rfl
  by_cases h : i = turn.who
  · subst h
    simp only [List.countP_singleton, Happening.hands, Happening.ends, hwho, decide_true, Bool.true_and]
    generalize (t.step turn).1.report = r at hflights ⊢
    cases r <;> exact hflights
  · rw [step_others h]
    have hne : turn.who ≠ i := fun heq => h heq.symm
    simp [Happening.hands, Happening.ends, hwho, hne]

/-! ## A log that cannot be written -/

/-- **Trails that differ in the log** and in the time. -/
structure SameButLog (t u : SharedTrail ι) : Prop where
  ids : u.ids = t.ids
  sessions : ∀ i, (t.sessions i).Alike 1 (u.sessions i)

omit [DecidableEq ι] in
theorem SameButLog.refl (t : SharedTrail ι) : t.SameButLog t :=
  ⟨rfl, fun i => .refl (t.sessions i)⟩

/-- **A turn comes to the same** whatever the log holds and whether it can be written. -/
theorem SameButLog.step (h : t.SameButLog u) (i : ι) (e : Event) (w w' : Bool) :
    (u.step ⟨i, e, w'⟩).1.report = (t.step ⟨i, e, w⟩).1.report ∧
      (t.step ⟨i, e, w⟩).2.SameButLog (u.step ⟨i, e, w'⟩).2 := by
  have hsame : (t.audited i w).live.session.Alike 1 (u.audited i w').live.session := h.sessions i
  obtain ⟨hreport, hids, hsession⟩ := LiveSession.step_same_ids hsame h.ids e
  obtain ⟨hr, clock, hlive⟩ := (t.audited i w).step_live e
  obtain ⟨hr', clock', hlive'⟩ := (u.audited i w').step_live e
  refine ⟨hr'.trans (hreport.trans hr.symm), ?_, fun j => ?_⟩
  · simp only [SharedTrail.step, hlive, hlive']
    exact hids
  · simp only [SharedTrail.step, hlive, hlive']
    split
    · exact { hsession with }
    · exact h.sessions j

/-! ## Any number of turns -/

theorem play_cons (turn : Turn ι) (turns : List (Turn ι)) (t : SharedTrail ι) :
    play (turn :: turns) t =
      ([(t.step turn).1] ++ (play turns (t.step turn).2).1, (play turns (t.step turn).2).2) := rfl

/-- Rows that tell of what came of turns are added to the log, and what it held stays in front of them. -/
theorem rows_play (turns : List (Turn ι)) (t : SharedTrail ι) :
    ∃ written, (play turns t).2.rows = t.rows ++ written ∧
      List.Forall₂ t.TellsOf ((play turns t).1.filter Happening.leavesRow) written := by
  induction turns generalizing t with
  | nil => exact ⟨[], (List.append_nil _).symm, .nil⟩
  | cons turn turns ih =>
    obtain ⟨first, hfirst, htold⟩ := t.step_rows turn
    obtain ⟨rest, hrest, htolds⟩ := ih (t.step turn).2
    have htolds := htolds.imp fun x row h => h.of_id (t.id_step turn)
    rw [play_cons, List.filter_append]
    refine ⟨first ++ rest, ?_, List.rel_append htold htolds⟩
    rw [← List.append_assoc, ← hfirst]
    exact hrest

/-- Every statement that was handed over is one of a run that ended or is still under way. -/
theorem flights_play (turns : List (Turn ι)) (t : SharedTrail ι) (i : ι) :
    (t.sessions i).isExecuting.toNat + (play turns t).1.countP (Happening.hands i) =
      ((play turns t).2.sessions i).isExecuting.toNat + (play turns t).1.countP (Happening.ends i) := by
  induction turns generalizing t with
  | nil => rfl
  | cons turn turns ih =>
    have hstep := t.step_flights turn i
    have hrest := ih (t.step turn).2
    simp only [play_cons, List.countP_append]
    omega

theorem told_play (turns turns' : List (Turn ι)) (h : turns'.map Turn.act = turns.map Turn.act)
    (hsame : t.SameButLog u) : (play turns' u).1.map Happening.told = (play turns t).1.map Happening.told := by
  induction turns generalizing turns' t u with
  | nil =>
    rw [List.map_nil, List.map_eq_nil_iff] at h
    rw [h]
    rfl
  | cons turn turns ih =>
    obtain ⟨turn', turns', rfl, hact, hrest⟩ := List.map_eq_cons_iff.1 h
    obtain ⟨i, e, w⟩ := turn
    obtain ⟨i', e', w'⟩ := turn'
    cases hact
    obtain ⟨hreport, hafter⟩ := hsame.step i e w w'
    have htold : (u.step ⟨i, e, w'⟩).1.told = (t.step ⟨i, e, w⟩).1.told := Prod.ext rfl hreport
    simp only [play, List.map_cons, htold, ih turns' hrest hafter]

omit [DecidableEq ι] in
/-- Rows that tell of something have short messages. -/
theorem short_of_told {h : List (Happening ι)} {written : List AuditRow}
    (htold : List.Forall₂ t.TellsOf h written) :
    ∀ row ∈ written, ∀ message, row.errorMessage = some message → message.length ≤ 1000 := by
  induction htold with
  | nil => simp
  | cons hrow _ ih =>
    obtain ⟨outcome, -, htells⟩ := hrow
    exact List.forall_mem_cons.2 ⟨fun message hm => htells.length_le hm, ih⟩

/-! ## The log -/

/-- **What the log holds** after turns, next to what came of them. -/
structure Recorded (t : SharedTrail ι) (h : List (Happening ι)) (u : SharedTrail ι) : Prop where
  /-- One row tells of each run that ended, is to be recorded and could be; nothing else is written, and what was
  written before is kept. -/
  rows : ∃ written, u.rows = t.rows ++ written ∧
    List.Forall₂ t.TellsOf (h.filter Happening.leavesRow) written ∧
    ∀ row ∈ written, ∀ message, row.errorMessage = some message → message.length ≤ 1000
  /-- A run ended for every statement that was handed over, unless it is still under way. -/
  flights : ∀ i, (t.sessions i).isExecuting.toNat + h.countP (Happening.hands i) =
    (u.sessions i).isExecuting.toNat + h.countP (Happening.ends i)
  /-- The summary counts the rows of a session by outcome. -/
  summary : ∀ session, AuditLog.summary u.rows session =
    ⟨u.rows.countP (·.sessionId == session), u.rows.countP fun r => r.sessionId == session && r.success,
      u.rows.countP fun r => r.sessionId == session && !r.success⟩
  balance : ∀ session, (AuditLog.summary u.rows session).total =
    (AuditLog.summary u.rows session).succeeded + (AuditLog.summary u.rows session).failed
  /-- Rows with ascending timestamps are listed newest first, as many as are asked for. -/
  newest : AuditLog.Ascending u.rows → ∀ session (n : Nat), AuditLog.bySession u.rows (.text session) (some n) =
    (u.rows.filter (·.sessionId == session)).reverse.take n

/-- **Every execution is in the log.** Whatever the sessions do in whatever order, and whichever writes to the log
fail: the log holds one row for each run that ended and is to be recorded, and what is read from it says so. The
failing writes change nothing else. -/
theorem every_run_recorded (t : SharedTrail ι) (turns : List (Turn ι)) :
    t.Recorded (play turns t).1 (play turns t).2 ∧
      ∀ turns' : List (Turn ι), turns'.map Turn.act = turns.map Turn.act →
        (play turns' t).1.map Happening.told = (play turns t).1.map Happening.told := by
  obtain ⟨written, hrows, htold⟩ := rows_play turns t
  refine ⟨⟨⟨written, hrows, htold, short_of_told htold⟩, flights_play turns t, AuditLog.summary_eq _, fun session => ?_,
    fun h session n => AuditLog.bySession_eq h session n⟩, fun turns' h => told_play turns turns' h (.refl t)⟩
  rw [AuditLog.summary_eq]
  exact AuditLog.countP_session _ session

/-! ## Two sessions on the shop -/

/-- A session on the shop. -/
def firstOpened : LiveSession :=
  .opened .ansi Canvas.shop .null .fresh .fresh

/-- Another one, opened after it. -/
def secondOpened : LiveSession :=
  .opened .ansi Canvas.shop .null firstOpened.ids firstOpened.clock

/-- The two sessions with an empty log. -/
def shopTrails : SharedTrail Bool :=
  ⟨fun second => if second then secondOpened.session else firstOpened.session, secondOpened.ids,
    secondOpened.clock, []⟩

/-- Both sessions execute at once. The second one gets its rows; then the first one is cancelled. The log may
fail when the second run ends. -/
def crossed (isWritable : Bool) : List (Turn Bool) :=
  [⟨false, .edit (.addTable (.text "orders")), true⟩, ⟨true, .edit (.addTable (.text "orders")), true⟩,
    ⟨false, .execute, true⟩, ⟨true, .execute, true⟩, ⟨true, .execute, true⟩, ⟨true, .answer (.rows (some [])), true⟩,
    ⟨true, .proceed, isWritable⟩, ⟨false, .cancel, true⟩, ⟨false, .answer .abandoned, true⟩, ⟨false, .proceed, true⟩]

theorem rows_crossed : ∃ row row', (play (crossed true) shopTrails).2.rows = [row, row'] ∧
    row.sessionId = "id-3" ∧ row'.sessionId = "id-1" ∧ row'.errorType = some "QueryCancelledError" ∧
    row.executedAt = .moment (Calendar.afterNewYear 5) ∧ row'.executedAt = .moment (Calendar.afterNewYear 6) :=
  ⟨_, _, rfl, rfl, rfl, rfl, rfl, rfl⟩

theorem ascending_crossed : AuditLog.Ascending (play (crossed true) shopTrails).2.rows := by
  obtain ⟨row, row', hrows, -, -, -, hfirst, hsecond⟩ := rows_crossed
  have hlocal : ∀ seconds ≤ 6, (Calendar.afterNewYear seconds).IsLocal := fun seconds h =>
    Calendar.isLocal_afterNewYear (by omega)
  rw [hrows]
  constructor
  · simp only [List.forall_mem_cons, List.not_mem_nil, false_implies, implies_true, and_true]
    exact ⟨⟨_, hfirst, hlocal 5 (by decide)⟩, ⟨_, hsecond, hlocal 6 (by decide)⟩⟩
  · rw [List.pairwise_pair]
    intro m m' hm hm'
    rw [hfirst, Value.moment.injEq] at hm
    rw [hsecond, Value.moment.injEq] at hm'
    rw [← hm, ← hm']
    exact Calendar.earlier_afterNewYear (by decide)

/-- Although the row of the second session may be lost, both runs end as they do otherwise, and the newest row of the
first session is of the cancelled run. -/
theorem recorded_crossed : (crossed false).map Turn.act = (crossed true).map Turn.act ∧
    (play (crossed false) shopTrails).1.map Happening.told = (play (crossed true) shopTrails).1.map Happening.told ∧
    AuditLog.Ascending (play (crossed true) shopTrails).2.rows ∧
    ∃ row, AuditLog.bySession (play (crossed true) shopTrails).2.rows (.text "id-1") (some 1) = [row] ∧
      row.errorType = some "QueryCancelledError" := by
  have hact : (crossed false).map Turn.act = (crossed true).map Turn.act := rfl
  obtain ⟨hrecorded, hsame⟩ := every_run_recorded shopTrails (crossed true)
  obtain ⟨row, row', hrows, hsecond, hfirst, hcancelled, -⟩ := rows_crossed
  refine ⟨hact, hsame _ hact, ascending_crossed, row', ?_, hcancelled⟩
  have hnewest := hrecorded.newest ascending_crossed "id-1" 1
  rw [hrows] at hnewest ⊢
  refine hnewest.trans ?_
  simp [hfirst, hsecond]

/-- A session that executes while nobody else does. The warehouse answers with a failure. -/
def answeredWith (f : Fault) : List (Turn Unit) :=
  [⟨(), .edit (.addTable (.text "orders")), true⟩, ⟨(), .execute, true⟩, ⟨(), .answer (.fault f), true⟩,
    ⟨(), .proceed, true⟩]

/-- **A run without a row**: the warehouse itself reports that it is busy, in the same way as a session that refuses
to execute. -/
theorem unrecorded_busy :
    let trail : SharedTrail Unit := ⟨fun _ => firstOpened.session, firstOpened.ids, firstOpened.clock, []⟩
    let busy : Fault := ⟨.sessionBusy, some "x"⟩
    (play (answeredWith busy) trail).1.map Happening.told =
        [((), .edited (.ok (.flag true))), ((), .handed "SELECT *\nFROM orders"),
          ((), .answered (.fault busy)), ((), .ended (.error (.passedOn busy)))] ∧
      (play (answeredWith busy) trail).2.rows = [] :=
  ⟨rfl, rfl⟩

end SharedTrail

end QueryCanvas
