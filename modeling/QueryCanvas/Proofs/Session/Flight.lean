import QueryCanvas.Proofs.Session.History
import QueryCanvas.Proofs.Sql.Compile

/-!
# Single flight

A session has at most one statement with the warehouse, and a cancellation reaches only the run that it
was asked for.

* `Tracks`: what the reports so far say about the run under way. `Tracks.moves` is the step of the
  invariant, over `Moves`; `tracks_play` is the induction over the events.
* `singleFlight`: after any events, in any order, what the next event can come to.
-/

namespace QueryCanvas

/-! ## The invariant -/

/-- **What a history says of the run under way**: a session is idle, or waits for an answer, or has one
that the run has not gone on with. -/
inductive Tracks (h : List Report) : Option Run → Option Answer → Prop
  | idle (hcount : h.countP Report.isHanded = h.countP Report.isAnswered)
      (hnone : ∀ sql since, ¬ UnderWay h sql since) : Tracks h none none
  | waiting {run : Run} {since : List Report}
      (hcount : h.countP Report.isHanded = h.countP Report.isAnswered + 1) (hrun : UnderWay h run.sql since)
      (hflag : run.cancelRequested = true ↔ .cancelled true ∈ since)
      (hquiet : ∀ r ∈ since, r.isAnswered = false) : Tracks h (some run) none
  | settled {run : Run} {since : List Report} {a : Answer}
      (hcount : h.countP Report.isHanded = h.countP Report.isAnswered) (hrun : UnderWay h run.sql since)
      (hflag : run.cancelRequested = true ↔ .cancelled true ∈ since)
      (hloud : ∃ r ∈ since, r.isAnswered = true)
      (hcame : .answered a ∈ since ∨ .interrupted a ∈ since ∧ 0 < a.force) : Tracks h (some run) (some a)

variable {h : List Report} {s s' : Session} {r : Report} {running : Option Run} {arrived : Option Answer}

/-- Reports about other things leave the run as it is. -/
theorem Tracks.other (ht : Tracks h running arrived) (hr : r.isBetween = true) (hans : r.isAnswered = false)
    (hcancel : r ≠ .cancelled true) : Tracks (h ++ [r]) running arrived := by
  have hhanded : r.isHanded = false := by
    simp only [Report.isBetween, Bool.and_eq_true, Bool.not_eq_true'] at hr
    exact hr.1
  have hcounts : (h ++ [r]).countP Report.isHanded = h.countP Report.isHanded ∧
      (h ++ [r]).countP Report.isAnswered = h.countP Report.isAnswered := by
    simp [List.countP_append, hhanded, hans]
  have hmem : ∀ {since : List Report}, .cancelled true ∈ since ++ [r] ↔ .cancelled true ∈ since := by
    simp [hcancel.symm]
  cases ht with
  | idle hcount hnone =>
    refine .idle (by rw [hcounts.1, hcounts.2, hcount]) fun sql since hu => ?_
    obtain ⟨c, -, hc⟩ := (underWay_snoc_iff hr).1 hu
    exact hnone sql c hc
  | waiting hcount hrun hflag hquiet =>
    refine .waiting (by rw [hcounts.1, hcounts.2, hcount]) ((underWay_snoc_iff hr).2 ⟨_, rfl, hrun⟩)
      (hflag.trans hmem.symm) fun x hx => ?_
    rcases List.mem_append.1 hx with hx | hx
    · exact hquiet x hx
    · rw [List.mem_singleton.1 hx]
      exact hans
  | settled hcount hrun hflag hloud hcame =>
    obtain ⟨x, hx, hxans⟩ := hloud
    exact .settled (by rw [hcounts.1, hcounts.2, hcount]) ((underWay_snoc_iff hr).2 ⟨_, rfl, hrun⟩)
      (hflag.trans hmem.symm) ⟨x, List.mem_append_left _ hx, hxans⟩
      (hcame.imp (List.mem_append_left _) fun hi => ⟨List.mem_append_left _ hi.1, hi.2⟩)

theorem Tracks.handed {sql : String} (ht : Tracks h none arrived) :
    Tracks (h ++ [.handed sql]) (some ⟨sql, false⟩) none := by
  cases ht with
  | idle hcount hnone =>
    refine .waiting ?_ (underWay_handed h sql) (by simp) (by simp)
    simp [List.countP_append, Report.isHanded, Report.isAnswered, hcount]

theorem Tracks.answered {run : Run} (ht : Tracks h (some run) none) (a : Answer) :
    Tracks (h ++ [.answered a]) (some run) (some a) := by
  cases ht with
  | waiting hcount hrun hflag hquiet =>
    refine .settled ?_ ((underWay_snoc_iff rfl).2 ⟨_, rfl, hrun⟩) (by simpa using hflag)
      ⟨.answered a, by simp, rfl⟩ (.inl (by simp))
    simp [List.countP_append, Report.isHanded, Report.isAnswered, hcount]

theorem Tracks.interrupted {run : Run} {a b : Answer} (ht : Tracks h (some run) (some b))
    (hforce : b.force < a.force) : Tracks (h ++ [.interrupted a]) (some run) (some a) := by
  cases ht with
  | settled hcount hrun hflag hloud hcame =>
    obtain ⟨x, hx, hxans⟩ := hloud
    refine .settled ?_ ((underWay_snoc_iff rfl).2 ⟨_, rfl, hrun⟩) (by simpa using hflag)
      ⟨x, List.mem_append_left _ hx, hxans⟩ (.inr ⟨by simp, Nat.zero_lt_of_lt hforce⟩)
    simp [List.countP_append, Report.isHanded, Report.isAnswered, hcount]

theorem Tracks.ended {run : Run} {a : Answer} (ht : Tracks h (some run) (some a)) (outcome : Outcome) :
    Tracks (h ++ [.ended outcome]) none none := by
  cases ht with
  | settled hcount hrun hflag hloud hcame =>
    refine .idle ?_ fun sql since => not_underWay_ended h outcome
    simp [List.countP_append, Report.isHanded, Report.isAnswered, hcount]

theorem Tracks.cancelled {run : Run} (ht : Tracks h (some run) none) :
    Tracks (h ++ [.cancelled true]) (some { run with cancelRequested := true }) none := by
  cases ht with
  | waiting hcount hrun hflag hquiet =>
    refine .waiting ?_ ((underWay_snoc_iff rfl).2 ⟨_, rfl, hrun⟩) (by simp) fun x hx => ?_
    · simp [List.countP_append, Report.isHanded, Report.isAnswered, hcount]
    · rcases List.mem_append.1 hx with hx | hx
      · exact hquiet x hx
      · rw [List.mem_singleton.1 hx]
        rfl

/-- **One event keeps track.** -/
theorem Tracks.moves (ht : Tracks h s.running s.arrived) (hm : Moves s r s') :
    Tracks (h ++ [r]) s'.running s'.arrived := by
  cases hm with
  | refused herr => exact ht.other rfl rfl nofun
  | handed now hsql hidle =>
    rw [hidle] at ht
    exact ht.handed
  | answered a hrun harr =>
    rw [hrun, harr] at ht
    rw [hrun]
    exact ht.answered a
  | interrupted hrun harr hforce =>
    rw [hrun, harr] at ht
    rw [hrun]
    exact ht.interrupted hforce
  | rows hrun harr hok =>
    rw [hrun, harr] at ht
    exact ht.ended _
  | failed hrun harr herr =>
    rw [hrun, harr] at ht
    exact ht.ended _
  | cancelled hrun harr =>
    rw [hrun, harr] at ht
    rw [harr]
    exact ht.cancelled
  | notCancelled hw => exact ht.other rfl rfl nofun
  | newQuery c now => exact ht.other rfl rfl nofun
  | edited reply c => exact ht.other rfl rfl nofun
  | nothing now => exact ht.other rfl rfl nofun

namespace LiveSession

/-- **Every history keeps track** of the run. -/
theorem tracks_play (dialect : Sql.Dialect) (cat : Catalog) (limit : Value) (ids : IdSupply) (clock : Clock)
    (events : List Event) :
    Tracks (play step events (opened dialect cat limit ids clock)).1
      (play step events (opened dialect cat limit ids clock)).2.session.running
      (play step events (opened dialect cat limit ids clock)).2.session.arrived := by
  induction events using List.reverseRecOn with
  | nil => exact .idle rfl fun sql since => not_underWay_nil
  | append_singleton events e ih =>
    rw [play_snoc]
    exact ih.moves (step_moves _ e)

end LiveSession

/-! ## What the next event can come to -/

/-- Rows carry the statement of their run. -/
theorem Run.sql_of_outcome {run : Run} {limit : Value} {a : Answer} {r : QueryResult}
    (h : run.outcome limit a = .ok r) : r.sql = run.sql := by
  cases a with
  | rows rows =>
    cases h
    rfl
  | _ => cases h

/-- A run ends cancelled if that was asked for, or if the warehouse says so itself. -/
theorem Run.kind_of_outcome {run : Run} {limit : Value} {a : Answer} {e : RunError}
    (h : run.outcome limit a = .error e) (hkind : e.kind = .queryCancelled) :
    run.cancelRequested = true ∨ ∃ f, f.kind = .queryCancelled ∧ a = .fault f := by
  have hcalled : run.calledOff = e → run.cancelRequested = true := by
    rintro rfl
    by_contra hflag
    simp [Run.calledOff, hflag, RunError.kind] at hkind
  cases a with
  | rows rows => cases h
  | silence =>
    cases h
    cases hkind
  | abandoned => exact .inl (hcalled (Except.error.inj h))
  | fault f =>
    simp only [Run.outcome, Except.error.injEq] at h
    split at h
    · exact .inl (hcalled h)
    · refine .inr ⟨f, ?_, rfl⟩
      subst h
      simp only [RunError.ofFault] at hkind
      split at hkind
      · cases hkind
      · split at hkind
        · exact hkind
        · cases hkind

/-- A refusal is no cancellation. -/
theorem Session.kind_of_begin {s : Session} {clock : Clock} {e : RunError} (h : s.begin clock = .error e) :
    e.kind ≠ .queryCancelled := by
  unfold Session.begin at h
  cases hsql : s.sql with
  | error err =>
    rw [hsql] at h
    cases h
    cases err <;> nofun
  | ok text =>
    simp only [hsql] at h
    split at h
    · cases h
      nofun
    · split at h <;> cases h
      nofun

/-- An execution is refused while a run is under way. -/
theorem Session.begin_busy {s : Session} (clock : Clock) (hrun : s.isExecuting = true)
    (htables : s.canvas.tables ≠ []) {text : String} (hsql : s.sql = .ok text) :
    s.begin clock = .error .busy := by
  have hex : Sql.isExecutable text = true := Sql.isExecutable_of_compile htables hsql
  simp [Session.begin, hsql, hex, hrun]

/-- Only a run that has its answer ends, and then it is no longer under way. -/
theorem Moves.ended {outcome : Outcome} (hm : Moves s (.ended outcome) s') :
    ∃ run a, s.running = some run ∧ s.arrived = some a ∧ run.outcome s.limit a = outcome ∧
      s'.running = none ∧ s'.arrived = none := by
  cases hm with
  | rows hrun harr hok => exact ⟨_, _, hrun, harr, hok, rfl, rfl⟩
  | failed hrun harr herr => exact ⟨_, _, hrun, harr, herr, rfl, rfl⟩

/-- **Single flight** after a history: what is with the warehouse, and what the next event can come to. -/
structure SingleFlight (h : List Report) (s : LiveSession) : Prop where
  outstanding : h.countP Report.isHanded ≤ h.countP Report.isAnswered + 1
  executing : s.session.isExecuting = true ↔ ∃ sql since, UnderWay h sql since
  busy : s.session.isExecuting = true → s.session.canvas.tables ≠ [] → (∃ text, s.session.sql = .ok text) →
    s.step .execute = (.refused .busy, s)
  ended : ∀ e outcome, (s.step e).1 = .ended outcome →
    s.session.isExecuting = true ∧ (s.step e).2.session.running = none ∧ (s.step e).2.session.arrived = none
  cancel : (s.step .cancel).1 = .cancelled true ↔
    ∃ sql since, UnderWay h sql since ∧ ∀ r ∈ since, r.isAnswered = false
  cancelled : ∀ e err, (s.step e).1 = .ended (.error err) ∨ (s.step e).1 = .refused err →
    err.kind = .queryCancelled → ∃ sql since, UnderWay h sql since ∧
      (.cancelled true ∈ since ∨ ∃ f, f.kind = .queryCancelled ∧ .answered (.fault f) ∈ since)
  failed : ∀ e err, (s.step e).1 = .ended (.error err) → (s.step e).2.session.result = s.session.result
  rows : ∀ e r, (s.step e).1 = .ended (.ok r) →
    ∃ since, UnderWay h r.sql since ∧ (s.step e).2.session.result = some r

section Tracked

variable {live : LiveSession}

/-- What is known of a run that has its answer. -/
theorem Tracks.since {run : Run} {a : Answer} (ht : Tracks h (some run) (some a)) :
    ∃ since, UnderWay h run.sql since ∧ (run.cancelRequested = true ↔ .cancelled true ∈ since) ∧
      (.answered a ∈ since ∨ .interrupted a ∈ since ∧ 0 < a.force) := by
  cases ht with
  | settled hcount hrun hflag hloud hcame => exact ⟨_, hrun, hflag, hcame⟩

theorem Tracks.outstanding (ht : Tracks h running arrived) :
    h.countP Report.isHanded ≤ h.countP Report.isAnswered + 1 := by
  cases ht <;> omega

theorem Tracks.executing (ht : Tracks h running arrived) :
    running.isSome = true ↔ ∃ sql since, UnderWay h sql since := by
  cases ht with
  | idle hcount hnone => simpa using hnone
  | waiting hcount hrun hflag hquiet => exact ⟨fun _ => ⟨_, _, hrun⟩, fun _ => rfl⟩
  | settled hcount hrun hflag hloud hcame => exact ⟨fun _ => ⟨_, _, hrun⟩, fun _ => rfl⟩

theorem Tracks.waits (ht : Tracks h running arrived) : (running.isSome && arrived.isNone) = true ↔
    ∃ sql since, UnderWay h sql since ∧ ∀ r ∈ since, r.isAnswered = false := by
  cases ht with
  | idle hcount hnone => simpa using fun sql since hu => absurd hu (hnone sql since)
  | waiting hcount hrun hflag hquiet => exact ⟨fun _ => ⟨_, _, hrun, hquiet⟩, fun _ => rfl⟩
  | settled hcount hrun hflag hloud hcame =>
    simp only [Option.isSome_some, Option.isNone_some, Bool.and_false, Bool.false_eq_true, false_iff, not_exists,
      not_and]
    intro sql since hu hquiet
    obtain ⟨-, rfl⟩ := hu.unique hrun
    obtain ⟨r, hr, hans⟩ := hloud
    rw [hquiet r hr] at hans
    cases hans

theorem Tracks.cancelledOnly {e : RunError} (ht : Tracks h s.running s.arrived)
    (hm : Moves s (.ended (.error e)) s') (hkind : e.kind = .queryCancelled) :
    ∃ sql since, UnderWay h sql since ∧
      (.cancelled true ∈ since ∨ ∃ f, f.kind = .queryCancelled ∧ .answered (.fault f) ∈ since) := by
  obtain ⟨run, a, hrun, harr, hout, -, -⟩ := hm.ended
  rw [hrun, harr] at ht
  obtain ⟨since, hu, hflag, hcame⟩ := ht.since
  refine ⟨run.sql, since, hu, ?_⟩
  rcases Run.kind_of_outcome hout hkind with hasked | ⟨f, hf, rfl⟩
  · exact .inl (hflag.1 hasked)
  · rcases hcame with hcame | ⟨-, hforce⟩
    · exact .inr ⟨f, hf, hcame⟩
    · exact absurd hforce (by simp [Answer.force])

/-- A session that keeps track of its run has at most one. -/
theorem Tracks.flight (ht : Tracks h live.session.running live.session.arrived) :
    SingleFlight h live where
  outstanding := ht.outstanding
  executing := ht.executing
  busy hrun htables hsql := by
    obtain ⟨text, htext⟩ := hsql
    simp [LiveSession.step, Session.begin_busy live.clock hrun htables htext]
  ended e outcome hout := by
    obtain ⟨run, a, hrun, -, -, hidle, harr⟩ := (hout ▸ live.step_moves e).ended
    exact ⟨by simp [Session.isExecuting, hrun], hidle, harr⟩
  cancel := by
    rw [← ht.waits, ← Session.isWaiting, ← Session.cancel_fst]
    simp [LiveSession.step]
  cancelled e err hout hkind := by
    have hm := live.step_moves e
    rcases hout with hout | hout
    · rw [hout] at hm
      exact ht.cancelledOnly hm hkind
    · rw [hout] at hm
      generalize (live.step e).2.session = s' at hm
      cases hm with
      | refused herr => exact absurd hkind (Session.kind_of_begin herr)
  failed e err hout := by
    have hm := live.step_moves e
    rw [hout] at hm
    generalize (live.step e).2.session = s' at hm
    cases hm with
    | failed hrun harr herr => rfl
  rows e r hout := by
    have hm := live.step_moves e
    rw [hout] at hm
    obtain ⟨run, a, hrun, harr, hok, -, -⟩ := hm.ended
    rw [hrun, harr] at ht
    obtain ⟨since, hu, -, -⟩ := ht.since
    refine ⟨since, Run.sql_of_outcome hok ▸ hu, ?_⟩
    generalize (live.step e).2.session = s' at hm
    cases hm with
    | rows hrun harr hok => rfl

end Tracked

namespace LiveSession

/-- **Single flight.** Whatever happens to a session, and in whatever order, at most one statement is with
the warehouse; a further execution is refused until the run has ended; a cancellation reaches only the
run that was waiting; and only rows touch the latest result, with the statement that was handed over. A
run ends cancelled only if that was asked for since it started, or if the warehouse itself says so. -/
theorem singleFlight (dialect : Sql.Dialect) (cat : Catalog) (limit : Value) (ids : IdSupply) (clock : Clock)
    (events : List Event) :
    SingleFlight (play step events (opened dialect cat limit ids clock)).1
      (play step events (opened dialect cat limit ids clock)).2 :=
  (tracks_play dialect cat limit ids clock events).flight

/-- A session on the shop. -/
def shopSession : LiveSession :=
  opened .ansi Canvas.shop .null .fresh .fresh

/-- A run that the warehouse itself cancels. -/
def withdrawn : List Event :=
  [.edit (.addTable (.text "orders")), .execute, .answer (.fault ⟨.queryCancelled, some "gone"⟩), .proceed]

/-- **Cancelled unasked**: the run ends cancelled although nobody asked for it. -/
theorem cancelled_unasked :
    (play step withdrawn shopSession).1 =
      [.edited (.ok (.flag true)), .handed "SELECT *\nFROM orders",
        .answered (.fault ⟨.queryCancelled, some "gone"⟩),
        .ended (.error (.passedOn ⟨.queryCancelled, some "gone"⟩))] ∧
    (RunError.passedOn ⟨.queryCancelled, some "gone"⟩).kind = .queryCancelled ∧
    .cancelled true ∉ (play step withdrawn shopSession).1 := by
  have h : (play step withdrawn shopSession).1 =
      [.edited (.ok (.flag true)), .handed "SELECT *\nFROM orders",
        .answered (.fault ⟨.queryCancelled, some "gone"⟩),
        .ended (.error (.passedOn ⟨.queryCancelled, some "gone"⟩))] := rfl
  refine ⟨h, rfl, ?_⟩
  rw [h]
  simp

end LiveSession

end QueryCanvas
