import Mathlib.Data.List.Induction
import QueryCanvas.Session.Event

/-!
# Histories of a session

What one event does to a session as a relation, and what the reports so far say about its run.

* `Moves`: the next session and the report of every event, with the conditions under which an event
  comes to that. `step_moves` says that every step is one of these; what holds of every history is
  proved over `Moves`, by cases, and never by unfolding a step.
* `UnderWay`: a statement was handed over and its run has not ended; the reports since then. There is
  at most one such statement (`UnderWay.unique`).
-/

namespace QueryCanvas

/-! ## One event -/

/-- **What one event can do** to a session, and its report. -/
inductive Moves (s : Session) : Report → Session → Prop
  | refused {clock : Clock} {e : RunError} (herr : s.begin clock = .error e) : Moves s (.refused e) s
  | handed {sql : String} (now : Nat) (hsql : s.sql = .ok sql) (hidle : s.running = none) :
      Moves s (.handed sql) { s with lastUsed := now, running := some ⟨sql, false⟩, arrived := none }
  | answered {run : Run} (a : Answer) (hrun : s.running = some run) (harr : s.arrived = none) :
      Moves s (.answered a) { s with arrived := some a }
  | interrupted {run : Run} {a b : Answer} (hrun : s.running = some run) (harr : s.arrived = some b)
      (hforce : b.force < a.force) : Moves s (.interrupted a) { s with arrived := some a }
  | rows {run : Run} {a : Answer} {r : QueryResult} (hrun : s.running = some run) (harr : s.arrived = some a)
      (hok : run.outcome s.limit a = .ok r) :
      Moves s (.ended (.ok r)) { s with running := none, arrived := none, result := some r }
  | failed {run : Run} {a : Answer} {e : RunError} (hrun : s.running = some run) (harr : s.arrived = some a)
      (herr : run.outcome s.limit a = .error e) :
      Moves s (.ended (.error e)) { s with running := none, arrived := none }
  | cancelled {run : Run} (hrun : s.running = some run) (harr : s.arrived = none) :
      Moves s (.cancelled true) { s with running := some { run with cancelRequested := true } }
  | notCancelled (h : s.isWaiting = false) : Moves s (.cancelled false) s
  | newQuery (c : Canvas) (now : Nat) :
      Moves s .newQuery { s with canvas := c, canvasCatalog := s.catalog, result := none, lastUsed := now }
  | edited (reply : Except EditError Reply) (c : Canvas) : Moves s (.edited reply) { s with canvas := c }
  | nothing (now : Nat) : Moves s .nothing { s with lastUsed := now }

namespace LiveSession

theorem begin_moves {s s' : Session} {clock clock' : Clock} {sql : String}
    (h : s.begin clock = .ok (sql, s', clock')) : Moves s (.handed sql) s' := by
  unfold Session.begin at h
  cases hsql : s.sql with
  | error e =>
    rw [hsql] at h
    cases h
  | ok text =>
    simp only [hsql] at h
    by_cases hex : Sql.isExecutable text = true
    · by_cases hrun : s.isExecuting = true
      · simp [hex, hrun] at h
      · simp only [hex, Bool.not_true, Bool.false_eq_true, if_false, hrun] at h
        cases h
        refine .handed _ hsql ?_
        simpa [Session.isExecuting] using hrun
    · simp [hex] at h

theorem answer_moves (s : LiveSession) (a : Answer) :
    Moves s.session (s.step (.answer a)).1 (s.step (.answer a)).2.session := by
  simp only [step, Session.receive]
  by_cases hacc : s.session.accepts a = true
  · obtain ⟨hex, hforce⟩ := Session.accepts_iff.1 hacc
    obtain ⟨run, hrun⟩ := Option.isSome_iff_exists.1 hex
    cases harr : s.session.arrived with
    | none =>
      rw [if_pos (Session.isWaiting_iff.2 ⟨hex, harr⟩), if_pos hacc]
      exact .answered a hrun harr
    | some b =>
      have hw : s.session.isWaiting ≠ true := fun hw => by simp [(Session.isWaiting_iff.1 hw).2] at harr
      rw [if_neg hw, if_pos hacc, if_pos hacc]
      exact .interrupted hrun harr (hforce b harr)
  · have hw : s.session.isWaiting ≠ true := fun hw => hacc (Session.accepts_of_isWaiting hw a)
    rw [if_neg hw, if_neg hacc, if_neg hacc]
    exact .nothing s.session.lastUsed

theorem proceed_moves (s : LiveSession) : Moves s.session (s.step .proceed).1 (s.step .proceed).2.session := by
  simp only [step, Session.resume]
  cases hrun : s.session.running with
  | none => exact .nothing s.session.lastUsed
  | some run =>
    cases harr : s.session.arrived with
    | none => exact .nothing s.session.lastUsed
    | some a =>
      cases hout : run.outcome s.session.limit a with
      | ok r =>
        simp only [hout]
        exact .rows hrun harr hout
      | error e =>
        simp only [hout]
        exact .failed hrun harr hout

theorem cancel_moves (s : LiveSession) : Moves s.session (s.step .cancel).1 (s.step .cancel).2.session := by
  simp only [step, Session.cancel]
  by_cases hw : s.session.isWaiting = true
  · obtain ⟨hex, harr⟩ := Session.isWaiting_iff.1 hw
    obtain ⟨run, hrun⟩ := Option.isSome_iff_exists.1 hex
    simp only [hw, if_true, hrun, Option.map_some]
    exact .cancelled hrun harr
  · simp only [hw]
    exact .notCancelled (Bool.eq_false_iff.2 hw)

/-- **Every event does one of these.** -/
theorem step_moves (s : LiveSession) (e : Event) : Moves s.session (s.step e).1 (s.step e).2.session := by
  cases e with
  | execute =>
    cases h : s.session.begin s.clock with
    | error err =>
      simp only [step, h]
      exact .refused h
    | ok out =>
      simp only [step, h]
      exact begin_moves h
  | answer a => exact answer_moves s a
  | proceed => exact proceed_moves s
  | cancel => exact cancel_moves s
  | newQuery name => exact .newQuery _ _
  | edit e => exact .edited _ _
  | touch => exact .nothing _

end LiveSession

/-- No event gives a session another id. -/
theorem Moves.id {s s' : Session} {r : Report} (hm : Moves s r s') : s'.id = s.id := by
  cases hm <;> rfl

/-! ## The canvas in one event -/

/-- Whether an event leaves the canvas alone. -/
def Event.keepsCanvas : Event → Bool
  | .newQuery _ | .edit _ => false
  | _ => true

/-- Whether a report is of something that leaves the canvas alone. -/
def Report.keepsCanvas : Report → Bool
  | .newQuery | .edited _ => false
  | _ => true

theorem Moves.canvas {s s' : Session} {r : Report} (hm : Moves s r s') (hr : r.keepsCanvas = true) :
    s'.canvas = s.canvas ∧ s'.canvasCatalog = s.canvasCatalog := by
  cases hm with
  | newQuery c now => cases hr
  | edited reply c => cases hr
  | _ => exact ⟨rfl, rfl⟩

/-- What leaves the canvas alone takes no id and is no new query. -/
theorem LiveSession.step_kept (s : LiveSession) {e : Event} (he : e.keepsCanvas = true) :
    (s.step e).1.keepsCanvas = true ∧ (s.step e).1.isNewQuery = false ∧ (s.step e).2.ids = s.ids := by
  cases e with
  | execute =>
    simp only [step]
    split <;> exact ⟨rfl, rfl, rfl⟩
  | answer a =>
    dsimp only [step]
    split
    · exact ⟨rfl, rfl, rfl⟩
    · split <;> exact ⟨rfl, rfl, rfl⟩
  | proceed =>
    simp only [step]
    split <;> exact ⟨rfl, rfl, rfl⟩
  | cancel => exact ⟨rfl, rfl, rfl⟩
  | newQuery name => cases he
  | edit x => cases he
  | touch => exact ⟨rfl, rfl, rfl⟩

/-! ## The run of a history -/

/-- Whether a report is neither the start nor the end of a run. -/
def Report.isBetween (r : Report) : Bool :=
  !r.isHanded && !r.isEnded

/-- **A run under way**: its statement was handed over, and since then no run has ended and none was
started. -/
def UnderWay (h : List Report) (sql : String) (since : List Report) : Prop :=
  (∃ before, h = before ++ .handed sql :: since) ∧ ∀ r ∈ since, r.isBetween = true

section Histories

variable {α : Type} {h a b : List α} {x r : α} {p : α → Bool}

/-- Where an entry can stand in a list with one more at its end. -/
theorem snoc_eq_append_cons : h ++ [r] = a ++ x :: b ↔
    (h = a ∧ r = x ∧ b = []) ∨ ∃ c, b = c ++ [r] ∧ h = a ++ x :: c := by
  constructor
  · intro heq
    rcases List.eq_nil_or_concat b with rfl | ⟨c, y, rfl⟩
    · obtain ⟨rfl, hx⟩ := List.append_inj' heq rfl
      exact .inl ⟨rfl, (List.cons.inj hx).1, rfl⟩
    · rw [List.concat_eq_append, ← List.cons_append, ← List.append_assoc] at heq
      obtain ⟨rfl, hy⟩ := List.append_inj' heq rfl
      exact .inr ⟨c, by rw [(List.cons.inj hy).1, List.concat_eq_append], rfl⟩
  · rintro (⟨rfl, rfl, rfl⟩ | ⟨c, rfl, rfl⟩)
    · rfl
    · simp

/-- There is only one last entry with a property. -/
theorem last_unique {a' b' : List α} {x' : α} (heq : a ++ x :: b = a' ++ x' :: b') (hx : p x = true)
    (hx' : p x' = true) (hb : ∀ r ∈ b, p r = false) (hb' : ∀ r ∈ b', p r = false) :
    a = a' ∧ x = x' ∧ b = b' := by
  induction b using List.reverseRecOn generalizing b' with
  | nil =>
    rcases snoc_eq_append_cons.1 heq with ⟨rfl, rfl, rfl⟩ | ⟨c, rfl, -⟩
    · exact ⟨rfl, rfl, rfl⟩
    · rw [hb' x (by simp)] at hx
      cases hx
  | append_singleton b r ih =>
    rw [← List.cons_append, ← List.append_assoc] at heq
    rcases snoc_eq_append_cons.1 heq with ⟨-, rfl, -⟩ | ⟨c, rfl, hprefix⟩
    · rw [hb r (by simp)] at hx'
      cases hx'
    · obtain ⟨ha, hx, hc⟩ := ih hprefix (fun y hy => hb y (by simp [hy])) fun y hy => hb' y (by simp [hy])
      exact ⟨ha, hx, by rw [hc]⟩

end Histories

section UnderWay

variable {h since since' : List Report} {sql sql' : String} {r : Report}

theorem UnderWay.unique (hu : UnderWay h sql since) (hu' : UnderWay h sql' since') :
    sql = sql' ∧ since = since' := by
  obtain ⟨⟨before, rfl⟩, hb⟩ := hu
  obtain ⟨⟨before', heq⟩, hb'⟩ := hu'
  obtain ⟨-, hx, hs⟩ := last_unique heq (p := fun r => !r.isBetween) rfl rfl (fun r hr => by simp [hb r hr])
    fun r hr => by simp [hb' r hr]
  exact ⟨Report.handed.inj hx, hs⟩

theorem underWay_handed (h : List Report) (sql : String) : UnderWay (h ++ [.handed sql]) sql [] :=
  ⟨⟨h, rfl⟩, by simp⟩

theorem not_underWay_ended (h : List Report) (outcome : Outcome) :
    ¬ UnderWay (h ++ [.ended outcome]) sql since := by
  rintro ⟨⟨before, heq⟩, hb⟩
  rcases snoc_eq_append_cons.1 heq with ⟨-, hr, -⟩ | ⟨c, rfl, -⟩
  · cases hr
  · simpa [Report.isBetween, Report.isEnded] using hb (.ended outcome) (by simp)

theorem not_underWay_nil : ¬ UnderWay [] sql since := by
  rintro ⟨⟨before, heq⟩, -⟩
  simp at heq

/-- A report in between keeps a run under way, and starts none. -/
theorem underWay_snoc_iff (hr : r.isBetween = true) :
    UnderWay (h ++ [r]) sql since ↔ ∃ c, since = c ++ [r] ∧ UnderWay h sql c := by
  constructor
  · rintro ⟨⟨before, heq⟩, hb⟩
    rcases snoc_eq_append_cons.1 heq with ⟨-, rfl, -⟩ | ⟨c, rfl, rfl⟩
    · cases hr
    · exact ⟨c, rfl, ⟨before, rfl⟩, fun x hx => hb x (by simp [hx])⟩
  · rintro ⟨c, rfl, ⟨before, rfl⟩, hb⟩
    refine ⟨⟨before, by simp⟩, fun x hx => ?_⟩
    rcases List.mem_append.1 hx with hx | hx
    · exact hb x hx
    · rw [List.mem_singleton.1 hx]
      exact hr

end UnderWay

end QueryCanvas
