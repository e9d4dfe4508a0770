import QueryCanvas.Proofs.Canvas.Renaming
import QueryCanvas.Proofs.Session.History

/-!
# Sessions that differ in ids and times

Nothing that happens to a session looks at the time, and ids only tell parts apart. What happens to two sessions
that are otherwise the same leaves them so.

* `Session.Alike`: sessions that differ in the ids of the canvas and in when they were used.
* `Matches`: the next ids of two supplies are other names of each other.
* `step_kept_alike`, `step_alike`: what an event comes to in two such sessions.
-/

namespace QueryCanvas

variable {ρ : Equiv.Perm String}

/-- **Sessions that are alike** but for the ids of the canvas and the time. -/
structure Session.Alike (ρ : Equiv.Perm String) (s s' : Session) : Prop where
  id : s'.id = s.id
  limit : s'.limit = s.limit
  dialect : s'.dialect = s.dialect
  catalog : s'.catalog = s.catalog
  canvasCatalog : s'.canvasCatalog = s.canvasCatalog
  canvas : s'.canvas = s.canvas.renamed ρ
  result : s'.result = s.result
  running : s'.running = s.running
  arrived : s'.arrived = s.arrived

/-- An event in a session with other ids. -/
def Event.renamed (ρ : Equiv.Perm String) : Event → Event
  | .edit e => .edit (e.renamed ρ)
  | e => e

/-- What leaves the canvas alone names no id. -/
theorem Event.renamed_kept {e : Event} (he : e.keepsCanvas = true) : e.renamed ρ = e := by
  cases e <;> first | rfl | cases he

namespace Session

variable {s s' : Session}

/-- A session whose canvas keeps its ids is like itself. -/
theorem Alike.of_fixed (h : s.canvas.renamed ρ = s.canvas) : s.Alike ρ s where
  id := rfl
  limit := rfl
  dialect := rfl
  catalog := rfl
  canvasCatalog := rfl
  canvas := h.symm
  result := rfl
  running := rfl
  arrived := rfl

theorem Alike.refl (s : Session) : s.Alike 1 s :=
  .of_fixed (Canvas.renamed_one s.canvas)

/-- Sessions that are alike compile to the same statement. -/
theorem Alike.sql (h : s.Alike ρ s') : s'.sql = s.sql := by
  rw [Session.sql, Session.sql, h.dialect, h.catalog, h.canvas, Canvas.compile_renamed]

theorem Alike.touch (h : s.Alike ρ s') (clock clock' : Clock) : (s.touch clock).1.Alike ρ (s'.touch clock').1 :=
  { h with }

theorem Alike.isExecuting (h : s.Alike ρ s') : s'.isExecuting = s.isExecuting := by
  rw [Session.isExecuting, Session.isExecuting, h.running]

theorem Alike.isWaiting (h : s.Alike ρ s') : s'.isWaiting = s.isWaiting := by
  rw [Session.isWaiting, Session.isWaiting, h.running, h.arrived]

theorem Alike.receive (h : s.Alike ρ s') (a : Answer) : (s.receive a).Alike ρ (s'.receive a) := by
  have haccepts : s'.accepts a = s.accepts a := by rw [accepts, accepts, h.running, h.arrived]
  unfold Session.receive
  rw [haccepts]
  split
  · exact { h with arrived := rfl }
  · exact h

theorem Alike.resume (h : s.Alike ρ s') : s'.resume.1 = s.resume.1 ∧ s.resume.2.Alike ρ s'.resume.2 := by
  unfold Session.resume
  rw [h.running, h.arrived, h.limit]
  cases s.running with
  | none => exact ⟨rfl, h⟩
  | some run =>
    cases s.arrived with
    | none => exact ⟨rfl, h⟩
    | some a => exact ⟨rfl, { h with limit := rfl, result := by rw [h.result], running := rfl, arrived := rfl }⟩

theorem Alike.cancel (h : s.Alike ρ s') : s'.cancel.1 = s.cancel.1 ∧ s.cancel.2.Alike ρ s'.cancel.2 := by
  unfold Session.cancel
  rw [h.isWaiting]
  split
  · exact ⟨rfl, { h with running := by rw [h.running] }⟩
  · exact ⟨rfl, h⟩

/-- What starting a run comes to in two sessions that are alike. -/
inductive BeginsAlike (ρ : Equiv.Perm String) :
    Except RunError (String × Session × Clock) → Except RunError (String × Session × Clock) → Prop
  | refused (e : RunError) : BeginsAlike ρ (.error e) (.error e)
  | started {sql : String} {s s' : Session} {clock clock' : Clock} (h : s.Alike ρ s') :
      BeginsAlike ρ (.ok (sql, s, clock)) (.ok (sql, s', clock'))

theorem Alike.begin (h : s.Alike ρ s') (clock clock' : Clock) :
    BeginsAlike ρ (s.begin clock) (s'.begin clock') := by
  unfold Session.begin
  rw [h.sql, h.isExecuting]
  cases s.sql with
  | error e => exact .refused _
  | ok sql =>
    by_cases hex : Sql.isExecutable sql = true
    · by_cases hrun : s.isExecuting = true
      · simp only [hex, hrun, Bool.not_true, Bool.false_eq_true, if_false, if_true]
        exact .refused _
      · simp only [hex, hrun, Bool.not_true, Bool.false_eq_true, if_false]
        exact .started { h with running := rfl, arrived := rfl }
    · simp only [hex, Bool.not_false, if_true]
      exact .refused _

end Session

/-! ## Ids -/

/-- **The next `n` ids** of a supply are, under their other names, the next ones of another supply. -/
def Matches (ρ : Equiv.Perm String) (ids ids' : IdSupply) (n : Nat) : Prop :=
  ∀ i < n, ρ (IdSupply.nth (ids.given + 1 + i)) = IdSupply.nth (ids'.given + 1 + i)

/-- **Alike, given the ids**: as many ids were taken on both sides, and something holds if they match. -/
def Draws (ρ : Equiv.Perm String) (ids ids' after after' : IdSupply) (P : Prop) : Prop :=
  ∃ n, after.given = ids.given + n ∧ after'.given = ids'.given + n ∧ (Matches ρ ids ids' n → P)

namespace LiveSession

variable {s s' : LiveSession} {e : Event}

/-- What leaves the canvas alone comes to the same in sessions that are alike. -/
theorem step_kept_alike (h : s.session.Alike ρ s'.session) (he : e.keepsCanvas = true) :
    (s'.step e).1 = (s.step e).1 ∧ (s.step e).2.session.Alike ρ (s'.step e).2.session := by
  cases e with
  | execute =>
    simp only [step]
    generalize hout : s.session.begin s.clock = out, hout' : s'.session.begin s'.clock = out'
    have hbegin := h.begin s.clock s'.clock
    rw [hout, hout'] at hbegin
    cases hbegin with
    | refused err => exact ⟨rfl, h⟩
    | started ht => exact ⟨rfl, ht⟩
  | answer a =>
    have haccepts : s'.session.accepts a = s.session.accepts a := by
      rw [Session.accepts, Session.accepts, h.running, h.arrived]
    refine ⟨?_, h.receive a⟩
    simp only [step, h.isWaiting, haccepts]
  | proceed =>
    obtain ⟨hout, hsession⟩ := h.resume
    simp only [step]
    generalize s.session.resume = out, s'.session.resume = out' at hout hsession
    obtain ⟨outcome, t⟩ := out
    obtain ⟨outcome', t'⟩ := out'
    cases hout
    cases outcome with
    | none => exact ⟨rfl, h⟩
    | some o => exact ⟨rfl, hsession⟩
  | cancel =>
    obtain ⟨hasked, hsession⟩ := h.cancel
    exact ⟨by simp only [step, hasked], hsession⟩
  | newQuery name => cases he
  | edit x => cases he
  | touch => exact ⟨rfl, h.touch s.clock s'.clock⟩

/-- **An event in sessions that are alike** leaves them alike, if the ids that it takes match. -/
theorem step_alike (h : s.session.Alike ρ s'.session) (e : Event) :
    Draws ρ s.ids s'.ids (s.step e).2.ids (s'.step (e.renamed ρ)).2.ids
      ((s.step e).2.session.Alike ρ (s'.step (e.renamed ρ)).2.session) := by
  by_cases he : e.keepsCanvas = true
  · rw [Event.renamed_kept he, (s.step_kept he).2.2, (s'.step_kept he).2.2]
    exact ⟨0, rfl, rfl, fun _ => (step_kept_alike h he).2⟩
  · cases e with
    | newQuery name =>
      refine ⟨1, rfl, rfl, fun hids => ?_⟩
      have hid := hids 0 (Nat.lt_succ_self 0)
      refine { h with canvasCatalog := h.catalog, canvas := ?_, result := rfl }
      simpa [step, Event.renamed, Session.newQuery, Session.touch, Canvas.new, Canvas.empty, Canvas.renamed, Value.renamed,
        Value.truthy, IdSupply.next] using hid.symm
    | edit x =>
      have hm := Canvas.mirrors_perform ρ s.session.canvasCatalog x s.session.canvas s.ids s'.ids
      simp only [step, Event.renamed, Session.edit, h.canvas, h.canvasCatalog]
      generalize Canvas.perform s.session.canvasCatalog x ⟨s.session.canvas, s.ids⟩ = out,
        Canvas.perform s.session.canvasCatalog (x.renamed ρ) ⟨s.session.canvas.renamed ρ, s'.ids⟩ = out' at hm
      obtain ⟨reply, d⟩ := out
      obtain ⟨reply', d'⟩ := out'
      cases hm with
      | kept c => exact ⟨0, rfl, rfl, fun _ => { h with canvasCatalog := rfl, canvas := rfl }⟩
      | taken hc =>
        refine ⟨1, rfl, rfl, fun hids => { h with canvasCatalog := rfl, canvas := ?_ }⟩
        exact hc (hids 0 (Nat.lt_succ_self 0))
    | _ => exact absurd rfl he

/-- **With the same ids** an event comes to the same, whatever the time is. -/
theorem step_same_ids (h : s.session.Alike 1 s'.session) (hids : s'.ids = s.ids) (e : Event) :
    (s'.step e).1 = (s.step e).1 ∧ (s'.step e).2.ids = (s.step e).2.ids ∧
      (s.step e).2.session.Alike 1 (s'.step e).2.session := by
  have hcanvas : s'.session.canvas = s.session.canvas := h.canvas.trans (Canvas.renamed_one _)
  by_cases he : e.keepsCanvas = true
  · obtain ⟨hreport, hsession⟩ := step_kept_alike h he
    exact ⟨hreport, by rw [(s.step_kept he).2.2, (s'.step_kept he).2.2, hids], hsession⟩
  · cases e with
    | newQuery name =>
      simp only [step, Session.newQuery, hids]
      exact ⟨trivial, trivial, { h with
        canvasCatalog := h.catalog, canvas := (Canvas.renamed_one _).symm, result := rfl }⟩
    | edit x =>
      simp only [step, Session.edit, h.canvasCatalog, hcanvas, hids]
      exact ⟨trivial, trivial, { h with canvasCatalog := rfl, canvas := (Canvas.renamed_one _).symm }⟩
    | _ => exact absurd rfl he

end LiveSession

end QueryCanvas
