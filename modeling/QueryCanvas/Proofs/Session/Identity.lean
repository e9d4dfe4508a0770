import QueryCanvas.Proofs.Canvas.Invariant
import QueryCanvas.Proofs.Session.History

/-!
# The identity of the canvas

A canvas keeps its id through edits and through everything else that happens to its session, but for a new
query, which takes the next id of the supply.

* `Identified`: the canvas of a session is sound and has an id that was given, so that a new query
  brings a new id (`Identified.step`).
* `Since`: what became of the id since some earlier state.
-/

namespace QueryCanvas

open Canvas

/-- A session whose canvas is sound, and has an id that was given. -/
structure Identified (s : LiveSession) : Prop where
  sound : Sound s.session.canvasCatalog ⟨s.session.canvas, s.ids⟩
  given : ∃ n ≤ s.ids.given, s.session.canvas.id = .text (IdSupply.nth n)

/-- What became of the canvas since a session was in state `start`: without a new query it is the same
one, edited; otherwise its id is a later one. -/
inductive Since (start : LiveSession) (h : List Report) (s : LiveSession) : Prop
  | same (hids : start.ids.given ≤ s.ids.given) (hnone : ∀ r ∈ h, r.isNewQuery = false)
      (hid : s.session.canvas.id = start.session.canvas.id)
  | another {n : Nat} (hids : start.ids.given ≤ s.ids.given) (hsome : ∃ r ∈ h, r.isNewQuery = true)
      (hlater : start.ids.given < n) (hid : s.session.canvas.id = .text (IdSupply.nth n))

variable {start s s' : LiveSession} {h : List Report} {e : Event}

theorem identified_opened (dialect : Sql.Dialect) (cat : Catalog) (limit : Value) (ids : IdSupply)
    (clock : Clock) : Identified (LiveSession.opened dialect cat limit ids clock) where
  sound := sound_opened (.text defaultName) .null ids.next.2
  given := ⟨ids.next.2.given + 1, Nat.le_refl _, rfl⟩

/-- Ids that others take leave the canvas alone, and so does the clock. -/
theorem Identified.later {ids : IdSupply} (hs : Identified s) (hids : s.ids.given ≤ ids.given) (clock : Clock) :
    Identified ⟨s.session, ids, clock⟩ := by
  obtain ⟨n, hn, hgiven⟩ := hs.given
  exact ⟨hs.sound.later hids, n, Nat.le_trans hn hids, hgiven⟩

/-- An edit takes no id away from a canvas, and no id back. -/
theorem Identified.edit (hs : Identified s) (e : Edit) :
    Sound s.session.canvasCatalog (perform s.session.canvasCatalog e ⟨s.session.canvas, s.ids⟩).2 ∧
      (perform s.session.canvasCatalog e ⟨s.session.canvas, s.ids⟩).2.canvas.id = s.session.canvas.id ∧
      s.ids.given ≤ (perform s.session.canvasCatalog e ⟨s.session.canvas, s.ids⟩).2.ids.given := by
  refine ⟨hs.sound.perform e, ?_⟩
  cases hp : perform s.session.canvasCatalog e ⟨s.session.canvas, s.ids⟩ with
  | mk res d =>
    cases res with
    | error err =>
      obtain ⟨hcanvas, hids, -⟩ := perform_refused hs.sound.rebuilds hp
      exact ⟨by rw [hcanvas], hids⟩
    | ok reply =>
      obtain ⟨hrevision⟩ | ⟨haddition⟩ := perform_eq_ok.1 hp
      · exact ⟨by cases hrevision <;> rfl, Nat.le_refl _⟩
      · exact ⟨by cases haddition <;> rfl, Nat.le_succ _⟩

/-- What leaves the canvas alone keeps its identity. -/
theorem Identified.kept (hs : Identified s) (he : e.keepsCanvas = true) :
    Identified (s.step e).2 ∧ (s.step e).1.isNewQuery = false ∧
      (s.step e).2.session.canvas.id = s.session.canvas.id ∧ s.ids.given ≤ (s.step e).2.ids.given := by
  obtain ⟨hkeeps, hquery, hids⟩ := s.step_kept he
  obtain ⟨hcanvas, hcat⟩ := (s.step_moves e).canvas hkeeps
  refine ⟨⟨?_, ?_⟩, hquery, by rw [hcanvas], by rw [hids]⟩
  · rw [hcanvas, hcat, hids]
    exact hs.sound
  · rw [hcanvas, hids]
    exact hs.given

/-- **One event** leaves the id of the canvas as it is, or gives it the next one. -/
theorem Identified.step (hs : Identified s) (e : Event) : Identified (s.step e).2 ∧
    (((s.step e).1.isNewQuery = false ∧ (s.step e).2.session.canvas.id = s.session.canvas.id ∧
        s.ids.given ≤ (s.step e).2.ids.given) ∨
      ((s.step e).1.isNewQuery = true ∧ (s.step e).2.session.canvas.id = .text (IdSupply.nth (s.ids.given + 1)) ∧
        s.ids.given ≤ (s.step e).2.ids.given)) := by
  by_cases he : e.keepsCanvas = true
  · obtain ⟨hident, hsame⟩ := hs.kept he
    exact ⟨hident, .inl hsame⟩
  · cases e with
    | newQuery name =>
      exact ⟨⟨sound_opened name .null s.ids, _, Nat.le_refl _, rfl⟩, .inr ⟨rfl, rfl, Nat.le_succ _⟩⟩
    | edit e =>
      obtain ⟨hsound, hid, hids⟩ := hs.edit e
      obtain ⟨n, hn, hgiven⟩ := hs.given
      exact ⟨⟨hsound, n, Nat.le_trans hn hids, hid.trans hgiven⟩, .inl ⟨rfl, hid, hids⟩⟩
    | _ => exact absurd rfl he

theorem Since.step (hsince : Since start h s) (hs : Identified s) (e : Event) :
    Since start (h ++ [(s.step e).1]) (s.step e).2 := by
  obtain ⟨-, ⟨hquery, hid, hids⟩ | ⟨hquery, hid, hids⟩⟩ := hs.step e
  · cases hsince with
    | same hstart hnone hsame =>
      exact .same (Nat.le_trans hstart hids) (List.forall_mem_append.2 ⟨hnone, by simpa using hquery⟩)
        (hid.trans hsame)
    | another hstart hsome hlater hother =>
      obtain ⟨r, hr, hnew⟩ := hsome
      exact .another (Nat.le_trans hstart hids) ⟨r, List.mem_append_left _ hr, hnew⟩ hlater (hid.trans hother)
  · have hstart : start.ids.given ≤ s.ids.given := by
      cases hsince with
      | same hstart hnone hsame => exact hstart
      | another hstart hsome hlater hother => exact hstart
    exact .another (Nat.le_trans hstart hids) ⟨_, by simp, hquery⟩ (Nat.lt_succ_of_le hstart) hid

/-- The canvas has the id that it had exactly if no new query was started. -/
theorem Since.id_eq_iff (hsince : Since start h s) (hstart : Identified start) :
    s.session.canvas.id = start.session.canvas.id ↔ ∀ r ∈ h, r.isNewQuery = false := by
  cases hsince with
  | same hids hnone hid => exact iff_of_true hid hnone
  | @another n hids hsome hlater hid =>
    obtain ⟨m, hm, hgiven⟩ := hstart.given
    obtain ⟨r, hr, hnew⟩ := hsome
    refine iff_of_false (fun heq => ?_) fun hnone => by simp [hnone r hr] at hnew
    rw [hid, hgiven] at heq
    have : n = m := IdSupply.nth_injective (Value.text.inj heq)
    omega

end QueryCanvas
