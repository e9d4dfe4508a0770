import QueryCanvas.Proofs.Session.Identity
import QueryCanvas.Proofs.Text.Trim

/-!
# The name of a query

A query is named when it is started and when it is renamed. Renaming trims the name and refuses a blank one; a new
query takes the name that it is given as it is. So the name of a query is tidy unless the event that named it last
is a new query under a name that is not.

* `nameAfter`: the name after events, each of which may give another.
* `name_play`: it is the name of the canvas.
* `EndsUntidy`: the histories after which the name is not tidy (`not_tidyName_nameAfter`).
-/

namespace QueryCanvas

open Canvas

/-- A name that is not blank and has no blanks at its ends, be it torn or not. -/
def TidyName (v : Value) : Prop :=
  (∃ s, v = .text s ∧ s ≠ "" ∧ Text.trim s = s) ∨ ∃ t : Text.Torn, v = .torn t ∧ t.trim = t

/-- The name that an event gives the query, if it gives it one. -/
def Event.name? : Event → Option Value
  | .newQuery name => some name
  | .edit (.rename v) => (nameOf v).toOption
  | _ => none

/-- **The name of a query after events**: the last that was given. -/
def nameAfter (name : Value) (events : List Event) : Value :=
  events.foldl (fun name e => e.name?.getD name) name

/-- **Histories that leave a name which is not tidy**: a new query was started under it, and the query was not named
since. -/
def EndsUntidy (events : List Event) : Prop :=
  ∃ before name after, events = before ++ .newQuery name :: after ∧ ¬TidyName name ∧ ∀ e ∈ after, e.name? = none

variable {cat : Catalog} {d : Draft} {e : Event} {events : List Event} {name v : Value} {s : LiveSession}

/-! ## Tidy names -/

/-- A name that renaming takes is tidy. -/
theorem tidyName_of_nameOf {w : Value} (h : nameOf w = .ok v) : TidyName v := by
  obtain ⟨s, -, hs, rfl⟩ | ⟨t, -, rfl⟩ := nameOf_eq_ok.1 h
  · exact .inl ⟨_, rfl, hs, Text.trim_trim s⟩
  · exact .inr ⟨_, rfl, t.trim_trim⟩

theorem tidyName_default : TidyName (.text defaultName) :=
  .inl ⟨_, rfl, by decide, by decide +kernel⟩

/-- A renaming gives the name that it takes. -/
theorem Event.name?_edit {x : Edit} (h : (Event.edit x).name? = some v) : ∃ w, x = .rename w ∧ nameOf w = .ok v := by
  cases x with
  | rename w =>
    simp only [Event.name?] at h
    cases hw : nameOf w with
    | ok name =>
      rw [hw] at h
      cases h
      exact ⟨w, rfl, hw⟩
    | error e =>
      rw [hw] at h
      cases h
  | _ => cases h

/-- Only a new query gives a name that is not tidy. -/
theorem eq_newQuery_of_name? (h : e.name? = some v) (hv : ¬TidyName v) : e = .newQuery v := by
  cases e with
  | newQuery name => rw [Option.some.inj h]
  | edit x =>
    obtain ⟨w, -, hw⟩ := Event.name?_edit h
    exact absurd (tidyName_of_nameOf hw) hv
  | _ => cases h

theorem nameAfter_append (name : Value) (events events' : List Event) :
    nameAfter name (events ++ events') = nameAfter (nameAfter name events) events' :=
  List.foldl_append

@[simp] theorem nameAfter_singleton (name : Value) (e : Event) : nameAfter name [e] = e.name?.getD name := rfl

/-- **When a name is not tidy**: it was given to a new query, and the query was not named since. -/
theorem not_tidyName_nameAfter (hname : TidyName name) : ¬TidyName (nameAfter name events) ↔ EndsUntidy events := by
  induction events using List.reverseRecOn with
  | nil => exact iff_of_false (not_not.2 hname) fun ⟨before, v, after, heq, _⟩ => by simp at heq
  | append_singleton events e ih =>
    rw [nameAfter_append, nameAfter_singleton]
    cases he : e.name? with
    | none =>
      rw [Option.getD_none, ih]
      constructor
      · rintro ⟨before, v, after, rfl, hv, hafter⟩
        exact ⟨before, v, after ++ [e], by simp, hv, List.forall_mem_append.2 ⟨hafter, by simpa using he⟩⟩
      · rintro ⟨before, v, after, heq, hv, hafter⟩
        rcases snoc_eq_append_cons.1 heq with ⟨-, rfl, -⟩ | ⟨since, rfl, rfl⟩
        · cases he
        · exact ⟨before, v, since, rfl, hv, (List.forall_mem_append.1 hafter).1⟩
    | some w =>
      rw [Option.getD_some]
      constructor
      · intro hw
        obtain rfl := eq_newQuery_of_name? he hw
        exact ⟨events, w, [], rfl, hw, by simp⟩
      · rintro ⟨before, v, after, heq, hv, hafter⟩
        rcases snoc_eq_append_cons.1 heq with ⟨-, rfl, -⟩ | ⟨since, rfl, rfl⟩
        · rwa [← Option.some.inj he]
        · rw [hafter e (by simp)] at he
          cases he

/-! ## The name of a canvas -/

/-- An edit names the query, or leaves its name as it is. -/
theorem name_perform (h : Rebuilds d.canvas) (x : Edit) :
    (perform cat x d).2.canvas.name = (Event.edit x).name?.getD d.canvas.name := by
  cases hp : perform cat x d with
  | mk res d' =>
    cases res with
    | ok reply =>
      obtain ⟨hrevision⟩ | ⟨haddition⟩ := perform_eq_ok.1 hp
      · cases hrevision with
        | renamed hname =>
          simp only [Event.name?, hname]
          rfl
        | _ => rfl
      · cases haddition <;> rfl
    | error err =>
      have hnone : (Event.edit x).name? = none := by
        rw [Option.eq_none_iff_forall_ne_some]
        intro v hv
        obtain ⟨w, rfl, hw⟩ := Event.name?_edit hv
        rw [perform_eq_ok.2 (.revision (.renamed hw))] at hp
        cases hp
      obtain ⟨hcanvas, -⟩ := perform_refused h hp
      rw [hnone, hcanvas, Option.getD_none]

theorem Event.name?_kept (he : e.keepsCanvas = true) : e.name? = none := by
  cases e with
  | newQuery name => cases he
  | edit x => cases he
  | _ => rfl

/-- **One event** names the query, or leaves its name as it is. -/
theorem Identified.name_step (hs : Identified s) (e : Event) :
    (s.step e).2.session.canvas.name = e.name?.getD s.session.canvas.name := by
  by_cases he : e.keepsCanvas = true
  · obtain ⟨hcanvas, -⟩ := (s.step_moves e).canvas (s.step_kept he).1
    rw [hcanvas, Event.name?_kept he, Option.getD_none]
  · cases e with
    | newQuery name => rfl
    | edit x => exact name_perform hs.sound.rebuilds x
    | _ => exact absurd rfl he

/-- **A run of events**, each of which does to a session what it does alone: the name is the last that was given. -/
theorem name_play {S : Type} {step : S → Event → Report × S} (live : S → LiveSession)
    (hstep : ∀ s e, ∃ clock, live (step s e).2 = { ((live s).step e).2 with clock := clock }) (events : List Event)
    {s : S} (hs : Identified (live s)) :
    (live (play step events s).2).session.canvas.name = nameAfter (live s).session.canvas.name events := by
  induction events generalizing s with
  | nil => rfl
  | cons e events ih =>
    obtain ⟨clock, hlive⟩ := hstep s e
    have hnext : Identified (live (step s e).2) := hlive ▸ (hs.step e).1.later (Nat.le_refl _) clock
    have hname : (live (step s e).2).session.canvas.name = e.name?.getD (live s).session.canvas.name := by
      rw [hlive]
      exact hs.name_step e
    rw [nameAfter, List.foldl_cons, ← hname]
    exact ih hnext

end QueryCanvas
