import QueryCanvas.Canvas.Editing
import QueryCanvas.Proofs.Canvas.Check

/-!
# Running the steps of an edit

What each step of an `Editing` does to the draft, as rewrite rules that walk a chain of steps from its
front; and `Keeps`, which says that a chain leaves the canvas as it was if it is refused. Edits are taken
apart with these rules and never by unfolding the monad.
-/

namespace QueryCanvas

namespace Editing

open Canvas

variable {α β : Type} {d d' : Draft}

@[simp] theorem outcome_pure (a : α) : (pure a : Editing α).outcome d = (.ok a, d) := rfl

@[simp] theorem outcome_current_bind (f : Canvas → Editing β) :
    (current >>= f).outcome d = (f d.canvas).outcome d := rfl

@[simp] theorem outcome_alter_bind (g : Canvas → Canvas) (f : Unit → Editing β) :
    (alter g >>= f).outcome d = (f ()).outcome ⟨g d.canvas, d.ids⟩ := rfl

@[simp] theorem outcome_map_alter (g : Canvas → Canvas) (f : Unit → β) :
    (f <$> alter g).outcome d = (.ok (f ()), ⟨g d.canvas, d.ids⟩) := rfl

@[simp] theorem outcome_takeId_bind (f : String → Editing β) :
    (takeId >>= f).outcome d = (f d.ids.next.1).outcome ⟨d.canvas, d.ids.next.2⟩ := rfl

@[simp] theorem outcome_ok_bind (a : α) (f : α → Editing β) :
    ((liftM (Except.ok a : Except EditError α) : Editing α) >>= f).outcome d = (f a).outcome d := rfl

@[simp] theorem outcome_error_bind (e : EditError) (f : α → Editing β) :
    ((liftM (Except.error e : Except EditError α) : Editing α) >>= f).outcome d = (.error e, d) := rfl

/-- A check is passed through the value that it gives. -/
theorem outcome_check_bind_eq_ok {x : Except EditError α} {f : α → Editing β} {b : β} :
    ((liftM x : Editing α) >>= f).outcome d = (.ok b, d') ↔
      ∃ a, x = .ok a ∧ (f a).outcome d = (.ok b, d') := by
  cases x with
  | ok a => simp
  | error e => simp

/-! ## Refusals -/

/-- A refusal leaves the canvas as it was, takes no id back, and is of one of the kinds of an edit. -/
def Keeps (x : Editing α) (d : Draft) : Prop :=
  ∀ e d', x.outcome d = (.error e, d') →
    d'.canvas = d.canvas ∧ d.ids.given ≤ d'.ids.given ∧ e.kind ∈ editFaults

theorem keeps_of_ok {x : Editing α} {a : α} (h : x.outcome d = (.ok a, d')) : Keeps x d := by
  intro e d'' he
  rw [h] at he
  cases he

/-- Steps that end in a refusal without changing anything. -/
theorem keeps_of_error {x : Editing α} {e : EditError} (h : x.outcome d = (.error e, d))
    (hkind : e.kind ∈ editFaults) : Keeps x d := by
  intro e' d' he
  rw [h] at he
  cases he
  exact ⟨rfl, Nat.le_refl _, hkind⟩

theorem keeps_current_bind {f : Canvas → Editing β} (h : Keeps (f d.canvas) d) : Keeps (current >>= f) d := h

/-- A check changes nothing, so what follows it may count on its success. -/
theorem keeps_check_bind {x : Except EditError α} {f : α → Editing β} (hx : Refuses x)
    (h : ∀ a, x = .ok a → Keeps (f a) d) : Keeps ((liftM x : Editing α) >>= f) d := by
  cases x with
  | ok a => exact h a rfl
  | error e => exact keeps_of_error rfl (hx e rfl)

/-- Taking an id changes no part of the canvas. -/
theorem keeps_takeId_bind {f : String → Editing β} (h : Keeps (f d.ids.next.1) ⟨d.canvas, d.ids.next.2⟩) :
    Keeps (takeId >>= f) d := by
  intro e d' he
  obtain ⟨hcanvas, hids, hkind⟩ := h e d' he
  exact ⟨hcanvas, Nat.le_trans (Nat.le_succ _) hids, hkind⟩

end Editing

end QueryCanvas
