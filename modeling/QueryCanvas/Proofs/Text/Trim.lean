import Mathlib.Data.List.DropRight
import QueryCanvas.Proofs.Text.Character
import QueryCanvas.Text.Torn

/-!
# Trimmed texts

What trimming leaves has no blank at either end, and is all there is between the blanks in front and those behind
(`trimChars_eq_iff`); so a trimmed text stays as it is when it is trimmed again.
-/

namespace QueryCanvas.Text

/-- A text without blanks at its ends. -/
structure Trimmed (cs : List Char) : Prop where
  head : ∀ c, cs.head? = some c → isBlank c = false
  last : ∀ c, cs.getLast? = some c → isBlank c = false

/-- Nothing but blanks. -/
def Blanks (cs : List Char) : Prop :=
  ∀ c ∈ cs, isBlank c = true

/-! ## What is dropped at the ends -/

section Ends

variable {α : Type} {p : α → Bool} {xs w lead gap : List α} {x : α}

theorem trimWhere_eq_rdropWhile (p : α → Bool) (xs : List α) :
    trimWhere p xs = (xs.dropWhile p).rdropWhile p := rfl

/-- What stands in front of a text and is of the kind is dropped. -/
theorem dropWhile_lead (hlead : ∀ x ∈ lead, p x = true) (hw : ∀ x, xs.head? = some x → p x = false) :
    (lead ++ xs).dropWhile p = xs := by
  rw [List.dropWhile_append_of_pos hlead, List.dropWhile_eq_self_iff]
  intro hlength
  rw [hw _ (List.head?_eq_getElem? ▸ List.getElem?_eq_getElem hlength)]
  exact Bool.false_ne_true

/-- What stands behind a text and is of the kind is dropped. -/
theorem rdropWhile_gap (hgap : ∀ x ∈ gap, p x = true) (hw : ∀ x, xs.getLast? = some x → p x = false) :
    (xs ++ gap).rdropWhile p = xs := by
  rw [List.rdropWhile, List.reverse_append,
    dropWhile_lead (fun x hx => hgap x (List.mem_reverse.1 hx)) (by simpa using hw), List.reverse_reverse]

theorem head_trimWhere (hx : (trimWhere p xs).head? = some x) : p x = false := by
  obtain ⟨gap, hgap⟩ := List.rdropWhile_prefix p (xs.dropWhile p)
  have hhead : (xs.dropWhile p).head? = some x := by
    rw [← hgap, List.head?_append, ← trimWhere_eq_rdropWhile, hx]
    rfl
  refine Bool.eq_false_iff.2 fun hp => ?_
  have hnot := List.head?_dropWhile_not p xs
  rw [hhead] at hnot
  simp [hp] at hnot

theorem last_trimWhere (hx : (trimWhere p xs).getLast? = some x) : p x = false := by
  have hne : trimWhere p xs ≠ [] := by
    intro hnil
    simp [hnil] at hx
  have hlast := List.rdropWhile_last_not p (xs.dropWhile p) hne
  rw [List.getLast?_eq_some_getLast hne, Option.some.injEq] at hx
  rw [← hx]
  exact Bool.eq_false_iff.2 hlast

/-- **What is left of a text** without the characters of a kind at its ends: all between them. -/
theorem trimWhere_eq_iff :
    trimWhere p xs = w ↔ (∀ x, w.head? = some x → p x = false) ∧ (∀ x, w.getLast? = some x → p x = false) ∧
      ∃ lead gap, (∀ x ∈ lead, p x = true) ∧ (∀ x ∈ gap, p x = true) ∧ xs = lead ++ (w ++ gap) := by
  constructor
  · rintro rfl
    refine ⟨fun x => head_trimWhere, fun x => last_trimWhere, xs.takeWhile p, (xs.dropWhile p).rtakeWhile p,
      fun _ => List.mem_takeWhile_imp, fun _ => List.mem_rtakeWhile_imp, ?_⟩
    rw [trimWhere_eq_rdropWhile, List.rdropWhile_append_rtakeWhile, List.takeWhile_append_dropWhile]
  · rintro ⟨hhead, hlast, lead, gap, hlead, hgap, rfl⟩
    rw [trimWhere_eq_rdropWhile]
    cases w with
    | nil =>
      rw [List.nil_append, List.dropWhile_append_of_pos hlead, List.dropWhile_eq_nil_iff.2 hgap, List.rdropWhile_nil]
    | cons x w =>
      rw [dropWhile_lead hlead (by simpa using hhead x rfl), rdropWhile_gap hgap hlast]

/-- What is left stays as it is. -/
theorem trimWhere_trimWhere (p : α → Bool) (xs : List α) : trimWhere p (trimWhere p xs) = trimWhere p xs :=
  trimWhere_eq_iff.2 ⟨fun _ => head_trimWhere, fun _ => last_trimWhere, [], [], by simp, by simp, by simp⟩

end Ends

/-! ## Blanks at the ends -/

variable {cs w lead gap : List Char}

/-- **What trimming leaves** of a text: all between the blanks at its ends. -/
theorem trimChars_eq_iff :
    trimChars cs = w ↔ Trimmed w ∧ ∃ lead gap, Blanks lead ∧ Blanks gap ∧ cs = lead ++ (w ++ gap) := by
  rw [trimChars, trimWhere_eq_iff]
  constructor
  · rintro ⟨hhead, hlast, hends⟩
    exact ⟨⟨hhead, hlast⟩, hends⟩
  · rintro ⟨⟨hhead, hlast⟩, hends⟩
    exact ⟨hhead, hlast, hends⟩

theorem trimmed_trimChars (cs : List Char) : Trimmed (trimChars cs) :=
  (trimChars_eq_iff.1 rfl).1

/-- **A trimmed text** stays as it is. -/
theorem Trimmed.trimChars_eq (h : Trimmed cs) : trimChars cs = cs :=
  trimChars_eq_iff.2 ⟨h, [], [], by simp [Blanks], by simp [Blanks], by simp⟩

/-- A trimmed text has no blanks in front. -/
theorem Trimmed.lead_eq_nil (h : Trimmed (lead ++ cs)) (hlead : Blanks lead) : lead = [] := by
  cases lead with
  | nil => rfl
  | cons c lead => exact absurd (hlead c List.mem_cons_self) (Bool.eq_false_iff.1 (h.head c rfl))

/-- A trimmed text has no blanks behind. -/
theorem Trimmed.gap_eq_nil (h : Trimmed (cs ++ gap)) (hgap : Blanks gap) : gap = [] := by
  obtain rfl | ⟨gap, c, rfl⟩ := List.eq_nil_or_concat gap
  · rfl
  · exact absurd (hgap c (by simp)) (Bool.eq_false_iff.1 (h.last c (by simp)))

/-- A torn text that was trimmed stays as it is. -/
theorem Torn.trim_trim (t : Torn) : t.trim.trim = t.trim := by
  simp only [Torn.trim, trimWhere_trimWhere]

theorem trim_trim (s : String) : trim (trim s) = trim s := by
  rw [trim, trim, String.toList_ofList, (trimmed_trimChars s.toList).trimChars_eq]

end QueryCanvas.Text
