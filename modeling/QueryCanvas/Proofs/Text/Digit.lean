import Mathlib.Data.List.Basic
import Mathlib.Data.List.Induction
import Mathlib.Tactic.Ring
import QueryCanvas.Proofs.Text.Character

/-!
# What digits spell

The number that a digit sequence spells, of any script: it grows by a place with each digit, leading zeros
add nothing, and the written digits of a number spell that number.
-/

namespace QueryCanvas.Text

variable {c : Char} {cs ds : List Char}

theorem digit?_le {n : Nat} (h : digit? c = some n) : n ≤ 9 := by
  obtain ⟨z, hz, rfl⟩ := Option.map_eq_some_iff.1 h
  have hrange := List.find?_some hz
  simp only [Bool.and_eq_true, decide_eq_true_eq] at hrange
  omega

/-- A plain digit counts as its distance from zero. -/
theorem digit?_of_isDigit (h : c.isDigit = true) : digit? c = some (c.toNat - 48) := by
  have hrange := isDigit_iff.1 h
  rw [digit?, digitZeros, List.find?_cons_of_pos (by simp [hrange])]
  rfl

/-- What stands before digits counts a power of ten as often. -/
theorem foldl_digits (n : Nat) (ds : List Char) :
    ds.foldl (fun n c => 10 * n + (digit? c).getD 0) n = n * 10 ^ ds.length + digitsValue ds := by
  induction ds generalizing n with
  | nil => simp [digitsValue]
  | cons d ds ih =>
    have hvalue : digitsValue (d :: ds) = (10 * 0 + (digit? d).getD 0) * 10 ^ ds.length + digitsValue ds := ih _
    rw [List.foldl_cons, ih, hvalue, List.length_cons]
    ring

/-- The digits behind others add a place each. -/
theorem digitsValue_append (cs ds : List Char) :
    digitsValue (cs ++ ds) = digitsValue cs * 10 ^ ds.length + digitsValue ds := by
  rw [digitsValue, List.foldl_append, foldl_digits, ← digitsValue]

/-- A digit sequence spells less than the next power of ten. -/
theorem digitsValue_lt (cs : List Char) : digitsValue cs < Nat.pow 10 cs.length := by
  induction cs using List.reverseRecOn with
  | nil => decide
  | append_singleton cs c ih =>
    have hc : digitsValue [c] ≤ 9 := by
      cases hd : digit? c with
      | none => simp [digitsValue, hd]
      | some n => simpa [digitsValue, hd] using digit?_le hd
    rw [digitsValue_append, List.length_append, List.length_singleton]
    show _ < 10 ^ (cs.length + 1)
    have : digitsValue cs < 10 ^ cs.length := ih
    omega

theorem digitsValue_zeros (n : Nat) : digitsValue (List.replicate n '0') = 0 := by
  induction n with
  | zero => rfl
  | succ n ih => rw [List.replicate_succ', digitsValue_append, ih]; rfl

/-- Leading zeros add nothing. -/
theorem digitsValue_zeros_append (n : Nat) (ds : List Char) :
    digitsValue (List.replicate n '0' ++ ds) = digitsValue ds := by
  rw [digitsValue_append, digitsValue_zeros, Nat.zero_mul, Nat.zero_add]

/-- Each zero behind digits adds a place. -/
theorem digitsValue_append_zeros (ds : List Char) (n : Nat) :
    digitsValue (ds ++ List.replicate n '0') = digitsValue ds * 10 ^ n := by
  rw [digitsValue_append, digitsValue_zeros, List.length_replicate, Nat.add_zero]

/-- The plain digits of a text spell what the library reads from them. -/
theorem digitsValue_eq_ofDigitChars (h : ∀ c ∈ ds, c.isDigit = true) : digitsValue ds = Nat.ofDigitChars 10 ds 0 := by
  rw [digitsValue, Nat.ofDigitChars]
  refine List.foldl_ext _ _ _ fun n c hc => ?_
  rw [digit?_of_isDigit (h c hc)]
  rfl

/-- **The written digits of a number** spell it. -/
theorem digitsValue_toDigits (n : Nat) : digitsValue (Nat.toDigits 10 n) = n := by
  rw [digitsValue_eq_ofDigitChars fun c hc => Nat.isDigit_of_mem_toDigits (by decide) (by decide) hc]
  exact Nat.ofDigitChars_toDigits (by decide) (by decide)

end QueryCanvas.Text
