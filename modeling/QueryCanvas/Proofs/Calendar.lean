import Mathlib.Algebra.Group.Nat.Defs
import QueryCanvas.Calendar

/-!
# The order of written moments

A moment in its written form has fields of fixed width, the greatest first, so that the order of the texts is
the order of the moments.

* `Moment.IsLocal`: moments without offset whose fields have as many digits as they are written with.
* `momentChars_lt`: the earlier of two such moments has the smaller text.
-/

namespace QueryCanvas

namespace Calendar

/-! ## Numbers of fixed width -/

section Padded

variable {m n w : Nat} {x y : List Char}

theorem padded_digit (hn : n < 10) : padded 1 n = [Nat.digitChar n] := by
  simp [padded, Numeral.Binary64.padLeft, Nat.toDigits_of_lt_base hn]

/-- A number is written as a tenth of it and its last digit. -/
theorem padded_succ (w n : Nat) : padded (w + 2) n = padded (w + 1) (n / 10) ++ [Nat.digitChar (n % 10)] := by
  rcases Nat.lt_or_ge n 10 with hn | hn
  · simp [padded, Numeral.Binary64.padLeft, Nat.toDigits_of_lt_base, hn, Nat.div_eq_of_lt hn, Nat.mod_eq_of_lt hn,
      List.replicate_succ']
  · simp [padded, Numeral.Binary64.padLeft, Nat.toDigits_of_base_le (by decide : 1 < 10) hn]

theorem digitChar_lt (h : m < n) (hn : n < 10) : Nat.digitChar m < Nat.digitChar n := by
  have hm := Nat.toNat_digitChar_of_lt_ten (Nat.lt_trans h hn)
  have hn := Nat.toNat_digitChar_of_lt_ten hn
  rw [Char.lt_def, UInt32.lt_iff_toNat_lt]
  show (Nat.digitChar m).toNat < (Nat.digitChar n).toNat
  omega

/-- Two texts that start with numbers of the same width are in the order of the numbers, and those of
the same number in the order of what follows. -/
theorem padded_append_lt (hm : m < 10 ^ (w + 1)) (hn : n < 10 ^ (w + 1)) (h : m < n ∨ m = n ∧ x < y) :
    padded (w + 1) m ++ x < padded (w + 1) n ++ y := by
  induction w generalizing m n x y with
  | zero =>
    rw [padded_digit hm, padded_digit hn, List.singleton_append, List.singleton_append, List.cons_lt_cons_iff]
    rcases h with h | ⟨rfl, h⟩
    · exact .inl (digitChar_lt h hn)
    · exact .inr ⟨rfl, h⟩
  | succ w ih =>
    rw [padded_succ, padded_succ, List.append_assoc, List.append_assoc]
    have hdiv : ∀ {k : Nat}, k < 10 ^ (w + 1 + 1) → k / 10 < 10 ^ (w + 1) := fun hk => by
      rw [Nat.div_lt_iff_lt_mul (by decide), ← Nat.pow_succ]
      exact hk
    refine ih (hdiv hm) (hdiv hn) ?_
    rw [List.singleton_append, List.singleton_append, List.cons_lt_cons_iff]
    have hlast := Nat.mod_lt n (by decide : 0 < 10)
    rcases h with h | ⟨rfl, h⟩
    · rcases Nat.lt_or_ge (m / 10) (n / 10) with hlt | hge
      · exact .inl hlt
      · exact .inr ⟨by omega, .inl (digitChar_lt (by omega) hlast)⟩
    · exact .inr ⟨rfl, .inr ⟨rfl, h⟩⟩

end Padded

end Calendar

/-! ## Moments -/

namespace Moment

/-- The fields of a moment, the greatest first. -/
def fields (m : Moment) : List Nat :=
  [m.date.year, m.date.month, m.date.day, m.time.hour, m.time.minute, m.time.second, m.time.microsecond]

/-- A moment without offset, whose fields fit their width. -/
structure IsLocal (m : Moment) : Prop where
  year : m.date.year < 10 ^ 4
  month : m.date.month < 10 ^ 2
  day : m.date.day < 10 ^ 2
  hour : m.time.hour < 10 ^ 2
  minute : m.time.minute < 10 ^ 2
  second : m.time.second < 10 ^ 2
  microsecond : m.time.microsecond < 10 ^ 6
  offset : m.time.offset = none

/-- Whether a moment is earlier than another: the greatest field in which they differ decides. -/
def Earlier (m n : Moment) : Prop :=
  m.fields < n.fields

end Moment

namespace Calendar

open Moment

variable {m n : Moment} {separator : Char}

/-- The fraction is left out when it is zero; the text that goes on is greater. -/
theorem fraction_lt {i j : Nat} (hi : i < 10 ^ 6) (hj : j < 10 ^ 6) (h : i < j) :
    (if i = 0 then [] else '.' :: padded 6 i) < (if j = 0 then [] else '.' :: padded 6 j) := by
  rw [if_neg (Nat.ne_zero_of_lt h)]
  split
  · exact List.nil_lt_cons _ _
  · have hdigits := padded_append_lt (x := []) (y := []) hi hj (.inl h)
    rw [List.append_nil, List.append_nil] at hdigits
    exact List.cons_lt_cons_iff.2 (.inr ⟨rfl, hdigits⟩)

/-- **The earlier moment has the smaller text.** -/
theorem momentChars_lt (hm : m.IsLocal) (hn : n.IsLocal) (h : m.Earlier n) :
    momentChars separator m < momentChars separator n := by
  simp only [Earlier, fields, List.cons_lt_cons_iff, List.not_lt_nil, and_false, or_false] at h
  simp only [momentChars, dateChars, timeChars, clockChars, hm.offset, hn.offset, List.append_assoc,
    List.cons_append, Option.map_none, Option.getD_none, List.append_nil, and_true]
  have hsame : ∀ {c : Char} {x y : List Char}, x < y → c :: x < c :: y :=
    fun hxy => List.cons_lt_cons_iff.2 (.inr ⟨rfl, hxy⟩)
  refine padded_append_lt hm.year hn.year (h.imp_right fun h => ⟨h.1, hsame ?_⟩)
  refine padded_append_lt hm.month hn.month (h.2.imp_right fun h => ⟨h.1, hsame ?_⟩)
  refine padded_append_lt hm.day hn.day (h.2.imp_right fun h => ⟨h.1, hsame ?_⟩)
  refine padded_append_lt hm.hour hn.hour (h.2.imp_right fun h => ⟨h.1, hsame ?_⟩)
  refine padded_append_lt hm.minute hn.minute (h.2.imp_right fun h => ⟨h.1, hsame ?_⟩)
  refine padded_append_lt hm.second hn.second (h.2.imp_right fun h => ⟨h.1, ?_⟩)
  exact fraction_lt hm.microsecond hn.microsecond h.2

/-! ## The moments of a clock -/

theorem isLocal_afterNewYear {seconds : Nat} (h : seconds < 99 * 86400) : (afterNewYear seconds).IsLocal where
  year := (by decide : 2024 < 10 ^ 4)
  month := (by decide : 1 < 10 ^ 2)
  day := by
    simp only [afterNewYear]
    omega
  hour := Nat.lt_trans (Nat.mod_lt _ (by decide)) (by decide : 24 < 10 ^ 2)
  minute := Nat.lt_trans (Nat.mod_lt _ (by decide)) (by decide : 60 < 10 ^ 2)
  second := Nat.lt_trans (Nat.mod_lt _ (by decide)) (by decide : 60 < 10 ^ 2)
  microsecond := (by decide : 0 < 10 ^ 6)
  offset := rfl

/-- A later reading is a later moment. -/
theorem earlier_afterNewYear {i j : Nat} (h : i < j) : (afterNewYear i).Earlier (afterNewYear j) := by
  simp only [Earlier, fields, afterNewYear, List.cons_lt_cons_iff, List.not_lt_nil, Nat.lt_irrefl, and_false,
    or_false, false_or, true_and]
  omega

end Calendar

end QueryCanvas
