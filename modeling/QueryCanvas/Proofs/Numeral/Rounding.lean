import Mathlib.Algebra.Order.Field.Power
import Mathlib.Algebra.Order.Field.Rat
import Mathlib.Algebra.Order.Ring.Abs
import Mathlib.Algebra.Group.Nat.Even
import Mathlib.Data.Nat.Cast.Order.Field
import Mathlib.Tactic.FieldSimp
import Mathlib.Tactic.Linarith
import Mathlib.Tactic.Positivity
import Mathlib.Tactic.Ring
import QueryCanvas.Numeral.Binary64

/-!
# The nearest double

Fractions and decimals are taken as the double nearest to them, and as the one with the even mantissa if two are
equally near. What lies half a unit or more behind the largest double is infinite. Signs are kept, also that of what
is taken as zero.

* `Fits`: mantissa and exponent of a double.
* `Nearest`: the double that a size and a sign are taken as.
* `nearest_ofRatio`, `nearest_ofDecimal`: fractions and decimals are taken as their nearest double.
* `Nearest.unique`: there is one such double only.
-/

namespace QueryCanvas.Numeral.Binary64

/-- The size of a double: its mantissa at its exponent. -/
def size (m : Nat) (e : Int) : ℚ :=
  m * 2 ^ e

/-- Half a unit behind the largest double. -/
def overflow : ℚ :=
  (mantissaBound - 1 / 2) * 2 ^ maxExponent

/-- **Mantissa and exponent of a double.** The mantissa takes all of its bits unless the exponent is the smallest. -/
structure Fits (m : Nat) (e : Int) : Prop where
  lt : m < mantissaBound
  full : e = minExponent ∨ mantissaBound ≤ 2 * m
  ge : minExponent ≤ e
  le : e ≤ maxExponent

/-- **A size that no double is nearer to**, with an even mantissa if another one is equally near. -/
structure Closest (q : ℚ) (m : Nat) (e : Int) : Prop where
  near : ∀ m' e', Fits m' e' → |size m e - q| ≤ |size m' e' - q|
  even : ∀ m' e', Fits m' e' → size m' e' ≠ size m e → |size m' e' - q| = |size m e - q| → Even m

/-- **The double that a number is taken as**, by the number's size and sign. -/
inductive Nearest (negative : Bool) (q : ℚ) : Binary64 → Prop
  | finite {m : Nat} {e : Int} (hq : q < overflow) (hfits : Fits m e) (hclosest : Closest q m e) :
      Nearest negative q (.finite negative m e)
  | infinite (hq : overflow ≤ q) : Nearest negative q (.infinite negative)

/-- A whole number nearest to another number, and an even one if there are two. -/
structure Rounds (x : ℚ) (m : Nat) : Prop where
  half : |(m : ℚ) - x| ≤ 1 / 2
  even : |(m : ℚ) - x| = 1 / 2 → Even m

variable {negative : Bool} {q x : ℚ} {m m' n d k num den c : Nat} {e e' : Int} {y z : Binary64}

/-! ## Whole numbers -/

/-- Dividing rounds to the nearest whole number. -/
theorem rounds_roundDiv (hd : 0 < d) : Rounds (n / d) (roundDiv n d) := by
  have hdq : (0 : ℚ) < d := Nat.cast_pos.2 hd
  obtain ⟨r, hr⟩ : ∃ r : ℚ, r = (n % d : Nat) / d := ⟨_, rfl⟩
  have hsplit : (n : ℚ) / d = (n / d : Nat) + r := by
    rw [hr, div_eq_iff hdq.ne', add_mul, div_mul_cancel₀ _ hdq.ne']
    exact_mod_cast (Nat.div_add_mod' n d).symm
  have hpos : 0 ≤ r := hr ▸ by positivity
  have hone : r < 1 := by
    rw [hr, div_lt_one hdq]
    exact_mod_cast Nat.mod_lt n hd
  have hlow : 2 * (n % d) < d ↔ r < 1 / 2 := by
    rw [hr, div_lt_div_iff₀ hdq two_pos, one_mul, mul_comm 2]
    exact_mod_cast Iff.rfl
  have hhigh : d < 2 * (n % d) ↔ 1 / 2 < r := by
    rw [hr, div_lt_div_iff₀ two_pos hdq, one_mul, mul_comm 2]
    exact_mod_cast Iff.rfl
  have hdown : |((n / d : Nat) : ℚ) - ((n / d : Nat) + r)| = r := by
    rw [sub_add_cancel_left, abs_neg, abs_of_nonneg hpos]
  have hup : |((n / d + 1 : Nat) : ℚ) - ((n / d : Nat) + r)| = 1 - r := by
    rw [Nat.cast_succ, add_sub_add_left_eq_sub, abs_of_nonneg (sub_nonneg.2 hone.le)]
  rw [hsplit]
  simp only [roundDiv, hlow, hhigh]
  split
  · rename_i hhalf
    exact ⟨by rw [hdown]; exact hhalf.le, fun h => absurd (hdown.symm.trans h) hhalf.ne⟩
  · rename_i hhalf
    split
    · rename_i hhalf
      exact ⟨by rw [hup]; linarith, fun h => by rw [hup] at h; linarith⟩
    · rename_i hhalf'
      have htie : r = 1 / 2 := le_antisymm (not_lt.1 hhalf') (not_lt.1 hhalf)
      -- The quotient is kept if it is even, and raised if it is odd.
      rcases Nat.mod_two_eq_zero_or_one (n / d) with heven | hodd
      · rw [heven]
        exact ⟨by rw [Nat.add_zero, hdown, htie], fun _ => Nat.even_iff.2 heven⟩
      · rw [hodd]
        exact ⟨by rw [hup, htie]; norm_num, fun _ => Nat.even_iff.2 (by omega)⟩

/-- Other whole numbers are half or more away. -/
theorem Rounds.half_le (h : Rounds x m) (hk : k ≠ m) : 1 / 2 ≤ |(k : ℚ) - x| := by
  have hone : (1 : ℚ) ≤ |(k : ℚ) - m| := by
    have hint : (1 : Int) ≤ |(k : Int) - m| := Int.one_le_abs (sub_ne_zero.2 (by exact_mod_cast hk))
    exact_mod_cast hint
  have htriangle : |(k : ℚ) - m| ≤ |(k : ℚ) - x| + |(m : ℚ) - x| := by
    rw [abs_sub_comm (m : ℚ)]
    exact abs_sub_le _ _ _
  linarith [h.half]

theorem Rounds.near (h : Rounds x m) (k : Nat) : |(m : ℚ) - x| ≤ |(k : ℚ) - x| := by
  by_cases hk : k = m
  · rw [hk]
  · exact h.half.trans (h.half_le hk)

theorem Rounds.le_of_lt (h : Rounds x m) (hx : x < n) : m ≤ n := by
  have hm := (abs_le.1 h.half).2
  have : (m : ℚ) < (n + 1 : Nat) := by
    push_cast
    linarith
  exact Nat.lt_succ_iff.1 (by exact_mod_cast this)

theorem Rounds.ge_of_le (h : Rounds x m) (hx : n ≤ x) : n ≤ m := by
  have hm := (abs_le.1 h.half).1
  have : (n : ℚ) < (m + 1 : Nat) := by
    push_cast
    linarith
  exact Nat.lt_succ_iff.1 (by exact_mod_cast this)

/-! ## Sizes -/

/-- A mantissa at a larger exponent is a multiple of it at a smaller one. -/
theorem size_shift (h : e ≤ e') : size m e' = size (m * 2 ^ (e' - e).toNat) e := by
  rw [size, size, Nat.cast_mul, Nat.cast_pow, Nat.cast_two, mul_assoc, ← zpow_natCast, Int.toNat_of_nonneg (by omega),
    ← zpow_add₀ two_ne_zero, sub_add_cancel]

/-- The first size with all bits. -/
theorem size_bound_pred (e : Int) : size mantissaBound (e - 1) = size (mantissaBound / 2) e := by
  have htwice : (mantissaBound : ℚ) = (mantissaBound / 2 : Nat) * 2 := by
    exact_mod_cast (by decide : mantissaBound = mantissaBound / 2 * 2)
  rw [size, size, htwice, mul_assoc, ← zpow_one_add₀ two_ne_zero, add_sub_cancel]

/-- How far a size is from a number, in units of its exponent. -/
theorem abs_size_sub (m : Nat) (e : Int) (q : ℚ) : |size m e - q| = |(m : ℚ) - q / 2 ^ e| * 2 ^ e := by
  have hunit : (0 : ℚ) < 2 ^ e := zpow_pos two_pos e
  rw [← abs_of_pos hunit, ← abs_mul, sub_mul, abs_of_pos hunit, div_mul_cancel₀ _ hunit.ne', size]

/-- Sizes at smaller exponents are less than those at larger ones. -/
theorem Fits.bound_le (h : Fits m' e') (he : e < e') (hmin : minExponent ≤ e) : size mantissaBound e ≤ size m' e' := by
  have hfull : mantissaBound ≤ 2 * m' := h.full.resolve_left (by omega)
  calc size mantissaBound e ≤ size (2 * m') e :=
        mul_le_mul_of_nonneg_right (Nat.cast_le.2 hfull) (zpow_pos two_pos e).le
    _ = size m' (e + 1) := by
        rw [size, size, zpow_add_one₀ two_ne_zero, Nat.cast_mul, Nat.cast_two]
        ring
    _ ≤ size m' e' :=
        mul_le_mul_of_nonneg_left (zpow_le_zpow_right₀ one_le_two he) (Nat.cast_nonneg m')

theorem Fits.size_lt (h : Fits m e) : size m e < size mantissaBound e :=
  mul_lt_mul_of_pos_right (Nat.cast_lt.2 h.lt) (zpow_pos two_pos e)

/-- **What is nearest in units of an exponent** is nearest among all doubles, if the number fills the mantissa. -/
theorem closest_of_rounds (h : Rounds (q / 2 ^ e) m)
    (hfull : e = minExponent ∨ size mantissaBound (e - 1) ≤ q) : Closest q m e := by
  have hunit : (0 : ℚ) < 2 ^ e := zpow_pos two_pos e
  -- A double at a smaller exponent lies below the number, and a multiple of the unit lies between.
  have hfar : ∀ m' e', Fits m' e' → e' < e → |size m e - q| < |size m' e' - q| := by
    intro m' e' hfits he
    have hle : size mantissaBound (e - 1) ≤ q := hfull.resolve_left (by have := hfits.ge; omega)
    have hlt : size m' e' < size mantissaBound (e - 1) :=
      hfits.size_lt.trans_le (mul_le_mul_of_nonneg_left (zpow_le_zpow_right₀ one_le_two (by omega)) (Nat.cast_nonneg _))
    have hbetween : |size m e - q| ≤ |size mantissaBound (e - 1) - q| := by
      rw [size_bound_pred, abs_size_sub, abs_size_sub]
      exact mul_le_mul_of_nonneg_right (h.near _) hunit.le
    refine hbetween.trans_lt ?_
    rw [abs_of_nonpos (sub_nonpos.2 hle), abs_of_nonpos (sub_nonpos.2 (hlt.le.trans hle))]
    linarith
  constructor
  · intro m' e' hfits
    rcases lt_or_ge e' e with he | he
    · exact (hfar m' e' hfits he).le
    · rw [size_shift he, abs_size_sub, abs_size_sub]
      exact mul_le_mul_of_nonneg_right (h.near _) hunit.le
  · intro m' e' hfits hne htie
    rcases lt_or_ge e' e with he | he
    · exact absurd htie (hfar m' e' hfits he).ne'
    · rw [size_shift he] at hne htie
      rw [abs_size_sub, abs_size_sub] at htie
      have hk : m' * 2 ^ (e' - e).toNat ≠ m := fun heq => hne (by rw [heq])
      exact h.even (le_antisymm h.half ((h.half_le hk).trans (mul_right_cancel₀ hunit.ne' htie).le))

theorem Closest.carried (h : Closest q m e) (hsize : size m' e' = size m e) (heven : Even m → Even m') :
    Closest q m' e' where
  near := hsize ▸ h.near
  even k f hfits hne htie := heven (h.even k f hfits (hsize ▸ hne) (hsize ▸ htie))

/-! ## Fractions -/

theorem size_bound (e : Int) : size mantissaBound e = 2 ^ (53 + e) := by
  rw [zpow_add₀ two_ne_zero]
  rfl

/-- The size of a fraction, within a factor of two. -/
theorem ratio_bounds (hnum : num ≠ 0) (hden : 0 < den) :
    (2 : ℚ) ^ ((num.log2 : Int) - den.log2 - 1) ≤ num / den ∧
      (num / den : ℚ) < 2 ^ ((num.log2 : Int) - den.log2 + 1) := by
  have hdq : (0 : ℚ) < den := Nat.cast_pos.2 hden
  have hnum_ge : (2 : ℚ) ^ (num.log2 : Int) ≤ num := by exact_mod_cast Nat.log2_self_le hnum
  have hnum_lt : (num : ℚ) < 2 ^ ((num.log2 : Int) + 1) := by exact_mod_cast @Nat.lt_log2_self num
  have hden_ge : (2 : ℚ) ^ (den.log2 : Int) ≤ den := by exact_mod_cast Nat.log2_self_le hden.ne'
  have hden_lt : (den : ℚ) < 2 ^ ((den.log2 : Int) + 1) := by exact_mod_cast @Nat.lt_log2_self den
  constructor
  · rw [le_div_iff₀ hdq]
    calc (2 : ℚ) ^ ((num.log2 : Int) - den.log2 - 1) * den
        ≤ 2 ^ ((num.log2 : Int) - den.log2 - 1) * 2 ^ ((den.log2 : Int) + 1) :=
          mul_le_mul_of_nonneg_left hden_lt.le (zpow_pos two_pos _).le
      _ = 2 ^ (num.log2 : Int) := by
          rw [← zpow_add₀ two_ne_zero]
          congr 1
          omega
      _ ≤ num := hnum_ge
  · rw [div_lt_iff₀ hdq]
    calc (num : ℚ) < 2 ^ ((num.log2 : Int) + 1) := hnum_lt
      _ = 2 ^ ((num.log2 : Int) - den.log2 + 1) * 2 ^ (den.log2 : Int) := by
          rw [← zpow_add₀ two_ne_zero]
          congr 1
          omega
      _ ≤ 2 ^ ((num.log2 : Int) - den.log2 + 1) * den :=
          mul_le_mul_of_nonneg_left hden_ge (zpow_pos two_pos _).le

theorem scaled_pos (hden : 0 < den) (e : Int) : 0 < (scaled num den e).2 := by
  unfold scaled
  split
  · exact hden
  · exact Nat.mul_pos hden (Nat.pow_pos two_pos)

/-- A fraction in units of an exponent. -/
theorem scaled_eq (num den : Nat) (e : Int) :
    ((scaled num den e).1 : ℚ) / (scaled num den e).2 = num / den / 2 ^ e := by
  unfold scaled
  split
  · rename_i he
    have hpow : ((Nat.pow 2 e.natAbs : Nat) : ℚ) = (2 ^ e)⁻¹ := by
      rw [← zpow_neg, show -e = (e.natAbs : Int) by omega, zpow_natCast]
      exact Nat.cast_pow 2 _
    rw [Nat.cast_mul, hpow, div_eq_mul_inv, div_eq_mul_inv, div_eq_mul_inv, mul_right_comm]
  · rename_i he
    have hpow : ((Nat.pow 2 e.natAbs : Nat) : ℚ) = 2 ^ e := by
      rw [show (2 : ℚ) ^ e = 2 ^ (e.natAbs : Int) by congr 1; omega, zpow_natCast]
      exact Nat.cast_pow 2 _
    rw [Nat.cast_mul, hpow, div_div]

/-- A fraction takes the bits of the mantissa in units of an exponent. -/
theorem scaled_lt_iff (hden : 0 < den) (e : Int) :
    (scaled num den e).1 / (scaled num den e).2 < mantissaBound ↔ (num / den : ℚ) < size mantissaBound e := by
  have hpos : 0 < (scaled num den e).2 := scaled_pos hden e
  rw [size, ← div_lt_iff₀ (zpow_pos two_pos e), ← scaled_eq, div_lt_iff₀ (Nat.cast_pos.2 hpos),
    Nat.div_lt_iff_lt_mul hpos]
  exact_mod_cast Iff.rfl

/-- **The exponent of a fraction**: in its units the fraction takes all bits of the mantissa, unless it is the
smallest exponent. -/
theorem exponentFor_spec (hnum : num ≠ 0) (hden : 0 < den) :
    minExponent ≤ exponentFor num den ∧ (num / den : ℚ) < size mantissaBound (exponentFor num den) ∧
      (exponentFor num den = minExponent ∨ size mantissaBound (exponentFor num den - 1) ≤ num / den) := by
  obtain ⟨hge, hlt⟩ := ratio_bounds hnum hden
  simp only [exponentFor, scaled_lt_iff hden]
  split
  · rename_i hsmall
    refine ⟨le_max_left _ _, hsmall, ?_⟩
    rcases le_total ((num.log2 : Int) - den.log2 - 53) minExponent with hmin | hmin
    · exact .inl (max_eq_left hmin)
    · refine .inr ?_
      rw [max_eq_right hmin, size_bound]
      refine le_trans (le_of_eq ?_) hge
      congr 1
      omega
  · rename_i hlarge
    refine ⟨(le_max_left _ _).trans (Int.le_add_one le_rfl), hlt.trans_le ?_, .inr ?_⟩
    · rw [size_bound]
      exact zpow_le_zpow_right₀ one_le_two (by omega)
    · rw [add_sub_cancel_right]
      exact not_lt.1 hlarge

/-- A double at the largest exponent lies below the overflow by its half. -/
theorem overflow_le (he : maxExponent < e) (hq : size mantissaBound (e - 1) ≤ q) : overflow ≤ q := by
  have hunit : (0 : ℚ) < 2 ^ maxExponent := zpow_pos two_pos _
  calc overflow ≤ size mantissaBound maxExponent := mul_le_mul_of_nonneg_right (by linarith) hunit.le
    _ ≤ size mantissaBound (e - 1) :=
        mul_le_mul_of_nonneg_left (zpow_le_zpow_right₀ one_le_two (by omega)) (Nat.cast_nonneg _)
    _ ≤ q := hq

/-- What is less than twice the mantissas at a smaller exponent does not overflow. -/
theorem lt_overflow (he : e < maxExponent) (hq : q < size mantissaBound e) : q < overflow := by
  have hunit : (0 : ℚ) < 2 ^ (maxExponent - 1) := zpow_pos two_pos _
  have hbound : (2 : ℚ) ≤ mantissaBound := by exact_mod_cast (by decide : 2 ≤ mantissaBound)
  calc q < size mantissaBound e := hq
    _ ≤ mantissaBound * 2 ^ (maxExponent - 1) :=
        mul_le_mul_of_nonneg_left (zpow_le_zpow_right₀ one_le_two (by omega)) (Nat.cast_nonneg _)
    _ ≤ (2 * mantissaBound - 1) * 2 ^ (maxExponent - 1) := mul_le_mul_of_nonneg_right (by linarith) hunit.le
    _ = overflow := by
        rw [overflow, ← sub_add_cancel maxExponent 1, zpow_add_one₀ two_ne_zero, add_sub_cancel_right]
        ring

/-- At the largest exponent, a number overflows exactly if it is rounded past the mantissas. -/
theorem overflow_le_iff (h : Rounds (q / 2 ^ maxExponent) m) (hm : m ≤ mantissaBound) :
    overflow ≤ q ↔ m = mantissaBound := by
  have hunit : (0 : ℚ) < 2 ^ maxExponent := zpow_pos two_pos _
  have hhalf := abs_le.1 h.half
  rw [overflow, ← le_div_iff₀ hunit]
  constructor
  · intro hq
    by_contra hne
    have hlt : m + 1 ≤ mantissaBound := Nat.lt_of_le_of_ne hm hne
    have hcast : (m : ℚ) + 1 ≤ mantissaBound := by exact_mod_cast hlt
    -- The number is half way between the last mantissa, which is odd, and the one behind it.
    have htie : |(m : ℚ) - q / 2 ^ maxExponent| = 1 / 2 := by
      rw [abs_of_nonpos (by linarith)]
      linarith [hhalf.1]
    have hlast : (m : ℚ) + 1 = mantissaBound := by linarith [hhalf.1]
    have heven := h.even htie
    have hodd : m + 1 = mantissaBound := by exact_mod_cast hlast
    have htwo : mantissaBound % 2 = 0 := by decide
    have := Nat.even_iff.1 heven
    omega
  · rintro rfl
    linarith [hhalf.2]

/-- **Which numbers overflow**: those beyond the largest exponent, and at the largest exponent those that are rounded
past the mantissas. -/
theorem overflow_iff (h : Rounds (q / 2 ^ e) m) (hm : m ≤ mantissaBound) (hlt : q < size mantissaBound e)
    (hfull : e = minExponent ∨ size mantissaBound (e - 1) ≤ q) :
    overflow ≤ q ↔ maxExponent < e ∨ e = maxExponent ∧ m = mantissaBound := by
  have hrange : minExponent < maxExponent := by decide
  rcases lt_trichotomy e maxExponent with he | rfl | he
  · exact iff_of_false (not_le.2 (lt_overflow he hlt)) (by omega)
  · rw [overflow_le_iff h hm]
    simp
  · exact iff_of_true (overflow_le he (hfull.resolve_left (by omega))) (.inl he)

/-- A zero is nearest to what is half the smallest double or less. -/
theorem nearest_zero (hq : 0 ≤ q) (hsmall : q ≤ 2 ^ (minExponent - 1)) :
    Nearest negative q (.finite negative 0 minExponent) := by
  have hunit : (2 : ℚ) ^ minExponent = 2 ^ (minExponent - 1) * 2 := by
    rw [← zpow_add_one₀ two_ne_zero, sub_add_cancel]
  have hhalf : q / 2 ^ minExponent ≤ 1 / 2 := by
    rw [div_le_iff₀ (zpow_pos two_pos _), hunit]
    linarith
  have hround : Rounds (q / 2 ^ minExponent) 0 := by
    refine ⟨?_, fun _ => ⟨0, rfl⟩⟩
    rw [Nat.cast_zero, zero_sub, abs_neg, abs_of_nonneg (div_nonneg hq (zpow_pos two_pos _).le)]
    exact hhalf
  have hlt : q < size mantissaBound minExponent := by
    rw [size_bound]
    exact hsmall.trans_lt (zpow_lt_zpow_right₀ one_lt_two (by decide))
  exact .finite (lt_overflow (by decide) hlt) ⟨by decide, .inl rfl, le_rfl, by decide⟩
    (closest_of_rounds hround (.inl rfl))

/-- **A fraction** is taken as the nearest double. -/
theorem nearest_ofRatio (hden : 0 < den) : Nearest negative (num / den) (ofRatio negative num den) := by
  by_cases hnum : num = 0
  · rw [ofRatio, if_pos hnum, hnum, Nat.cast_zero, zero_div]
    exact nearest_zero le_rfl (zpow_pos two_pos _).le
  obtain ⟨hmin, hlt, hfull⟩ := exponentFor_spec hnum hden
  rw [ofRatio, if_neg hnum]
  generalize exponentFor num den = e at hmin hlt hfull ⊢
  have hround : Rounds ((num / den : ℚ) / 2 ^ e) (roundDiv (scaled num den e).1 (scaled num den e).2) := by
    rw [← scaled_eq]
    exact rounds_roundDiv (scaled_pos hden e)
  generalize (num / den : ℚ) = q at hlt hfull hround ⊢
  simp only []
  generalize roundDiv (scaled num den e).1 (scaled num den e).2 = m at hround ⊢
  have hunit : (0 : ℚ) < 2 ^ e := zpow_pos two_pos e
  have hclosest := closest_of_rounds hround hfull
  have hle : m ≤ mantissaBound := hround.le_of_lt ((div_lt_iff₀ hunit).2 hlt)
  have hbits : e = minExponent ∨ mantissaBound ≤ 2 * m := by
    refine hfull.imp_right fun hq => ?_
    rw [size_bound_pred] at hq
    have hhalf : mantissaBound / 2 ≤ m := hround.ge_of_le ((le_div_iff₀ hunit).2 hq)
    exact Nat.mul_le_mul_left 2 hhalf
  have hover := overflow_iff hround hle hlt hfull
  -- What is rounded past the mantissas is half of that at the next exponent.
  by_cases hcarry : m = mantissaBound
  · have hsize : size (mantissaBound / 2) (e + 1) = size m e := by rw [← size_bound_pred, add_sub_cancel_right, hcarry]
    rw [if_pos hcarry, hcarry]
    simp only []
    split
    · exact .infinite (hover.2 (by omega))
    · rename_i hin
      exact .finite (not_le.1 fun h => by have := hover.1 h; omega) ⟨by decide, .inr (by decide), by omega, by omega⟩
        (hclosest.carried hsize fun _ => Nat.even_iff.2 (by decide))
  · rw [if_neg hcarry]
    simp only []
    split
    · exact .infinite (hover.2 (by omega))
    · rename_i hin
      exact .finite (not_le.1 fun h => by have := hover.1 h; omega)
        ⟨Nat.lt_of_le_of_ne hle hcarry, hbits, hmin, by omega⟩ hclosest

/-! ## Decimals -/

/-- The size of a decimal by the place of its leading digit. -/
theorem decimal_bounds (hc : c ≠ 0) (exponent : Int) :
    (10 : ℚ) ^ (exponent + (Nat.toDigits 10 c).length - 1) ≤ c * 10 ^ exponent ∧
      (c * 10 ^ exponent : ℚ) < 10 ^ (exponent + (Nat.toDigits 10 c).length) := by
  have hunit : (0 : ℚ) < 10 ^ exponent := zpow_pos (by decide) _
  have hlength : 0 < (Nat.toDigits 10 c).length := Nat.length_toDigits_pos
  have hlt : c < 10 ^ (Nat.toDigits 10 c).length := (Nat.length_toDigits_le_iff (by decide) hlength).1 le_rfl
  have hge : 10 ^ ((Nat.toDigits 10 c).length - 1) ≤ c := by
    by_contra h
    rcases Nat.eq_zero_or_pos ((Nat.toDigits 10 c).length - 1) with hzero | hpos
    · rw [hzero] at h
      omega
    · have := (Nat.length_toDigits_le_iff (by decide) hpos).2 (Nat.lt_of_not_le h)
      omega
  have hplace : exponent + (Nat.toDigits 10 c).length - 1 =
      (((Nat.toDigits 10 c).length - 1 : Nat) : Int) + exponent := by
    omega
  constructor
  · rw [hplace, zpow_add₀ (by decide), zpow_natCast]
    exact mul_le_mul_of_nonneg_right (by exact_mod_cast hge) hunit.le
  · rw [add_comm, zpow_add₀ (by decide), zpow_natCast]
    exact mul_lt_mul_of_pos_right (by exact_mod_cast hlt) hunit

theorem pow_ten_le_half : (10 : ℚ) ^ (-401 : Int) ≤ 2 ^ (minExponent - 1) := by
  rw [show minExponent - 1 = -(1075 : Nat) from rfl, show (-401 : Int) = -(401 : Nat) from rfl, zpow_neg, zpow_neg]
  exact inv_anti₀ (zpow_pos two_pos _) (by exact_mod_cast (by decide +kernel : 2 ^ 1075 ≤ 10 ^ 401))

theorem overflow_le_pow_ten : overflow ≤ 10 ^ (400 : Int) := by
  refine overflow_le (e := maxExponent + 1) (Int.lt_succ _) ?_
  rw [add_sub_cancel_right, size_bound, show 53 + maxExponent = (1024 : Nat) from rfl,
    show (400 : Int) = (400 : Nat) from rfl]
  exact_mod_cast (by decide +kernel : 2 ^ 1024 ≤ 10 ^ 400)

/-- **A decimal** is taken as the nearest double. -/
theorem nearest_ofDecimal (negative : Bool) (c : Nat) (exponent : Int) :
    Nearest negative (c * 10 ^ exponent) (ofDecimal negative c exponent) := by
  simp only [ofDecimal]
  split
  · rename_i hsmall
    refine nearest_zero (mul_nonneg (Nat.cast_nonneg c) (zpow_pos (by decide) _).le) ?_
    rcases eq_or_ne c 0 with rfl | hc
    · rw [Nat.cast_zero, zero_mul]
      exact (zpow_pos two_pos _).le
    · have horder := hsmall.resolve_left hc
      calc (c * 10 ^ exponent : ℚ) ≤ 10 ^ (exponent + (Nat.toDigits 10 c).length) := (decimal_bounds hc _).2.le
        _ ≤ 10 ^ (-401 : Int) := zpow_le_zpow_right₀ (by decide) (by omega)
        _ ≤ 2 ^ (minExponent - 1) := pow_ten_le_half
  · rename_i hlarge
    obtain ⟨hc, -⟩ := not_or.1 hlarge
    split
    · rename_i hbeyond
      refine .infinite ?_
      calc overflow ≤ 10 ^ (400 : Int) := overflow_le_pow_ten
        _ ≤ 10 ^ (exponent + (Nat.toDigits 10 c).length - 1) := zpow_le_zpow_right₀ (by decide) (by omega)
        _ ≤ c * 10 ^ exponent := (decimal_bounds hc _).1
    · split
      · rename_i hneg
        have habs : exponent = -(exponent.natAbs : Int) := by omega
        have hvalue : (c * 10 ^ exponent : ℚ) = c / (Nat.pow 10 exponent.natAbs : Nat) := by
          rw [div_eq_mul_inv, Nat.pow_eq, Nat.cast_pow, ← zpow_natCast, ← zpow_neg, ← habs]
          rfl
        rw [hvalue]
        exact nearest_ofRatio (Nat.pow_pos (by decide))
      · rename_i hpos
        have habs : (exponent.natAbs : Int) = exponent := by omega
        have hvalue : (c * 10 ^ exponent : ℚ) = (c * Nat.pow 10 exponent.natAbs : Nat) / (1 : Nat) := by
          rw [Nat.cast_one, div_one, Nat.cast_mul, Nat.pow_eq, Nat.cast_pow, ← zpow_natCast, habs]
          rfl
        rw [hvalue]
        exact nearest_ofRatio Nat.one_pos

/-! ## Uniqueness -/

theorem Fits.unique (h : Fits m e) (h' : Fits m' e') (heq : size m e = size m' e') : m = m' ∧ e = e' := by
  rcases lt_trichotomy e e' with he | rfl | he
  · exact absurd heq (h.size_lt.trans_le (h'.bound_le he h.ge)).ne
  · exact ⟨by exact_mod_cast mul_right_cancel₀ (zpow_pos two_pos e).ne' heq, rfl⟩
  · exact absurd heq (h'.size_lt.trans_le (h.bound_le he h'.ge)).ne'

/-- Between two sizes with even mantissas there is another. -/
theorem Fits.exists_between (h : Fits m e) (h' : Fits m' e') (heven : Even m) (heven' : Even m')
    (hlt : size m e < size m' e') : ∃ k f, Fits k f ∧ size m e < size k f ∧ size k f < size m' e' := by
  have hunit : (0 : ℚ) < 2 ^ e := zpow_pos two_pos e
  have hnext : m + 1 < mantissaBound := by
    have htwo : mantissaBound % 2 = 0 := by decide
    have := Nat.even_iff.1 heven
    have := h.lt
    omega
  have hfits : Fits (m + 1) e := ⟨hnext, h.full.imp_right fun hfull => by omega, h.ge, h.le⟩
  refine ⟨m + 1, e, hfits, mul_lt_mul_of_pos_right (by exact_mod_cast Nat.lt_succ_self m) hunit, ?_⟩
  rcases lt_trichotomy e e' with he | rfl | he
  · exact hfits.size_lt.trans_le (h'.bound_le he h.ge)
  · have hm : m < m' := by exact_mod_cast lt_of_mul_lt_mul_right hlt hunit.le
    have hm' : m + 1 < m' := by
      have := Nat.even_iff.1 heven
      have := Nat.even_iff.1 heven'
      omega
    exact mul_lt_mul_of_pos_right (by exact_mod_cast hm') hunit
  · exact absurd hlt (h'.size_lt.trans_le (h.bound_le he h'.ge)).le.not_gt

/-- What lies between two numbers is nearer to what is half way between them. -/
theorem abs_sub_lt_of_between {u v w : ℚ} (hlow : u < w) (hhigh : w < v) (htie : |u - q| = |v - q|) :
    |w - q| < |u - q| := by
  have hmid : u - q = -(v - q) := (abs_eq_abs.1 htie).resolve_left (by linarith)
  rw [abs_of_neg (by linarith : u - q < 0), abs_lt]
  constructor <;> linarith

/-- Two closest sizes are the same. -/
theorem Closest.size_eq (h : Closest q m e) (hfits : Fits m e) (h' : Closest q m' e') (hfits' : Fits m' e') :
    size m e = size m' e' := by
  by_contra hne
  have htie : |size m e - q| = |size m' e' - q| := le_antisymm (h.near _ _ hfits') (h'.near _ _ hfits)
  have heven : Even m := h.even _ _ hfits' (Ne.symm hne) htie.symm
  have heven' : Even m' := h'.even _ _ hfits hne htie
  -- The number is half way between the two, so a size between them is nearer.
  have hnone : ∀ k f, Fits k f → ¬|size k f - q| < |size m e - q| := fun k f hk => not_lt.2 (h.near k f hk)
  rcases lt_or_gt_of_ne hne with hlt | hlt
  · obtain ⟨k, f, hk, hlow, hhigh⟩ := hfits.exists_between hfits' heven heven' hlt
    exact hnone k f hk (abs_sub_lt_of_between hlow hhigh htie)
  · obtain ⟨k, f, hk, hlow, hhigh⟩ := hfits'.exists_between hfits heven' heven hlt
    exact hnone k f hk (htie ▸ abs_sub_lt_of_between hlow hhigh htie.symm)

/-- **One double** is nearest. -/
theorem Nearest.unique (h : Nearest negative q y) (h' : Nearest negative q z) : y = z := by
  cases h with
  | finite hq hfits hclosest =>
    cases h' with
    | finite hq' hfits' hclosest' =>
      obtain ⟨rfl, rfl⟩ := hfits.unique hfits' (hclosest.size_eq hfits hclosest' hfits')
      rfl
    | infinite hq' => exact absurd hq (not_lt.2 hq')
  | infinite hq =>
    cases h' with
    | finite hq' => exact absurd hq' (not_lt.2 hq)
    | infinite => rfl

end QueryCanvas.Numeral.Binary64
