import Mathlib.Algebra.Order.Field.Rat
import QueryCanvas.Proofs.Sql.Numeral
import QueryCanvas.Proofs.Text.Digit

/-!
# What numerals denote

The number that a numeral of a statement denotes: its digits as a whole number, moved by the places behind
the point and by the exponent. Every finite number is written as a numeral, in one of several notations;
whole numbers and exact decimals are written as numerals that denote them.

* `numeralValue`: the number of a numeral, by the parts that the lexical rules find in it.
* `Magnitude`: the same for a numeral without a sign, part by part.
* `magnitude_digitsText`, `magnitude_layOut`: each notation of a decimal or a double denotes its digits at
  their exponent.
* `isNumeral_int`, `isNumeral_decimal`, `isNumeral_float`: finite numbers are written as numerals.
* `numeralValue_int`, `numeralValue_decimal`: what is written denotes what it was written for.
-/

namespace QueryCanvas.Sql

open Numeral Text

/-- The factor that a sign stands for. -/
def signFactor (sign : List Char) : ℚ :=
  if sign = ['-'] then -1 else 1

/-- The power of ten that an exponent stands for. -/
def exponentValue : List Char → Int
  | [] => 0
  | _ :: rest => signed ((readSign rest).1 == ['-']) (digitsValue (readSign rest).2)

/-- The number of digits with a point among them, a power of ten away. -/
def scaledValue (whole fraction exponent : List Char) : ℚ :=
  digitsValue (whole ++ fraction.drop 1) * 10 ^ (exponentValue exponent - (fraction.length - 1 : Nat))

/-- **The number that a numeral denotes.** -/
def numeralValue (cs : List Char) : ℚ :=
  let (sign, rest) := readSign cs
  let (whole, rest) := readDigits rest
  let (fraction, rest) := readFraction rest
  signFactor sign * scaledValue whole fraction (readExponent rest).1

/-- The numeral `-1.50E+3` denotes a negative whole number. -/
example : numeralValue "-1.50E+3".toList = -1500 := by
  decide +kernel

/-- An unsigned numeral and the number that it denotes. -/
inductive Magnitude : List Char → ℚ → Prop
  | mk {whole fraction exponent : List Char} (hwhole : IsDigits whole) (hfraction : IsFraction fraction)
      (hexponent : IsExponent exponent) :
      Magnitude (whole ++ (fraction ++ exponent)) (scaledValue whole fraction exponent)

variable {cs ds : List Char} {q : ℚ}

theorem Magnitude.of_eq {r : ℚ} (h : Magnitude cs q) (hq : q = r) : Magnitude cs r :=
  hq ▸ h

/-- Digits at an exponent, and the exponent in another form. -/
theorem Magnitude.of_exponent {n : Nat} {e e' : Int} (h : Magnitude cs (n * 10 ^ e)) (he : e = e') :
    Magnitude cs (n * 10 ^ e') :=
  he ▸ h

theorem Magnitude.isUnsigned (h : Magnitude cs q) : IsUnsigned cs := by
  obtain ⟨hwhole, hfraction, hexponent⟩ := h
  exact .mk hwhole hfraction hexponent

/-- A numeral denotes what its digits do, with its sign. -/
theorem Magnitude.numeralValue_eq {sign : List Char} (h : Magnitude cs q) (hsign : sign = [] ∨ sign = ['-']) :
    numeralValue (sign ++ cs) = signFactor sign * q := by
  obtain ⟨hwhole, hfraction, hexponent⟩ := h
  rename_i whole fraction exponent
  have hend : ∀ c, ([] : List Char).head? = some c → isNumeralStop c = true := nofun
  have hf := head_fraction hfraction hexponent hend
  have he := head_exponent hexponent hend
  have hparts : readExponent (exponent ++ []) = (exponent, []) := readExponent_append hexponent nofun
  simp only [List.append_nil] at hf he hparts
  rw [numeralValue, readSign_append hsign hwhole]
  simp only []
  rw [readDigits_append hwhole hf]
  simp only []
  rw [readFraction_append hfraction he]
  simp only []
  rw [hparts]

/-! ## Notations -/

theorem magnitude_digits (h : IsDigits ds) : Magnitude ds (digitsValue ds) := by
  have hparts := Magnitude.mk h .none .none
  rw [List.append_nil, List.append_nil] at hparts
  refine hparts.of_eq ?_
  rw [scaledValue, List.drop_nil, List.append_nil]
  simp [exponentValue]

/-- The digits behind a point are as many powers of ten away. -/
theorem magnitude_point {ds' : List Char} (h : IsDigits ds) (h' : IsDigits ds') :
    Magnitude (ds ++ '.' :: ds') (digitsValue (ds ++ ds') * 10 ^ (-ds'.length : Int)) := by
  have hparts := Magnitude.mk h (.point h') .none
  rw [List.append_nil] at hparts
  refine hparts.of_eq ?_
  rw [scaledValue, List.drop_one, List.tail_cons, exponentValue, List.length_cons, Nat.add_sub_cancel, Int.zero_sub]

/-- The point behind the first digit and the exponent make up for each other. -/
theorem magnitude_scientific {e : Char} {es : List Char} {shift : Int} (h : IsDigits ds) (he : e = 'e' ∨ e = 'E')
    (hes : IsDigits es) (hshift : digitsValue es = shift.natAbs) :
    Magnitude (ds.take 1 ++ (if (ds.drop 1).isEmpty then [] else '.' :: ds.drop 1)
        ++ e :: (if shift < 0 then '-' else '+') :: es)
      (digitsValue ds * 10 ^ (shift - (ds.length - 1 : Nat))) := by
  have hexponent : IsExponent (e :: (if shift < 0 then '-' else '+') :: es) := .marked he (by split <;> simp) hes
  have hvalue : exponentValue (e :: (if shift < 0 then '-' else '+') :: es) = shift := by
    split
    · show -(digitsValue es : Int) = shift
      omega
    · show (digitsValue es : Int) = shift
      omega
  rw [List.append_assoc]
  cases hdrop : ds.drop 1 with
  | nil =>
    refine (Magnitude.mk (h.take Nat.one_pos) .none hexponent).of_eq ?_
    have hlength : ds.length - 1 = 0 := by rw [← List.length_drop, hdrop, List.length_nil]
    rw [scaledValue, hvalue, List.length_nil, List.drop_nil, ← hdrop, List.take_append_drop, hlength]
  | cons x xs =>
    have hlength : 1 < ds.length := by
      have := congrArg List.length hdrop
      rw [List.length_drop, List.length_cons] at this
      omega
    have hfraction : IsDigits (x :: xs) := hdrop ▸ h.drop hlength
    refine (Magnitude.mk (h.take Nat.one_pos) (.point hfraction) hexponent).of_eq ?_
    rw [scaledValue, hvalue, List.drop_one, List.tail_cons, List.length_cons, ← hdrop, List.take_append_drop,
      List.length_drop, Nat.add_sub_cancel]

section Digits

variable (c : Nat)

theorem length_toDigits_pos : 0 < (Nat.toDigits 10 c).length :=
  List.length_pos_of_ne_nil (isDigits_toDigits c).1

theorem magnitude_toDigits : Magnitude (Nat.toDigits 10 c) c :=
  (magnitude_digits (isDigits_toDigits c)).of_eq (by rw [digitsValue_toDigits])

/-- The digits of a number behind a point and zeros. -/
theorem magnitude_fraction (n : Nat) :
    Magnitude ('0' :: '.' :: (List.replicate n '0' ++ Nat.toDigits 10 c))
      (c * 10 ^ (-((n + (Nat.toDigits 10 c).length : Nat) : Int))) := by
  refine (magnitude_point isDigits_zero ((isDigits_toDigits c).zeros_append n)).of_eq ?_
  rw [digitsValue_append ['0'], digitsValue_zeros_append, digitsValue_toDigits, List.length_append,
    List.length_replicate, show digitsValue ['0'] = 0 from rfl, Nat.zero_mul, Nat.zero_add]

/-- The digits of a number with a point among them. -/
theorem magnitude_split {n : Nat} (hpos : 0 < n) (hn : n < (Nat.toDigits 10 c).length) :
    Magnitude ((Nat.toDigits 10 c).take n ++ '.' :: (Nat.toDigits 10 c).drop n)
      (c * 10 ^ (-(((Nat.toDigits 10 c).length - n : Nat) : Int))) := by
  refine (magnitude_point ((isDigits_toDigits c).take hpos) ((isDigits_toDigits c).drop hn)).of_eq ?_
  rw [List.take_append_drop, digitsValue_toDigits, List.length_drop]

/-- The digits of a number, zeros, and a fraction of zero. -/
theorem magnitude_whole (n : Nat) :
    Magnitude (Nat.toDigits 10 c ++ List.replicate n '0' ++ ['.', '0']) (c * 10 ^ (n : Int)) := by
  have hzeros : ∀ x ∈ List.replicate n '0', x.isDigit = true := fun x hx => by
    rw [List.eq_of_mem_replicate hx]
    rfl
  refine (magnitude_point ((isDigits_toDigits c).append hzeros) isDigits_zero).of_eq ?_
  have hlast : ['0'] = List.replicate 1 '0' := rfl
  rw [hlast, digitsValue_append_zeros, digitsValue_append_zeros, digitsValue_toDigits, List.length_replicate]
  simp only [Nat.cast_mul, Nat.cast_pow, Nat.cast_ofNat, Nat.cast_one, pow_one, zpow_neg, zpow_one, zpow_natCast]
  exact mul_inv_cancel_right₀ (by decide) _

/-- **The written digits of a decimal** denote its digits at its exponent. -/
theorem magnitude_digitsText (e : Int) : Magnitude (Decimal.digitsText c e) (c * 10 ^ e) := by
  have hpos := length_toDigits_pos c
  simp only [Decimal.digitsText]
  split
  · split
    · exact (magnitude_fraction c _).of_exponent (by omega)
    · split
      · have he : e = 0 := by omega
        exact (magnitude_toDigits c).of_eq (by rw [he, zpow_zero, mul_one])
      · exact (magnitude_split c (by omega) (by omega)).of_exponent (by omega)
  · refine (magnitude_scientific (isDigits_toDigits c) (.inr rfl) (isDigits_toDigits _)
      (digitsValue_toDigits _)).of_eq ?_
    rw [digitsValue_toDigits]
    congr 2
    omega

/-- **The written digits of a double** denote its shortest digits at their exponent. -/
theorem magnitude_layOut (l : Binary64.Layout) (e : Int) : Magnitude (Binary64.layOut l c e) (c * 10 ^ e) := by
  have hpos := length_toDigits_pos c
  have hpadded : ∀ width n, IsDigits (Binary64.padLeft width (Nat.toDigits 10 n)) ∧
      digitsValue (Binary64.padLeft width (Nat.toDigits 10 n)) = n := fun width n =>
    ⟨isDigits_padLeft (isDigits_toDigits n) _, by rw [Binary64.padLeft, digitsValue_zeros_append, digitsValue_toDigits]⟩
  simp only [Binary64.layOut]
  split
  · split
    · exact (magnitude_fraction c _).of_exponent (by omega)
    · split
      · exact (magnitude_whole c _).of_exponent (by omega)
      · exact (magnitude_split c (by omega) (by omega)).of_exponent (by omega)
  · refine (magnitude_scientific (isDigits_toDigits c) (.inl rfl) (hpadded _ _).1 (hpadded _ _).2).of_eq ?_
    rw [digitsValue_toDigits]
    congr 2
    omega

end Digits

/-! ## Written numbers -/

section Signed

variable (negative : Bool)

theorem isNumeral_signText (h : Magnitude cs q) : IsNumeral (Decimal.signText negative ++ cs) := by
  cases negative
  · exact h.isUnsigned.plain
  · exact h.isUnsigned.minus

theorem numeralValue_signText (h : Magnitude cs q) :
    numeralValue (Decimal.signText negative ++ cs) = signFactor (Decimal.signText negative) * q :=
  h.numeralValue_eq (by cases negative <;> simp [Decimal.signText])

theorem signFactor_mul (sign : List Char) (n : Nat) : signFactor sign * n = (signed (sign == ['-']) n : Int) := by
  by_cases hminus : sign = ['-'] <;> simp [signFactor, signed, hminus]

theorem signFactor_signText (n : Nat) :
    signFactor (Decimal.signText negative) * n = (signed negative n : Int) := by
  rw [signFactor_mul]
  cases negative <;> rfl

/-- **A finite decimal** is written as a numeral. -/
theorem isNumeral_decimal (c : Nat) (e : Int) : IsNumeral (Decimal.finite negative c e).text.toList := by
  rw [Decimal.text, String.toList_ofList]
  exact isNumeral_signText negative (magnitude_digitsText c e)

/-- **A finite decimal** is written as a numeral that denotes it. -/
theorem numeralValue_decimal (c : Nat) (e : Int) :
    numeralValue (Decimal.finite negative c e).text.toList = (signed negative c : Int) * 10 ^ e := by
  rw [Decimal.text, String.toList_ofList, numeralValue_signText negative (magnitude_digitsText c e), ← mul_assoc,
    signFactor_signText]

/-- **A finite double** is written as a numeral. -/
theorem isNumeral_float (m : Nat) (e : Int) : IsNumeral (Binary64.finite negative m e).text.toList := by
  have h : IsUnsigned (if m = 0 then ['0', '.', '0']
      else Binary64.layOut Binary64.layout (Binary64.shortest m e).1 (Binary64.shortest m e).2) := by
    split
    · exact (magnitude_point isDigits_zero isDigits_zero).isUnsigned
    · exact (magnitude_layOut _ _ _).isUnsigned
  simp only [Binary64.text, String.toList_ofList]
  cases negative
  · exact h.plain
  · exact h.minus

end Signed

theorem magnitude_nat (n : Nat) : Magnitude (toString n).toList n := by
  rw [Nat.toString_eq_repr, Nat.toList_repr]
  exact magnitude_toDigits n

/-- A whole number is written as its sign and its size. -/
theorem toList_toString_int (n : Int) :
    (toString n).toList = Decimal.signText (decide (n < 0)) ++ (toString n.natAbs).toList := by
  rw [Int.toString_eq_repr, Int.repr_eq_if]
  split
  · rename_i hpos
    rw [decide_eq_false (Int.not_lt.2 hpos), show n.natAbs = n.toNat by omega]
    rfl
  · rename_i hneg
    rw [decide_eq_true (Int.not_le.1 hneg), show n.natAbs = (-n).toNat by omega, String.toList_append]
    rfl

/-- **A whole number** is written as a numeral. -/
theorem isNumeral_int (n : Int) : IsNumeral (toString n).toList := by
  rw [toList_toString_int]
  exact isNumeral_signText _ (magnitude_nat n.natAbs)

/-- **A whole number** is written as a numeral that denotes it. -/
theorem numeralValue_int (n : Int) : numeralValue (toString n).toList = n := by
  have hsigned : signed (decide (n < 0)) n.natAbs = n := by
    by_cases hneg : n < 0
    · rw [decide_eq_true hneg, signed, if_pos rfl]
      omega
    · rw [decide_eq_false hneg, signed, if_neg Bool.false_ne_true]
      omega
  rw [toList_toString_int, numeralValue_signText _ (magnitude_nat n.natAbs), signFactor_signText, hsigned]

end QueryCanvas.Sql
