import Mathlib
import QueryCanvas.Proofs.Text.Trim
import QueryCanvas.Text.Letter

/-!
# Small letters

Which characters have a plain small form: the plain ones, and the Kelvin sign, whose small form is `k`
(`lowerChar_eq_iff`). So a text whose small form is plain has that form character by character
(`lowerFrom_eq_iff`), although a dotted capital I and a capital sigma have small forms of their own. Nothing but
a blank becomes blank (`isBlank_of_lowerChar`).
-/

namespace QueryCanvas.Text

variable {c d : Char} {r : CaseRun} {n : Nat} {before cs w : List Char}

/-! ## The runs of capitals -/

/-- No run leaves the code points that are characters. -/
theorem caseRuns_valid : ∀ r ∈ caseRuns, 0 < r.first + r.shift ∧
    (r.last + r.shift < 0xd800 ∨ 0xdfff < r.first + r.shift ∧ r.last + r.shift < 0x110000) := by
  decide +kernel

/-- No run but that of the Kelvin sign ends among the plain characters. -/
theorem caseRuns_plain : ∀ r ∈ caseRuns,
    128 ≤ r.first + r.shift ∨ r.first = 8490 ∧ r.last = 8490 := by
  decide +kernel

/-- No run ends among the blanks. -/
theorem caseRuns_blank : ∀ r ∈ caseRuns, ∀ b ∈ blankRanges,
    r.last + r.shift < b.1 ∨ b.2 < r.first + r.shift := by
  decide +kernel

/-- What a run makes of a character of it has the shifted code. -/
theorem toNat_shifted (hr : r ∈ caseRuns) (hlo : r.first ≤ n) (hhi : n ≤ r.last) :
    ((Char.ofNat (n + r.shift).toNat).toNat : Int) = n + r.shift := by
  obtain ⟨hpos, hvalid⟩ := caseRuns_valid r hr
  have hchar : (n + r.shift).toNat.isValidChar := by
    rw [Nat.isValidChar]
    omega
  rw [Char.toNat_ofNat, if_pos hchar]
  omega

theorem lowerChar_plain (hc : c.toNat < 128) : lowerChar c = c.toLower :=
  if_pos hc

/-- Beyond the plain characters a small form is a run's, or the character itself. -/
theorem lowerChar_cases (hc : 128 ≤ c.toNat) : lowerChar c = c ∨
    ∃ r ∈ caseRuns, r.first ≤ c.toNat ∧ c.toNat ≤ r.last ∧ ((lowerChar c).toNat : Int) = c.toNat + r.shift := by
  rw [lowerChar, if_neg (by omega)]
  split
  · next r hfind =>
    have hr := List.mem_of_find?_eq_some hfind
    have hin := List.find?_some hfind
    simp only [Bool.and_eq_true, decide_eq_true_eq] at hin
    exact .inr ⟨r, hr, hin.1.1, hin.1.2, toNat_shifted hr hin.1.1 hin.1.2⟩
  · exact .inl rfl

/-- **What has a plain small form**: the plain characters, and the Kelvin sign. -/
theorem lowerChar_eq_iff (hd : d.toNat < 128) :
    lowerChar c = d ↔ c.toNat < 128 ∧ c.toLower = d ∨ c = '\u212a' ∧ d = 'k' := by
  by_cases hc : c.toNat < 128
  · have hkelvin : c ≠ '\u212a' := by
      rintro rfl
      exact absurd hc (by decide)
    simp [lowerChar_plain hc, hc, hkelvin]
  · simp only [hc, false_and, false_or]
    constructor
    · rintro rfl
      rcases lowerChar_cases (not_lt.1 hc) with heq | ⟨r, hr, hlo, hhi, hcode⟩
      · exact absurd (heq ▸ hd) hc
      · rcases caseRuns_plain r hr with hhigh | ⟨hfirst, hlast⟩
        · omega
        · obtain rfl : c = '\u212a' := Char.toNat_inj.1 (by
            show c.toNat = 8490
            omega)
          exact ⟨rfl, by decide⟩
    · rintro ⟨rfl, rfl⟩
      decide

/-- **Nothing but a blank becomes blank.** -/
theorem isBlank_of_lowerChar (h : isBlank (lowerChar c) = true) : isBlank c = true := by
  by_cases hc : c.toNat < 128
  · rw [lowerChar_plain hc] at h
    by_cases hupper : c.isUpper
    · have hletter : c.toLower.isAlphanum := by
        rw [Char.isAlphanum, Char.isAlpha_toLower_eq_isAlpha, Char.isAlpha, hupper]
        rfl
      rw [not_isBlank_of_plain (.inl hletter)] at h
      cases h
    · rwa [Char.toLower_eq_of_not_isUpper hupper] at h
  · rcases lowerChar_cases (not_lt.1 hc) with heq | ⟨r, hr, hlo, hhi, hcode⟩
    · rwa [heq] at h
    · obtain ⟨b, hb, hblo, hbhi⟩ := inRanges_iff.1 h
      have := caseRuns_blank r hr b hb
      omega

/-! ## Plain letters -/

theorem isLower_iff : c.isLower = true ↔ 97 ≤ c.toNat ∧ c.toNat ≤ 122 := by
  simp [Char.isLower, UInt32.le_iff_toNat_le]

theorem isUpper_iff : c.isUpper = true ↔ 65 ≤ c.toNat ∧ c.toNat ≤ 90 := by
  simp [Char.isUpper, UInt32.le_iff_toNat_le]

/-- The capital of a small letter is a capital whose small form is that letter. -/
theorem isUpper_toUpper (hc : c.isLower = true) : c.toUpper.isUpper = true := by
  rw [Char.isUpper_toUpper_eq_isAlpha, Char.isAlpha, hc, Bool.or_true]

theorem lowerChar_isUpper (hc : c.isUpper = true) : lowerChar c = c.toLower := by
  have := isUpper_iff.1 hc
  exact lowerChar_plain (by omega)

theorem lowerChar_toUpper (hc : c.isLower = true) : lowerChar c.toUpper = c := by
  rw [lowerChar_isUpper (isUpper_toUpper hc), Char.toLower_toUpper_eq_toLower,
    Char.toLower_eq_of_not_isUpper (Char.not_isUpper_of_isLower hc)]

/-- Other plain characters are small forms of nothing but themselves. -/
theorem lowerChar_eq_sign_iff (hd : d.toNat < 128) (hletter : d.isAlpha = false) : lowerChar c = d ↔ c = d := by
  have hk : d ≠ 'k' := by
    rintro rfl
    exact absurd hletter (by decide)
  rw [lowerChar_eq_iff hd]
  simp only [hk, and_false, or_false]
  constructor
  · rintro ⟨-, rfl⟩
    rw [Char.isAlpha_toLower_eq_isAlpha, Char.isAlpha, Bool.or_eq_false_iff] at hletter
    exact (Char.toLower_eq_of_not_isUpper (by simp [hletter.1])).symm
  · rintro rfl
    rw [Char.isAlpha, Bool.or_eq_false_iff] at hletter
    exact ⟨hd, Char.toLower_eq_of_not_isUpper (by simp [hletter.1])⟩

/-! ## Texts -/

/-- The small forms that are not a run's: of a dotted capital I, and of a capital sigma. -/
def ownForms : List (List Char) :=
  [['i', Char.ofNat 775], ['ς'], ['σ']]

/-- Each character is replaced by its small form. -/
theorem lowerFrom_cons (before : List Char) (c : Char) (cs : List Char) :
    ∃ form, lowerFrom before (c :: cs) = form ++ lowerFrom (c :: before) cs ∧
      (form = [lowerChar c] ∨ form ∈ ownForms ∧ 128 ≤ (lowerChar c).toNat) := by
  rw [lowerFrom]
  split
  · next hdotted =>
    obtain rfl : c = 'İ' := Char.toNat_inj.1 hdotted
    exact ⟨['i', Char.ofNat 775], rfl, .inr ⟨by simp [ownForms], by decide +kernel⟩⟩
  · split
    · next hsigma =>
      subst hsigma
      refine ⟨_, List.singleton_append.symm, .inr ⟨?_, by decide +kernel⟩⟩
      split <;> simp [ownForms]
    · exact ⟨_, rfl, .inl rfl⟩

/-- **A plain small form** is one character by character. -/
theorem lowerFrom_eq_iff (hw : ∀ d ∈ w, d.toNat < 128) : lowerFrom before cs = w ↔ cs.map lowerChar = w := by
  induction cs generalizing before w with
  | nil => rfl
  | cons c cs ih =>
    obtain ⟨form, heq, rfl | ⟨hown, hchar⟩⟩ := lowerFrom_cons before c cs
    · cases w with
      | nil => simp [heq]
      | cons d w =>
        rw [heq, List.singleton_append, List.map_cons, List.cons.injEq, List.cons.injEq,
          ih fun e he => hw e (List.mem_cons_of_mem d he)]
    · have hwide : ∀ form ∈ ownForms, form.any (128 ≤ ·.toNat) = true := by decide
      refine iff_of_false ?_ ?_
      · rintro rfl
        obtain ⟨d, hd, hcode⟩ := List.any_eq_true.1 (hwide form hown)
        have := hw d (heq ▸ List.mem_append_left _ hd)
        exact absurd (of_decide_eq_true hcode) (by omega)
      · rintro rfl
        exact absurd (hw (lowerChar c) List.mem_cons_self) (by omega)

/-- What a small form holds is the small form of a character. -/
theorem mem_lowerFrom (h : d ∈ lowerFrom before cs) :
    (∃ c ∈ cs, d = lowerChar c) ∨ ∃ form ∈ ownForms, d ∈ form := by
  induction cs generalizing before with
  | nil => cases h
  | cons c cs ih =>
    obtain ⟨form, heq, hform⟩ := lowerFrom_cons before c cs
    rw [heq, List.mem_append] at h
    rcases h with h | h
    · rcases hform with rfl | ⟨hown, -⟩
      · exact .inl ⟨c, List.mem_cons_self, List.mem_singleton.1 h⟩
      · exact .inr ⟨form, hown, h⟩
    · rcases ih h with ⟨e, he, rfl⟩ | hown
      · exact .inl ⟨e, .tail c he, rfl⟩
      · exact .inr hown

/-- The small form of the end of a text ends its small form. -/
theorem exists_lowerFrom_append (before cs ds : List Char) :
    ∃ front, lowerFrom before (cs ++ ds) = front ++ lowerFrom (cs.reverse ++ before) ds := by
  induction cs generalizing before with
  | nil => exact ⟨[], rfl⟩
  | cons c cs ih =>
    obtain ⟨form, heq, -⟩ := lowerFrom_cons before c (cs ++ ds)
    obtain ⟨front, hfront⟩ := ih (c :: before)
    refine ⟨form ++ front, ?_⟩
    rw [List.cons_append, heq, hfront, List.append_assoc, List.reverse_cons, List.append_assoc]
    rfl

/-- The small form of what is not blank is not empty and holds no blank. -/
theorem not_isBlank_of_form {form : List Char} (hform : form = [lowerChar c] ∨ form ∈ ownForms)
    (hc : isBlank c = false) : form ≠ [] ∧ ∀ d ∈ form, isBlank d = false := by
  rcases hform with rfl | hown
  · refine ⟨List.cons_ne_nil _ _, fun d hd => Bool.eq_false_iff.2 fun hblank => ?_⟩
    rw [List.mem_singleton.1 hd] at hblank
    rw [isBlank_of_lowerChar hblank] at hc
    cases hc
  · have hforms : ∀ form ∈ ownForms, form ≠ [] ∧ (form.all fun d => !isBlank d) = true := by decide
    obtain ⟨hne, hall⟩ := hforms form hown
    exact ⟨hne, by simpa using hall⟩

/-- **The small form of a trimmed text** is trimmed. -/
theorem trimmed_lowerFrom (h : Trimmed cs) : Trimmed (lowerFrom before cs) where
  head d hd := by
    cases cs with
    | nil => cases hd
    | cons c cs =>
      obtain ⟨form, heq, hform⟩ := lowerFrom_cons before c cs
      obtain ⟨hne, hblank⟩ := not_isBlank_of_form (hform.imp_right And.left) (h.head c rfl)
      rw [heq, List.head?_append_of_ne_nil _ hne] at hd
      exact hblank d (List.mem_of_head? hd)
  last d hd := by
    obtain rfl | ⟨front, c, rfl⟩ := List.eq_nil_or_concat cs
    · cases hd
    · obtain ⟨front', hfront⟩ := exists_lowerFrom_append before front [c]
      obtain ⟨form, heq, hform⟩ := lowerFrom_cons (front.reverse ++ before) c []
      obtain ⟨hne, hblank⟩ := not_isBlank_of_form (hform.imp_right And.left) (h.last c (by simp))
      rw [List.concat_eq_append, hfront, heq, lowerFrom, List.append_nil,
        List.getLast?_append_of_ne_nil _ hne] at hd
      exact hblank d (List.mem_of_getLast? hd)

end QueryCanvas.Text
