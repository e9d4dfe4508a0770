import Mathlib.Data.List.TakeWhile
import QueryCanvas.Text.Blank
import QueryCanvas.Text.Digit
import QueryCanvas.Text.Word

/-!
# Plain characters

Plain letters and digits as ranges of code points, so that facts about them are facts about numbers; and
the trimming of texts that have no blanks.
-/

namespace QueryCanvas.Text

variable {c : Char}

theorem isDigit_iff : c.isDigit = true ↔ 48 ≤ c.toNat ∧ c.toNat ≤ 57 := by
  simp [Char.isDigit, UInt32.le_iff_toNat_le]

theorem isAlpha_iff :
    c.isAlpha = true ↔ 65 ≤ c.toNat ∧ c.toNat ≤ 90 ∨ 97 ≤ c.toNat ∧ c.toNat ≤ 122 := by
  have hranges : c.isAlpha =
      (decide (c.val ≥ 65 ∧ c.val ≤ 90) || (decide (c.val ≥ 97) && decide (c.val ≤ 122))) := rfl
  simp [hranges, UInt32.le_iff_toNat_le]

theorem isAlphanum_iff :
    c.isAlphanum = true ↔ (65 ≤ c.toNat ∧ c.toNat ≤ 90 ∨ 97 ≤ c.toNat ∧ c.toNat ≤ 122) ∨
      48 ≤ c.toNat ∧ c.toNat ≤ 57 := by
  rw [Char.isAlphanum, Bool.or_eq_true, isAlpha_iff, isDigit_iff]

/-- A digit of some script lies in one of the blocks of ten. -/
theorem isDigit_iff_block : isDigit c = true ↔ ∃ z ∈ digitZeros, z ≤ c.toNat ∧ c.toNat ≤ z + 9 := by
  rw [isDigit, digit?, Option.isSome_map, List.find?_isSome]
  simp only [Bool.and_eq_true, decide_eq_true_eq]

/-- The decimal digits of the first thousand characters are the plain ones. -/
theorem isDigit_low (h : c.toNat < 1632) : isDigit c = c.isDigit := by
  have hzeros : ∀ z ∈ digitZeros, z = 48 ∨ 1632 ≤ z := by decide
  rw [Bool.eq_iff_iff, isDigit_iff, isDigit_iff_block]
  constructor
  · rintro ⟨z, hz, hlo, hhi⟩
    rcases hzeros z hz with rfl | hz <;> omega
  · rintro ⟨hlo, hhi⟩
    exact ⟨48, by decide, hlo, hhi⟩

/-- No digit of any script is blank. -/
theorem not_isBlank_of_isDigit (h : isDigit c = true) : isBlank c = false := by
  have hapart : ∀ z ∈ digitZeros, ∀ r ∈ blankRanges, z + 9 < r.1 ∨ r.2 < z := by decide
  obtain ⟨z, hz, hlow, hhigh⟩ := isDigit_iff_block.1 h
  rw [Bool.eq_false_iff]
  intro hblank
  obtain ⟨r, hr, hr_low, hr_high⟩ := inRanges_iff.1 hblank
  have := hapart z hz r hr
  omega

/-- No digit of any script is a plain letter. -/
theorem not_isAlpha_of_isDigit (h : isDigit c = true) : c.isAlpha = false := by
  have hapart : ∀ z ∈ digitZeros, z = 48 ∨ 122 < z := by decide
  obtain ⟨z, hz, hlow, hhigh⟩ := isDigit_iff_block.1 h
  rw [Bool.eq_false_iff]
  intro halpha
  have := isAlpha_iff.1 halpha
  rcases hapart z hz with rfl | hz <;> omega

/-- No letter, digit or underscore is blank. -/
theorem not_isBlank_of_plain (h : c.isAlphanum ∨ c = '_') : isBlank c = false := by
  have hrange : 48 ≤ c.toNat ∧ c.toNat ≤ 122 := by
    rcases h with h | rfl
    · have := isAlphanum_iff.1 h
      omega
    · decide
  rw [Bool.eq_false_iff]
  intro hblank
  obtain ⟨r, hr, hlo, hhi⟩ := inRanges_iff.1 hblank
  simp only [blankRanges, List.mem_cons, List.not_mem_nil, or_false] at hr
  rcases hr with rfl | rfl | rfl | rfl | rfl | rfl | rfl | rfl | rfl | rfl <;> omega

/-- A text without blanks is trimmed to itself. -/
theorem trimChars_eq_self {cs : List Char} (h : ∀ c ∈ cs, isBlank c = false) : trimChars cs = cs := by
  have hdrop : ∀ ds : List Char, (∀ c ∈ ds, isBlank c = false) → ds.dropWhile isBlank = ds :=
    fun ds hds => List.dropWhile_eq_self_iff.2 fun hl => by simp [hds _ (List.getElem_mem hl)]
  rw [trimChars, trimWhere, hdrop cs h, hdrop cs.reverse fun c hc => h c (List.mem_reverse.1 hc),
    List.reverse_reverse]

end QueryCanvas.Text
