import QueryCanvas.Proofs.Sql.Compile
import QueryCanvas.Proofs.Sql.Magnitude

/-!
# Text compared by size

Text that a numeric column is compared with by size is the only text of a user that stands in a statement
without quotes. It does so exactly if it spells a number, and what stands there is a numeral of the very
number it spells, whatever script its digits are of and whatever notation the number is written in. Only the
whole numbers that are too long to be read have no condition at all.

* `Spells`: the number that a text spells.
* `numericForm_spelled`, `spells_of_numericForm`: the number taken from a text is the one it spells.
* `WrittenBySize`: how a text stands in a condition.
* `conditionOf_text_bySize`: the condition of a filter that compares with a text by size.
-/

namespace QueryCanvas.Sql

open Numeral Text Canvas

/-- **The number that a text spells**: digits of any script, possibly with a point in front of, among or
behind them, and possibly with a sign. -/
inductive Spells : List Char → ℚ → Prop
  | digits {sign ds : List Char} (hsign : sign ∈ [[], ['-'], ['+']]) (hne : ds ≠ [])
      (hds : ∀ c ∈ ds, Text.isDigit c = true) : Spells (sign ++ ds) (signFactor sign * digitsValue ds)
  | point {sign whole fraction : List Char} (hsign : sign ∈ [[], ['-'], ['+']]) (hne : whole ≠ [] ∨ fraction ≠ [])
      (hwhole : ∀ c ∈ whole, Text.isDigit c = true) (hfraction : ∀ c ∈ fraction, Text.isDigit c = true) :
      Spells (sign ++ (whole ++ '.' :: fraction))
        (signFactor sign * (digitsValue whole + digitsValue fraction / 10 ^ fraction.length))

/-- A value is written as a numeral that denotes a number. -/
def Denotes (v : Value) (q : ℚ) : Prop :=
  ∀ d, IsNumeral (literal d v) ∧ numeralValue (literal d v) = q

/-- **How a text is written where it is compared by size**, with a numeric column or another one. -/
structure WrittenBySize (d : Dialect) (numeric : Bool) (s : String) (cs : List Char) : Prop where
  /-- There are no quotes exactly around a number for a numeric column. -/
  unquoted_iff : cs.head? ≠ some '\x27' ↔ numeric = true ∧ ∃ q, Spells (trimChars s.toList) q
  /-- What stands without quotes is a numeral of the number that is spelled. -/
  number : ∀ q, numeric = true → Spells (trimChars s.toList) q → IsNumeral cs ∧ numeralValue cs = q
  /-- What stands in quotes is the whole text, blanks included. -/
  quoted : cs.head? = some '\x27' → cs = textLiteral d s.toList ∧ lex d cs = some [.text s]

variable {d : Dialect} {cat : Catalog} {f : Filter} {v w : Value} {s : String} {q : ℚ}

/-! ## Reading a text as a number -/

theorem denotes_int (n : Int) : Denotes (.int n) n :=
  fun _ => ⟨isNumeral_int n, numeralValue_int n⟩

theorem denotes_decimal (negative : Bool) (c : Nat) (e : Int) :
    Denotes (.decimal (.finite negative c e)) ((signed negative c : Int) * 10 ^ e) :=
  fun _ => ⟨isNumeral_decimal negative c e, numeralValue_decimal negative c e⟩

section Point

variable {sign whole fraction : List Char}

/-- Digits around a point, possibly with a sign, are taken as a decimal that keeps them all. -/
theorem numericForm_point (hchars : trimChars s.toList = sign ++ (whole ++ '.' :: fraction))
    (hsign : sign ∈ [[], ['-'], ['+']]) (hne : whole ≠ [] ∨ fraction ≠ [])
    (hwhole : ∀ c ∈ whole, Text.isDigit c = true) (hfraction : ∀ c ∈ fraction, Text.isDigit c = true) :
    numericForm s = .ok (some (.decimal
      (.finite (sign == ['-']) (digitsValue (whole ++ fraction)) (-(fraction.length : Int))))) := by
  have hhead : ∀ c, (whole ++ '.' :: fraction).head? = some c → c ≠ '-' ∧ c ≠ '+' := by
    intro c hc
    cases whole with
    | nil =>
      cases hc
      decide
    | cons x xs =>
      cases hc
      exact not_sign_of_isDigit (hwhole c List.mem_cons_self)
  have hstop : ∀ c, ('.' :: fraction).head? = some c → Text.isDigit c = false := by
    rintro c ⟨⟩
    decide
  simp only [numericForm, hchars, splitSign_append hsign hhead, spanDigits_append hwhole hstop,
    spanDigits_all hfraction]
  rw [if_pos (by simpa [imp_iff_not_or] using hne)]

/-- The digits in front of a point and those behind it, put together. -/
theorem value_point : signFactor sign * (digitsValue whole + digitsValue fraction / 10 ^ fraction.length) =
    (signed (sign == ['-']) (digitsValue (whole ++ fraction)) : Int) * 10 ^ (-(fraction.length : Int)) := by
  rw [← signFactor_mul, digitsValue_append, zpow_neg, zpow_natCast, mul_assoc]
  push_cast
  field_simp

end Point

/-- **A text that spells a number** is taken as that number unless it is too long. -/
theorem numericForm_spelled (h : Spells (trimChars s.toList) q) (hshort : ¬SpellsTooLong s) :
    ∃ w, numericForm s = .ok (some w) ∧ Denotes w q := by
  generalize htrim : trimChars s.toList = cs at h
  cases h with
  | @digits sign ds hsign hne hds =>
    have hlength : ¬maxDigits < ds.length := fun hlong => hshort ⟨sign, ds, htrim, hsign, hds, hlong⟩
    refine ⟨_, (numericForm_digits htrim hsign hne hds).trans (if_neg hlength), ?_⟩
    rw [signFactor_mul]
    exact denotes_int _
  | point hsign hne hwhole hfraction =>
    refine ⟨_, numericForm_point htrim hsign hne hwhole hfraction, ?_⟩
    rw [value_point]
    exact denotes_decimal _ _ _

/-- Text that is taken as a number spells one. -/
theorem spells_of_numericForm (h : numericForm s = .ok (some w)) : ∃ q, Spells (trimChars s.toList) q := by
  have htaken := taken_numericForm s
  rw [h] at htaken
  cases htaken with
  | whole hchars hsign hne hds => exact ⟨_, hchars ▸ Spells.digits hsign hne hds⟩
  | point hchars hsign hne hwhole hfraction => exact ⟨_, hchars ▸ Spells.point hsign hne hwhole hfraction⟩

/-! ## Writing it -/

theorem head_textLiteral (cs : List Char) : (textLiteral d cs).head? = some '\x27' :=
  rfl

/-- What is written as a number has no quote in front. -/
theorem IsNumeral.head_ne_quote {cs : List Char} (h : IsNumeral cs) : cs.head? ≠ some '\x27' := by
  obtain ⟨c, cs, rfl, hc⟩ := h.head
  rintro ⟨⟩
  exact absurd hc (by decide)

/-- A text that is kept is written in quotes. -/
theorem writtenBySize_textLiteral {numeric : Bool} (h : ¬(numeric = true ∧ ∃ q, Spells (trimChars s.toList) q)) :
    WrittenBySize d numeric s (textLiteral d s.toList) where
  unquoted_iff := iff_of_false (absurd (head_textLiteral _)) h
  number q hnumeric hq := absurd ⟨hnumeric, q, hq⟩ h
  quoted _ := ⟨rfl, (reads_textString s).lex_eq⟩

/-- A text that spells a number is written as it. -/
theorem writtenBySize_number (h : ∃ q, Spells (trimChars s.toList) q)
    (hw : ∀ q, Spells (trimChars s.toList) q → Denotes w q) : WrittenBySize d true s (literal d w) := by
  have hunquoted : (literal d w).head? ≠ some '\x27' := by
    obtain ⟨q, hq⟩ := h
    exact (hw q hq d).1.head_ne_quote
  exact
    { unquoted_iff := iff_of_true hunquoted ⟨rfl, h⟩
      number := fun q _ hq => hw q hq d
      quoted := fun hquote => absurd hquote hunquoted }

/-- **What a text is compared as by size** is written as it should be. -/
theorem numericIfPossible_text {numeric : Bool} (h : ¬(numeric = true ∧ SpellsTooLong s)) :
    ∃ w, numericIfPossible numeric (.text s) = .ok w ∧ writable w = .ok w ∧
      ∀ d, WrittenBySize d numeric s (literal d w) := by
  cases numeric with
  | false => exact ⟨.text s, rfl, rfl, fun d => writtenBySize_textLiteral (by simp)⟩
  | true =>
    have hshort : ¬SpellsTooLong s := fun hlong => h ⟨rfl, hlong⟩
    cases hform : numericForm s with
    | error e => exact absurd (numericForm_refused_iff.1 ⟨e, hform⟩) hshort
    | ok found =>
      cases found with
      | none =>
        refine ⟨.text s, by rw [numericIfPossible, if_pos rfl, hform]; rfl, rfl, fun d => writtenBySize_textLiteral ?_⟩
        rintro ⟨-, q, hq⟩
        obtain ⟨w, hw, -⟩ := numericForm_spelled hq hshort
        rw [hform] at hw
        cases hw
      | some w =>
        have hwritable : writable w = .ok w := by rw [writable, if_pos (numericForm_isShortNumber hform).isWritable]
        refine ⟨w, by rw [numericIfPossible, if_pos rfl, hform]; rfl, hwritable, fun d => ?_⟩
        refine writtenBySize_number (spells_of_numericForm hform) fun q hq => ?_
        obtain ⟨w', hw', hq'⟩ := numericForm_spelled hq hshort
        rw [hform] at hw'
        cases hw'
        exact hq'

/-! ## Conditions -/

/-- What compares by size is written with one of two signs. -/
theorem conditionOf_bySize (hop : f.operator.isNumericComparison = true) (hval : f.value = .scalar v) :
    conditionOf cat f = do
      let w ← numericIfPossible (isNumericIn cat f) v
      return .compare ⟨f.table, f.column⟩ (if f.operator = .greaterThan then .greater else .less) (← writable w) := by
  simp only [FilterOperator.isNumericComparison, Bool.or_eq_true, decide_eq_true_eq] at hop
  rcases hop with hop | hop <;> simp only [conditionOf, hop, hval] <;> rfl

/-- A filter has no condition if its column is numeric and it compares with a text that is too long. -/
theorem conditionOf_refused (hop : f.operator.isNumericComparison = true) (hval : f.value = .scalar (.text s))
    (hnumeric : isNumericIn cat f = true) (hlong : SpellsTooLong s) : ∃ e, conditionOf cat f = .error (.numeral e) := by
  obtain ⟨e, he⟩ := numericForm_refused_iff.2 hlong
  refine ⟨e, ?_⟩
  rw [conditionOf_bySize hop hval, hnumeric, numericIfPossible, if_pos rfl, he]
  rfl

/-- **Text compared by size.** A filter that compares with a text by size has a condition unless its column is
numeric and the text spells a whole number that is too long, and then the text stands behind the sign of the
comparison as it should. -/
theorem conditionOf_text_bySize (hop : f.operator.isNumericComparison = true) (hval : f.value = .scalar (.text s)) :
    (isNumericIn cat f = true ∧ SpellsTooLong s → ∃ e, conditionOf cat f = .error (.numeral e)) ∧
      (¬(isNumericIn cat f = true ∧ SpellsTooLong s) → ∃ k, conditionOf cat f = .ok k ∧
        ∀ d, ∃ cs, WrittenBySize d (isNumericIn cat f) s cs ∧
          k.chars d = ColumnRef.chars d ⟨f.table, f.column⟩
            ++ (if f.operator = .greaterThan then " > " else " < ").toList ++ cs) := by
  refine ⟨fun ⟨hnumeric, hlong⟩ => conditionOf_refused hop hval hnumeric hlong, fun hshort => ?_⟩
  obtain ⟨w, hw, hwritable, hwritten⟩ := numericIfPossible_text hshort
  rw [conditionOf_bySize hop hval]
  refine ⟨.compare ⟨f.table, f.column⟩ (if f.operator = .greaterThan then .greater else .less) w, ?_, fun d => ?_⟩
  · simp only [bind_eq_ok, liftM_eq_ok, pure_eq_ok]
    exact ⟨w, hw, w, hwritable, rfl⟩
  · refine ⟨literal d w, hwritten d, ?_⟩
    rw [Condition.chars, List.append_assoc, List.append_assoc]
    split <;> rfl

/-- The filter of the draft that compares a numeric column by size with a text. -/
def sizing (s : String) : Filter :=
  ⟨"id-2", "orders", "total", .greaterThan, .scalar (.text s), none⟩

theorem mem_sizingDraft (s : String) :
    Reachable shop (sizingDraft s) ∧ sizing s ∈ (sizingDraft s).canvas.filters := by
  refine ⟨reachable_performAll _ (.text "Q") .null .fresh, ?_⟩
  rw [filters_sizingDraft]
  exact List.mem_singleton_self _

theorem isNumericIn_sizing (s : String) : isNumericIn shop (sizing s) = true := by
  show ((shop.lookup? "orders").bind fun t => t.column? "total").any Column.isNumeric = true
  decide +kernel

/-- Devanagari digits are written as the number that they spell. -/
theorem conditionOf_sizing_devanagari :
    (sizing " -३.५ ").operator.isNumericComparison = true ∧ (sizing " -३.५ ").value = .scalar (.text " -३.५ ") ∧
      ∃ k, conditionOf shop (sizing " -३.५ ") = .ok k ∧
        ∃ cs, k.chars .ansi = "orders.total > ".toList ++ cs ∧ IsNumeral cs ∧ numeralValue cs = -7 / 2 := by
  have hspells : Spells (trimChars " -३.५ ".toList) (-7 / 2) := by
    have hparts : Spells (['-'] ++ (['३'] ++ '.' :: ['५'])) _ := .point (by simp) (by simp)
      (List.forall_mem_singleton.2 (by decide +kernel)) (List.forall_mem_singleton.2 (by decide +kernel))
    have hvalue : signFactor ['-'] * ((digitsValue ['३'] : ℚ) + digitsValue ['५'] / 10 ^ ['५'].length) = -7 / 2 := by
      rw [show digitsValue ['३'] = 3 from rfl, show digitsValue ['५'] = 5 from rfl]
      norm_num [signFactor]
    rw [hvalue] at hparts
    exact hparts
  have hshort : ¬SpellsTooLong " -३.५ " := by
    rw [← numericForm_refused_iff]
    rintro ⟨e, he⟩
    cases he
  obtain ⟨k, hk, hwritten⟩ := (@conditionOf_text_bySize shop (sizing " -३.५ ") _ rfl rfl).2 (hshort ·.2)
  obtain ⟨cs, hcs, hchars⟩ := hwritten .ansi
  refine ⟨rfl, rfl, k, hk, cs, ?_, hcs.number _ (isNumericIn_sizing _) hspells⟩
  rw [hchars]
  rfl

/-- **No condition** for a comparison with a number of too many digits, although the text spells it. -/
theorem no_condition_tooManyOnes :
    Reachable shop (sizingDraft tooManyOnes) ∧ sizing tooManyOnes ∈ (sizingDraft tooManyOnes).canvas.filters ∧
      isNumericIn shop (sizing tooManyOnes) = true ∧ (∃ q, Spells (trimChars tooManyOnes.toList) q) ∧
      ¬∃ k, conditionOf shop (sizing tooManyOnes) = .ok k := by
  obtain ⟨hreach, hmem⟩ := mem_sizingDraft tooManyOnes
  have hlong : SpellsTooLong tooManyOnes := spellsTooLong_ones (by decide)
  refine ⟨hreach, hmem, isNumericIn_sizing _, ?_, ?_⟩
  · obtain ⟨sign, ds, hchars, hsign, hds, hlength⟩ := hlong
    have hne : ds ≠ [] := by
      rintro rfl
      exact absurd hlength (by decide)
    rw [hchars]
    exact ⟨_, .digits hsign hne hds⟩
  · rintro ⟨k, hk⟩
    obtain ⟨e, he⟩ : ∃ e, conditionOf shop (sizing tooManyOnes) = .error (.numeral e) :=
      conditionOf_refused rfl rfl (isNumericIn_sizing _) hlong
    rw [he] at hk
    cases hk

end QueryCanvas.Sql
