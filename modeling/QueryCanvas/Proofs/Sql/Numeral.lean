import QueryCanvas.Proofs.Sql.Reads

/-!
# Numerals of a statement

A numeral is an optional sign, digits, an optional fraction and an optional exponent (`IsNumeral`). Such
a text is one token (`reads_numeral`).
-/

namespace QueryCanvas.Sql

open Numeral

/-- One plain digit or more. -/
def IsDigits (ds : List Char) : Prop :=
  ds ≠ [] ∧ ∀ c ∈ ds, c.isDigit = true

/-- No fraction, or a point with digits behind it. -/
inductive IsFraction : List Char → Prop
  | none : IsFraction []
  | point {ds : List Char} (h : IsDigits ds) : IsFraction ('.' :: ds)

/-- No exponent, or a mark, a sign and digits. -/
inductive IsExponent : List Char → Prop
  | none : IsExponent []
  | marked {e s : Char} {ds : List Char} (he : e = 'e' ∨ e = 'E') (hs : s = '-' ∨ s = '+') (h : IsDigits ds) :
      IsExponent (e :: s :: ds)

/-- An optional minus, digits, and possibly a fraction and an exponent. -/
inductive IsNumeral : List Char → Prop
  | mk {sign whole fraction exponent : List Char} (hsign : sign = [] ∨ sign = ['-']) (hwhole : IsDigits whole)
      (hfraction : IsFraction fraction) (hexponent : IsExponent exponent) :
      IsNumeral (sign ++ (whole ++ (fraction ++ exponent)))

variable {d : Dialect} {c : Char} {cs rest ds : List Char}

/-- The characters that may follow a numeral. -/
def isNumeralStop (c : Char) : Bool :=
  isWordStop c && c != '.'

/-! ## Reading a numeral -/

/-- What follows a numeral goes on with no part of one. -/
theorem not_part_of_isNumeralStop (h : isNumeralStop c = true) :
    c.isDigit = false ∧ c ≠ '.' ∧ c ≠ 'e' ∧ c ≠ 'E' := by
  simp only [isNumeralStop, isWordStop, Bool.and_eq_true, Bool.not_eq_true', bne_iff_ne] at h
  obtain ⟨hword, hpoint⟩ := h
  refine ⟨?_, hpoint, ?_, ?_⟩
  · rw [Bool.eq_false_iff]
    intro hdigit
    simp [isWordChar, Char.isAlphanum, hdigit] at hword
  · rintro rfl
    exact absurd hword (by decide)
  · rintro rfl
    exact absurd hword (by decide)

theorem IsDigits.head (h : IsDigits ds) : ∃ c cs, ds = c :: cs ∧ c.isDigit = true := by
  cases ds with
  | nil => exact absurd rfl h.1
  | cons c cs => exact ⟨c, cs, rfl, h.2 c List.mem_cons_self⟩

theorem startsWithDigit_append (h : IsDigits ds) : startsWithDigit (ds ++ rest) = true := by
  obtain ⟨c, cs, rfl, hc⟩ := h.head
  exact hc

theorem readDigits_append (h : IsDigits ds) (hrest : ∀ c, rest.head? = some c → c.isDigit = false) :
    readDigits (ds ++ rest) = (ds, rest) := by
  rw [readDigits, takeWhile_append_stop h.2 hrest, dropWhile_append_stop h.2 hrest]

theorem readSign_append {sign : List Char} (hsign : sign = [] ∨ sign = ['-']) (h : IsDigits ds) :
    readSign (sign ++ (ds ++ rest)) = (sign, ds ++ rest) := by
  rcases hsign with rfl | rfl
  · obtain ⟨c, cs, rfl, hc⟩ := h.head
    have hminus : c ≠ '-' := by rintro rfl; exact absurd hc (by decide)
    have hplus : c ≠ '+' := by rintro rfl; exact absurd hc (by decide)
    simp [readSign, hminus, hplus]
  · rfl

theorem readFraction_append {fraction : List Char} (h : IsFraction fraction)
    (hrest : ∀ c, rest.head? = some c → c.isDigit = false ∧ c ≠ '.') :
    readFraction (fraction ++ rest) = (fraction, rest) := by
  cases h with
  | none =>
    cases rest with
    | nil => rfl
    | cons c rest => simp [readFraction, (hrest c rfl).2]
  | @point ds h =>
    rw [List.cons_append, readFraction, if_pos (startsWithDigit_append h),
      readDigits_append h fun c hc => (hrest c hc).1]

theorem readExponent_append {exponent : List Char} (h : IsExponent exponent)
    (hrest : ∀ c, rest.head? = some c → c.isDigit = false ∧ c ≠ 'e' ∧ c ≠ 'E') :
    readExponent (exponent ++ rest) = (exponent, rest) := by
  cases h with
  | none =>
    cases rest with
    | nil => rfl
    | cons c rest => simp [readExponent, (hrest c rfl).2]
  | @marked e s ds he hs h =>
    have hsign : readSign (s :: (ds ++ rest)) = ([s], ds ++ rest) := by
      rcases hs with rfl | rfl <;> rfl
    rw [List.cons_append, List.cons_append, readExponent, hsign]
    simp only []
    rw [if_pos ⟨he, startsWithDigit_append h⟩, readDigits_append h fun c hc => (hrest c hc).1]
    rfl

/-- The first character behind a fraction is none of the digits. -/
theorem head_exponent {exponent : List Char} (h : IsExponent exponent)
    (hrest : ∀ c, rest.head? = some c → isNumeralStop c = true) :
    ∀ c, (exponent ++ rest).head? = some c → c.isDigit = false ∧ c ≠ '.' := by
  intro c hc
  cases h with
  | none =>
    obtain ⟨hdigit, hpoint, -, -⟩ := not_part_of_isNumeralStop (hrest c hc)
    exact ⟨hdigit, hpoint⟩
  | marked he hs h =>
    cases hc
    rcases he with rfl | rfl <;> decide

theorem head_fraction {fraction exponent : List Char} (hf : IsFraction fraction) (he : IsExponent exponent)
    (hrest : ∀ c, rest.head? = some c → isNumeralStop c = true) :
    ∀ c, (fraction ++ (exponent ++ rest)).head? = some c → c.isDigit = false := by
  intro c hc
  cases hf with
  | none => exact (head_exponent he hrest c hc).1
  | point h =>
    cases hc
    decide

theorem readNumeral_append (h : IsNumeral cs)
    (hrest : ∀ c, rest.head? = some c → isNumeralStop c = true) :
    readNumeral (cs ++ rest) = (cs, rest) := by
  obtain ⟨hsign, hwhole, hfraction, hexponent⟩ := h
  rename_i sign whole fraction exponent
  have hstop : ∀ c, rest.head? = some c → c.isDigit = false ∧ c ≠ 'e' ∧ c ≠ 'E' := fun c hc =>
    have ⟨hdigit, _, he, hE⟩ := not_part_of_isNumeralStop (hrest c hc)
    ⟨hdigit, he, hE⟩
  simp only [readNumeral, List.append_assoc]
  rw [readSign_append hsign hwhole]
  simp only []
  rw [readDigits_append hwhole (head_fraction hfraction hexponent hrest)]
  simp only []
  rw [readFraction_append hfraction (head_exponent hexponent hrest)]
  simp only []
  rw [readExponent_append hexponent hstop]

theorem IsNumeral.head (h : IsNumeral cs) : ∃ c cs', cs = c :: cs' ∧ (c = '-' ∨ c.isDigit = true) := by
  obtain ⟨hsign, hwhole, -, -⟩ := h
  obtain ⟨c, ds, rfl, hc⟩ := hwhole.head
  rcases hsign with rfl | rfl
  · exact ⟨c, _, rfl, .inr hc⟩
  · exact ⟨'-', _, rfl, .inl rfl⟩

/-- **A numeral** is one token. -/
theorem reads_numeral (h : IsNumeral cs) : Reads d cs [.numeral (String.ofList cs)] isNumeralStop := by
  intro rest us hhead hrest
  have hread := readNumeral_append h hhead
  have hdigit : startsWithDigit (readSign (cs ++ rest)).2 = true := by
    obtain ⟨hsign, hwhole, hfraction, hexponent⟩ := h
    rw [List.append_assoc, List.append_assoc, readSign_append hsign hwhole]
    exact startsWithDigit_append hwhole
  have hstop : (rest.head?.any isWordChar) = false := by
    cases rest with
    | nil => rfl
    | cons c rest =>
      have hc := hhead c rfl
      simp only [isNumeralStop, isWordStop, Bool.and_eq_true, Bool.not_eq_true'] at hc
      exact hc.1
  obtain ⟨c, cs, rfl, hc⟩ := h.head
  have hrange : 45 ≤ c.toNat ∧ c.toNat ≤ 57 := by
    rcases hc with rfl | hc
    · decide
    · have := Text.isDigit_iff.1 hc
      omega
  have hne : ∀ x : Char, (x.toNat < 45 ∨ 57 < x.toNat) → c ≠ x := fun x hx h => by
    rw [h] at hrange
    omega
  have hword : isWordStart c = false := by
    rw [Bool.eq_false_iff]
    intro hstart
    simp only [isWordStart, Bool.or_eq_true, Text.isAlpha_iff, beq_iff_eq, decide_eq_true_eq] at hstart
    rcases hstart with (hstart | hstart) | hstart
    · omega
    · exact hne '_' (by decide) hstart
    · omega
  have hspace : isSpace c = false := by
    simp [isSpace, hne ' ' (by decide), hne '\t' (by decide), hne '\n' (by decide), hne '\r' (by decide)]
  have htoken : token? d c (cs ++ rest) = some (.numeral (String.ofList (c :: cs)), rest) := by
    rw [token?, if_neg (hne _ (by decide)), if_neg (hne _ (by cases d <;> decide)), if_neg (by simp [hword]),
      ← List.cons_append, if_pos hdigit, hread]
    simp [hstop]
  rw [List.cons_append, lex_token hspace htoken, hrest]
  rfl

/-! ## Digits and parts of numerals -/

theorem isDigits_toDigits (n : Nat) : IsDigits (Nat.toDigits 10 n) :=
  ⟨Nat.toDigits_ne_nil, fun _ hc => Nat.isDigit_of_mem_toDigits (by decide) (by decide) hc⟩

theorem isDigits_singleton (h : c.isDigit = true) : IsDigits [c] :=
  ⟨by simp, List.forall_mem_singleton.2 h⟩

theorem isDigits_zero : IsDigits ['0'] :=
  isDigits_singleton rfl

theorem IsDigits.append {ds' : List Char} (h : IsDigits ds) (h' : ∀ c ∈ ds', c.isDigit = true) :
    IsDigits (ds ++ ds') :=
  ⟨by simp [h.1], List.forall_mem_append.2 ⟨h.2, h'⟩⟩

theorem IsDigits.zeros_append (h : IsDigits ds) (n : Nat) : IsDigits (List.replicate n '0' ++ ds) :=
  ⟨by simp [h.1], List.forall_mem_append.2 ⟨fun c hc => (List.eq_of_mem_replicate hc) ▸ rfl, h.2⟩⟩

theorem isDigits_padLeft (h : IsDigits ds) (width : Nat) : IsDigits (Binary64.padLeft width ds) :=
  h.zeros_append _

theorem IsDigits.take (h : IsDigits ds) {n : Nat} (hn : 0 < n) : IsDigits (ds.take n) := by
  obtain ⟨c, cs, rfl, hc⟩ := h.head
  refine ⟨?_, fun x hx => h.2 x (List.mem_of_mem_take hx)⟩
  cases n with
  | zero => exact absurd hn (Nat.lt_irrefl 0)
  | succ n => simp

theorem IsDigits.drop (h : IsDigits ds) {n : Nat} (hn : n < ds.length) : IsDigits (ds.drop n) :=
  ⟨by simpa using hn, fun _ hx => h.2 _ (List.mem_of_mem_drop hx)⟩

/-- A numeral without a sign. -/
inductive IsUnsigned : List Char → Prop
  | mk {whole fraction exponent : List Char} (hwhole : IsDigits whole) (hfraction : IsFraction fraction)
      (hexponent : IsExponent exponent) : IsUnsigned (whole ++ (fraction ++ exponent))

theorem IsUnsigned.minus (h : IsUnsigned cs) : IsNumeral ('-' :: cs) := by
  obtain ⟨hwhole, hfraction, hexponent⟩ := h
  exact .mk (show ['-'] = [] ∨ ['-'] = ['-'] from .inr rfl) hwhole hfraction hexponent

theorem IsUnsigned.plain (h : IsUnsigned cs) : IsNumeral cs := by
  obtain ⟨hwhole, hfraction, hexponent⟩ := h
  exact .mk (show ([] : List Char) = [] ∨ [] = ['-'] from .inl rfl) hwhole hfraction hexponent

end QueryCanvas.Sql
