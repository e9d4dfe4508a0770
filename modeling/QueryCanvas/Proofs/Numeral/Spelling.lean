import Mathlib
import QueryCanvas.Proofs.Numeral.Rounding
import QueryCanvas.Proofs.Text.Character
import QueryCanvas.Proofs.Text.Trim

/-!
# Numerals

The texts that are read as numbers, whole ones and doubles. A numeral is a sign and runs of digits of any script,
with single underscores between the digits of a run, and blanks around it that are no separators. A double may have
a point and an exponent, and there are words for what is infinite and for what is no number.

* `DigitRun`: a run of digits.
* `SpellsWhole`, `SpellsDouble`: the number that a text spells.
* `readInt?_eq_some`, `read?_eq_some`: what is read from a text is the number that it spells.
-/

namespace QueryCanvas.Numeral

open Text

/-! ## Texts that spell numbers -/

/-- Blanks that may stand around a numeral. -/
def Spaces (cs : List Char) : Prop :=
  ∀ c ∈ cs, (isBlank c && !isSeparator c) = true

/-- **A text with a sign**, or without one: its sign and what it has between sign and spaces. -/
inductive SignedText : String → Bool → List Char → Prop
  | mk {s : String} {lead sign cs gap : List Char} (hlead : Spaces lead) (hgap : Spaces gap)
      (hsign : sign ∈ [[], ['-'], ['+']]) (hs : s.toList = lead ++ (sign ++ cs ++ gap)) :
      SignedText s (sign == ['-']) cs

/-- **A run of digits** and their values; an underscore may stand between two of them. -/
inductive DigitRun : List Char → List Nat → Prop
  | last {c : Char} {d : Nat} (h : digit? c = some d) : DigitRun [c] [d]
  | next {c : Char} {d : Nat} {cs : List Char} {ds : List Nat} (h : digit? c = some d) (hcs : DigitRun cs ds) :
      DigitRun (c :: cs) (d :: ds)
  | bridged {c : Char} {d : Nat} {cs : List Char} {ds : List Nat} (h : digit? c = some d) (hcs : DigitRun cs ds) :
      DigitRun (c :: '_' :: cs) (d :: ds)

/-- A run of digits, or nothing. -/
inductive OptionalRun : List Char → List Nat → Prop
  | none : OptionalRun [] []
  | some {cs : List Char} {ds : List Nat} (h : DigitRun cs ds) : OptionalRun cs ds

/-- **The whole number that a text spells**, if it has no more digits than are read. -/
inductive SpellsWhole : String → Int → Prop
  | mk {s : String} {negative : Bool} {cs : List Char} {ds : List Nat} (hs : SignedText s negative cs)
      (hcs : DigitRun cs ds) (hshort : ds.length ≤ maxDigits) : SpellsWhole s (signed negative (ofDigits ds))

/-- The power of ten that an exponent spells. -/
inductive ExponentText : List Char → Int → Prop
  | none : ExponentText [] 0
  | marked {mark : Char} {sign cs : List Char} {ds : List Nat} (hmark : mark = 'e' ∨ mark = 'E')
      (hsign : sign ∈ [[], ['-'], ['+']]) (hcs : DigitRun cs ds) :
      ExponentText (mark :: (sign ++ cs)) (signed (sign == ['-']) (ofDigits ds))

/-- **A decimal without a sign**: its digits as a whole number, and the power of ten that they are moved by. -/
inductive DecimalText : List Char → Nat → Int → Prop
  | whole {cs es : List Char} {ds : List Nat} {e : Int} (hcs : DigitRun cs ds) (hes : ExponentText es e) :
      DecimalText (cs ++ es) (ofDigits ds) e
  | point {cs fs es : List Char} {ds ds' : List Nat} {e : Int} (hcs : OptionalRun cs ds) (hfs : OptionalRun fs ds')
      (hne : ¬(ds = [] ∧ ds' = [])) (hes : ExponentText es e) :
      DecimalText (cs ++ '.' :: (fs ++ es)) (ofDigits (ds ++ ds')) (e - ds'.length)

/-- **The double that a text spells**: the one nearest to a decimal, or what a word stands for, in letters of any
case. -/
inductive SpellsDouble : String → Binary64 → Prop
  | decimal {s : String} {negative : Bool} {cs : List Char} {c : Nat} {e : Int} {x : Binary64}
      (hs : SignedText s negative cs) (hcs : DecimalText cs c e) (hx : Binary64.Nearest negative (c * 10 ^ e) x) :
      SpellsDouble s x
  | infinite {s : String} {negative : Bool} {cs : List Char} (hs : SignedText s negative cs)
      (hcs : cs.map Char.toLower = "inf".toList ∨ cs.map Char.toLower = "infinity".toList) :
      SpellsDouble s (.infinite negative)
  | nan {s : String} {negative : Bool} {cs : List Char} (hs : SignedText s negative cs)
      (hcs : cs.map Char.toLower = "nan".toList) : SpellsDouble s .nan

variable {s : String} {negative : Bool} {cs rest : List Char} {ds : List Nat} {c n : Nat} {e i : Int} {x y : Binary64}

/-! ## Signs -/

theorem not_isBlank_of_sign {sign : List Char} {c : Char} (hsign : sign ∈ [[], ['-'], ['+']]) (hc : c ∈ sign) :
    isBlank c = false := by
  simp only [List.mem_cons, List.not_mem_nil, or_false] at hsign
  rcases hsign with rfl | rfl | rfl
  · cases hc
  · rw [List.mem_singleton.1 hc]
    decide
  · rw [List.mem_singleton.1 hc]
    decide

/-- What is no space and does not start with a sign. -/
structure Unsigned (cs : List Char) : Prop where
  not_blank : ∀ c ∈ cs, isBlank c = false
  not_sign : ∀ c, cs.head? = some c → c ≠ '-' ∧ c ≠ '+'

/-- A text has the sign that is split off, and what is left. -/
theorem signedText_unspaced (s : String) : SignedText s (splitSign (unspaced s)).1 (splitSign (unspaced s)).2 := by
  obtain ⟨-, -, lead, gap, hlead, hgap, hs⟩ := trimWhere_eq_iff.1 (show _ = unspaced s from rfl)
  obtain ⟨sign, hsign, hsplit, hnegative⟩ := splitSign_spec (unspaced s)
  rw [hnegative]
  exact .mk hlead hgap hsign (hsplit ▸ hs)

/-- **The sign of a text** is split off, and what has no sign of its own is left. -/
theorem splitSign_unspaced (h : SignedText s negative cs) (hcs : Unsigned cs) :
    splitSign (unspaced s) = (negative, cs) := by
  obtain ⟨hlead, hgap, hsign, hs⟩ := h
  rename_i lead sign gap
  have hsolid : ∀ c ∈ sign ++ cs, (isBlank c && !isSeparator c) = false := by
    intro c hc
    rw [(List.mem_append.1 hc).elim (not_isBlank_of_sign hsign) (hcs.not_blank c), Bool.false_and]
  have htrim : unspaced s = sign ++ cs := trimWhere_eq_iff.2
    ⟨fun c hc => hsolid c (List.mem_of_head? hc), fun c hc => hsolid c (List.mem_of_getLast? hc),
      lead, gap, hlead, hgap, hs⟩
  rw [htrim, splitSign_append hsign hcs.not_sign]

/-- **A text is not blank** if something stands between its sign and its spaces. -/
theorem SignedText.not_blanks (h : SignedText s negative cs) (hcs : Unsigned cs) (hne : cs ≠ []) :
    ¬Blanks s.toList := by
  obtain ⟨-, -, -, hs⟩ := h
  obtain ⟨c, cs', rfl⟩ := List.exists_cons_of_ne_nil hne
  intro hblanks
  have hblank := hblanks c (by simp [hs])
  rw [hcs.not_blank c List.mem_cons_self] at hblank
  cases hblank

/-! ## Runs of digits -/

/-- What may follow a run of digits. -/
def Stops (rest : List Char) : Prop :=
  ∀ c, rest.head? = some c → digit? c = none ∧ c ≠ '_'

theorem DigitRun.ne_nil (h : DigitRun cs ds) : ds ≠ [] := by
  cases h <;> exact List.cons_ne_nil _ _

theorem DigitRun.head (h : DigitRun cs ds) : ∃ c cs', cs = c :: cs' ∧ isDigit c = true := by
  cases h with
  | last h | next h | bridged h => exact ⟨_, _, rfl, by rw [isDigit, h]; rfl⟩

/-- The characters of a run. -/
theorem DigitRun.mem (h : DigitRun cs ds) : ∀ c ∈ cs, isDigit c = true ∨ c = '_' := by
  have hdigit : ∀ {c d}, digit? c = some d → isDigit c = true := fun h => by rw [isDigit, h]; rfl
  induction h with
  | last h => simp [hdigit h]
  | next h _ ih => simpa [hdigit h] using ih
  | bridged h _ ih => simpa [hdigit h] using ih

theorem takeDigitsFrom_stops (h : Stops rest) (inside : Bool) : takeDigitsFrom inside rest = ([], rest) := by
  cases rest with
  | nil => rfl
  | cons c rest =>
    obtain ⟨hnone, hbridge⟩ := h c rfl
    simp [takeDigitsFrom, hnone, hbridge]

/-- A run of digits is taken in front of what stops it. -/
theorem takeDigitsFrom_append (h : DigitRun cs ds) (hrest : Stops rest) (inside : Bool) :
    takeDigitsFrom inside (cs ++ rest) = (ds, rest) := by
  induction h generalizing inside with
  | last h => simp [takeDigitsFrom, h, takeDigitsFrom_stops hrest]
  | next h _ ih => simp [takeDigitsFrom, h, ih]
  | bridged h hcs ih =>
    obtain ⟨c, cs', rfl, hc⟩ := hcs.head
    have hbridge : digit? '_' = none := by decide
    have hstart : startsWithDigit (c :: cs' ++ rest) = true := hc
    simp only [List.cons_append] at ih hstart ⊢
    rw [takeDigitsFrom, h]
    simp only []
    rw [takeDigitsFrom, hbridge]
    simp only [hstart, ih]
    rfl

theorem takeDigitsFrom_ne_nil (h : startsWithDigit cs = true) (inside : Bool) : (takeDigitsFrom inside cs).1 ≠ [] := by
  obtain ⟨c, hc, hdigit⟩ := (Option.any_eq_true _ _).1 h
  obtain ⟨cs', rfl⟩ := List.head?_eq_some_iff.1 hc
  obtain ⟨d, hd⟩ := Option.isSome_iff_exists.1 hdigit
  rw [takeDigitsFrom, hd]
  exact List.cons_ne_nil _ _

/-- What is taken is a run of digits, with an underscore in front if one may stand there. -/
theorem of_takeDigitsFrom {inside : Bool} (h : takeDigitsFrom inside cs = (ds, rest)) :
    (ds = [] ∧ cs = rest) ∨
      ∃ run, DigitRun run ds ∧ (cs = run ++ rest ∨ inside = true ∧ cs = '_' :: (run ++ rest)) := by
  induction cs generalizing inside ds with
  | nil =>
    cases h
    exact .inl ⟨rfl, rfl⟩
  | cons c cs ih =>
    rw [takeDigitsFrom] at h
    split at h
    · rename_i d hd
      generalize htaken : takeDigitsFrom true cs = taken at h
      obtain ⟨ds', rest'⟩ := taken
      cases h
      right
      rcases ih htaken with ⟨rfl, rfl⟩ | ⟨run, hrun, rfl | ⟨-, rfl⟩⟩
      · exact ⟨[c], .last hd, .inl rfl⟩
      · exact ⟨c :: run, .next hd hrun, .inl rfl⟩
      · exact ⟨c :: '_' :: run, .bridged hd hrun, .inl rfl⟩
    · split at h
      · rename_i hbridge
        simp only [Bool.and_eq_true, beq_iff_eq] at hbridge
        obtain ⟨⟨rfl, rfl⟩, hstart⟩ := hbridge
        rcases ih h with ⟨rfl, rfl⟩ | ⟨run, hrun, rfl | ⟨hfalse, -⟩⟩
        · exact absurd (congrArg Prod.fst h) (takeDigitsFrom_ne_nil hstart false)
        · exact .inr ⟨run, hrun, .inr ⟨rfl, rfl⟩⟩
        · cases hfalse
      · cases h
        exact .inl ⟨rfl, rfl⟩

theorem takeDigits_append (h : OptionalRun cs ds) (hrest : Stops rest) : takeDigits (cs ++ rest) = (ds, rest) := by
  cases h with
  | none => exact takeDigitsFrom_stops hrest false
  | some h => exact takeDigitsFrom_append h hrest false

theorem of_takeDigits (h : takeDigits cs = (ds, rest)) : ∃ run, OptionalRun run ds ∧ cs = run ++ rest := by
  rcases of_takeDigitsFrom h with ⟨rfl, rfl⟩ | ⟨run, hrun, rfl | ⟨hfalse, -⟩⟩
  · exact ⟨[], .none, rfl⟩
  · exact ⟨run, .some hrun, rfl⟩
  · cases hfalse

theorem stops_nil : Stops [] := nofun

theorem OptionalRun.mem (h : OptionalRun cs ds) : ∀ c ∈ cs, isDigit c = true ∨ c = '_' := by
  cases h with
  | none => exact nofun
  | some h => exact h.mem

theorem OptionalRun.digitRun (h : OptionalRun cs ds) (hne : ds ≠ []) : DigitRun cs ds := by
  cases h with
  | none => exact absurd rfl hne
  | some h => exact h

/-- The characters of a run are not blank. -/
theorem not_isBlank_of_run {c : Char} (h : isDigit c = true ∨ c = '_') : isBlank c = false := by
  rcases h with h | rfl
  · exact not_isBlank_of_isDigit h
  · exact not_isBlank_of_plain (.inr rfl)

/-! ## Whole numbers -/

theorem DigitRun.unsigned (h : DigitRun cs ds) : Unsigned cs where
  not_blank c hc := not_isBlank_of_run (h.mem c hc)
  not_sign c hc := by
    obtain ⟨c, cs', rfl, hdigit⟩ := h.head
    cases hc
    exact not_sign_of_isDigit hdigit

/-- **What is read as a whole number** is what is spelled. -/
theorem readInt?_eq_some : readInt? s = some i ↔ SpellsWhole s i := by
  constructor
  · intro h
    have hs := signedText_unspaced s
    simp only [readInt?] at h
    generalize splitSign (unspaced s) = split at h hs
    cases htaken : takeDigits split.2 with
    | mk ds rest =>
    rw [htaken] at h
    obtain ⟨run, hrun, hsplit⟩ := of_takeDigits htaken
    split at h
    · cases h
    · rename_i hne heq
      cases heq
      split at h
      · rename_i hshort
        cases h
        rw [hsplit, List.append_nil] at hs
        exact .mk hs (hrun.digitRun hne) hshort
      · cases h
    · cases h
  · rintro ⟨hs, hcs, hshort⟩
    rename_i negative cs ds
    have htaken : takeDigits (cs ++ []) = (ds, []) := takeDigits_append (.some hcs) stops_nil
    rw [List.append_nil] at htaken
    simp only [readInt?, splitSign_unspaced hs hcs.unsigned, htaken]
    cases ds with
    | nil => exact absurd rfl hcs.ne_nil
    | cons d ds => exact if_pos hshort

theorem SpellsWhole.not_blanks (h : SpellsWhole s i) : ¬Blanks s.toList := by
  obtain ⟨hs, hcs, -⟩ := h
  obtain ⟨d, cs', hcons, -⟩ := hcs.head
  exact hs.not_blanks hcs.unsigned (hcons ▸ List.cons_ne_nil d cs')

/-! ## Doubles -/

/-- **What is read as an exponent** is what is spelled. -/
theorem readExponent?_eq_some : Binary64.readExponent? cs = some e ↔ ExponentText cs e := by
  constructor
  · intro h
    cases cs with
    | nil =>
      cases h
      exact .none
    | cons mark cs =>
      simp only [Binary64.readExponent?] at h
      split at h
      · rename_i hmark
        obtain ⟨sign, hsign, hsplit, hnegative⟩ := splitSign_spec cs
        cases htaken : takeDigits (splitSign cs).2 with
        | mk ds rest =>
        rw [htaken] at h
        obtain ⟨run, hrun, hrest⟩ := of_takeDigits htaken
        split at h
        · rename_i d ds' heq
          cases heq
          cases h
          rw [List.append_nil] at hrest
          rw [hnegative, hsplit, hrest]
          exact .marked hmark hsign (hrun.digitRun (List.cons_ne_nil _ _))
        · cases h
      · cases h
  · intro h
    cases h with
    | none => rfl
    | @marked mark sign cs ds hmark hsign hcs =>
      have htaken : takeDigits (cs ++ []) = (ds, []) := takeDigits_append (.some hcs) stops_nil
      rw [List.append_nil] at htaken
      simp only [Binary64.readExponent?, if_pos hmark, splitSign_append hsign hcs.unsigned.not_sign, htaken]
      cases ds with
      | nil => exact absurd rfl hcs.ne_nil
      | cons d ds => rfl

theorem ExponentText.stops (h : ExponentText cs e) : Stops cs := by
  cases h with
  | none => exact stops_nil
  | marked hmark =>
    rintro c ⟨⟩
    rcases hmark with rfl | rfl <;> decide

theorem stops_point (cs : List Char) : Stops ('.' :: cs) := by
  rintro c ⟨⟩
  decide

/-- **What is read as a decimal** is what is spelled. -/
theorem readFraction?_eq_some : Binary64.readFraction? cs = some (c, e) ↔ DecimalText cs c e := by
  constructor
  · intro h
    cases htaken : takeDigits cs with
    | mk ds rest =>
    obtain ⟨run, hrun, rfl⟩ := of_takeDigits htaken
    simp only [Binary64.readFraction?, htaken] at h
    split at h
    · rename_i behind
      cases hbehind : takeDigits behind with
      | mk ds' es =>
      obtain ⟨fs, hfs, rfl⟩ := of_takeDigits hbehind
      rw [hbehind] at h
      split at h
      · cases h
      · rename_i hne
        obtain ⟨i, hi, heq⟩ := Option.map_eq_some_iff.1 h
        cases heq
        exact .point hrun hfs (by simpa using hne) (readExponent?_eq_some.1 hi)
    · split at h
      · cases h
      · rename_i hne
        obtain ⟨i, hi, heq⟩ := Option.map_eq_some_iff.1 h
        cases heq
        rw [List.append_nil, List.length_nil, Nat.cast_zero, sub_zero]
        exact .whole (hrun.digitRun (by simpa using hne)) (readExponent?_eq_some.1 hi)
  · intro h
    cases h with
    | @whole cs es ds e hcs hes =>
      have htaken : takeDigits (cs ++ es) = (ds, es) := takeDigits_append (.some hcs) hes.stops
      have hne : ds.isEmpty = false := by simpa using hcs.ne_nil
      simp only [Binary64.readFraction?, htaken]
      split
      · cases hes with
        | marked hmark => exact absurd hmark (by decide)
      · rw [if_neg (by simp [hne]), readExponent?_eq_some.2 hes]
        simp
    | @point cs fs es ds ds' e hcs hfs hne hes =>
      have htaken : takeDigits (cs ++ '.' :: (fs ++ es)) = (ds, '.' :: (fs ++ es)) :=
        takeDigits_append hcs (stops_point _)
      have hbehind : takeDigits (fs ++ es) = (ds', es) := takeDigits_append hfs hes.stops
      simp only [Binary64.readFraction?, htaken, hbehind]
      rw [if_neg (by simpa using hne), readExponent?_eq_some.2 hes]
      rfl

/-- The characters of an exponent are not blank. -/
theorem ExponentText.not_blank (h : ExponentText cs e) : ∀ c ∈ cs, isBlank c = false := by
  cases h with
  | none => exact nofun
  | @marked mark sign cs ds hmark hsign hcs =>
    intro c hc
    rcases List.mem_cons.1 hc with rfl | hc
    · rcases hmark with rfl | rfl <;> decide
    · exact (List.mem_append.1 hc).elim (not_isBlank_of_sign hsign) fun hc => not_isBlank_of_run (hcs.mem c hc)

/-- A decimal starts with a digit or a point. -/
theorem DecimalText.head (h : DecimalText cs c e) : ∃ d cs', cs = d :: cs' ∧ (isDigit d = true ∨ d = '.') := by
  cases h with
  | whole hcs hes =>
    obtain ⟨d, cs', rfl, hd⟩ := hcs.head
    exact ⟨d, _, rfl, .inl hd⟩
  | point hcs hfs hne hes =>
    cases hcs with
    | none => exact ⟨'.', _, rfl, .inr rfl⟩
    | some hcs =>
      obtain ⟨d, cs', rfl, hd⟩ := hcs.head
      exact ⟨d, _, rfl, .inl hd⟩

theorem DecimalText.unsigned (h : DecimalText cs c e) : Unsigned cs where
  not_blank := by
    cases h with
    | whole hcs hes =>
      intro d hd
      rcases List.mem_append.1 hd with hd | hd
      · exact not_isBlank_of_run (hcs.mem d hd)
      · exact hes.not_blank d hd
    | point hcs hfs hne hes =>
      intro d hd
      simp only [List.mem_append, List.mem_cons] at hd
      rcases hd with hd | rfl | hd | hd
      · exact not_isBlank_of_run (hcs.mem d hd)
      · decide
      · exact not_isBlank_of_run (hfs.mem d hd)
      · exact hes.not_blank d hd
  not_sign d hd := by
    obtain ⟨d, cs', rfl, hdigit | rfl⟩ := h.head
    · cases hd
      exact not_sign_of_isDigit hdigit
    · cases hd
      decide

/-- A text of letters, in any case. -/
theorem isAlpha_of_word {word : List Char} (hcs : cs.map Char.toLower = word) (hword : word.all Char.isAlpha = true) :
    ∀ c ∈ cs, c.isAlpha = true := by
  intro c hc
  rw [← Char.isAlpha_toLower_eq_isAlpha]
  exact List.all_eq_true.1 hword _ (hcs ▸ List.mem_map_of_mem hc)

theorem unsigned_of_word {word : List Char} (hcs : cs.map Char.toLower = word) (hword : word.all Char.isAlpha = true) :
    Unsigned cs where
  not_blank c hc := not_isBlank_of_plain (.inl (by rw [Char.isAlphanum, isAlpha_of_word hcs hword c hc, Bool.true_or]))
  not_sign c hc := by
    have halpha := isAlpha_of_word hcs hword c (List.mem_of_head? hc)
    constructor <;> rintro rfl <;> exact absurd halpha (by decide)

/-- A decimal is no word. -/
theorem DecimalText.not_word {word : List Char} (h : DecimalText cs c e) (hword : word.all Char.isAlpha = true) :
    cs.map Char.toLower ≠ word := by
  intro hcs
  obtain ⟨d, cs', rfl, hd⟩ := h.head
  have halpha := isAlpha_of_word hcs hword d List.mem_cons_self
  rcases hd with hd | rfl
  · rw [not_isAlpha_of_isDigit hd] at halpha
    cases halpha
  · exact absurd halpha (by decide)

theorem SpellsDouble.not_blanks (h : SpellsDouble s x) : ¬Blanks s.toList := by
  cases h with
  | decimal hs hcs =>
    obtain ⟨d, cs', hcons, -⟩ := hcs.head
    exact hs.not_blanks hcs.unsigned (hcons ▸ List.cons_ne_nil d cs')
  | infinite hs hcs =>
    refine hs.not_blanks (hcs.elim (unsigned_of_word · (by decide)) (unsigned_of_word · (by decide))) ?_
    rintro rfl
    exact absurd hcs (by decide)
  | nan hs hcs =>
    refine hs.not_blanks (unsigned_of_word hcs (by decide)) ?_
    rintro rfl
    exact absurd hcs (by decide)

/-- **What is read as a double** is what is spelled. -/
theorem read?_eq_some : Binary64.read? s = some x ↔ SpellsDouble s x := by
  have hnan : "nan".toList.all Char.isAlpha = true := by decide
  have hinf : "inf".toList.all Char.isAlpha = true := by decide
  have hinfinity : "infinity".toList.all Char.isAlpha = true := by decide
  constructor
  · intro h
    have hs := signedText_unspaced s
    simp only [Binary64.read?, Binary64.isWordText, Bool.or_eq_true, beq_iff_eq] at h
    split at h
    · rename_i hword
      cases h
      exact .nan hs hword
    · split at h
      · rename_i hword
        cases h
        exact .infinite hs hword
      · obtain ⟨⟨c, e⟩, hce, rfl⟩ := Option.map_eq_some_iff.1 h
        exact .decimal hs (readFraction?_eq_some.1 hce) (Binary64.nearest_ofDecimal _ c e)
  · intro h
    cases h with
    | @decimal negative cs c e x hs hcs hx =>
      simp only [Binary64.read?, Binary64.isWordText, splitSign_unspaced hs hcs.unsigned, Bool.or_eq_true, beq_iff_eq,
        hcs.not_word hnan, hcs.not_word hinf, hcs.not_word hinfinity, readFraction?_eq_some.2 hcs, or_self, if_false,
        Option.map_some, Option.some.injEq]
      exact (Binary64.nearest_ofDecimal negative c e).unique hx
    | @infinite negative cs hs hcs =>
      have hunsigned : Unsigned cs := hcs.elim (unsigned_of_word · hinf) (unsigned_of_word · hinfinity)
      have hother : cs.map Char.toLower ≠ "nan".toList := by
        rcases hcs with hcs | hcs <;> rw [hcs] <;> decide
      simp only [Binary64.read?, Binary64.isWordText, splitSign_unspaced hs hunsigned, Bool.or_eq_true, beq_iff_eq]
      rw [if_neg hother, if_pos hcs]
    | @nan negative cs hs hcs =>
      simp only [Binary64.read?, Binary64.isWordText, splitSign_unspaced hs (unsigned_of_word hcs hnan), beq_iff_eq]
      rw [if_pos hcs]

end QueryCanvas.Numeral
