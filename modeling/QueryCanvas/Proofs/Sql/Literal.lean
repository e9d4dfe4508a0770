import QueryCanvas.Proofs.Part.Admission
import QueryCanvas.Proofs.Sql.Compile

/-!
# What operands are written as

An operand that a filter may hold is written as one literal: a text in quotes, a numeral or a truth value. That
goes for operands of any kind, since whatever has no literal of its own is written as a text. Two kinds of
numbers are left out: whole numbers that are too long are not written at all, and an infinity or NaN is
written as a bare word, which is no literal.

* `Token.isLiteral`: whether a token stands for a value.
* `reads_single`: what is written for a single value is read as its literal.
* `literal_nonFinite`, `not_literal_of_initial`: what is written for an infinity or NaN is a bare word.
* `operand_written`: how each operand of a reachable canvas is written.
-/

namespace QueryCanvas

/-- Operands that are admitted are single values. -/
theorem FilterOperator.Admits.isSingle {o : FilterOperator} {u : FilterValue} {v : Value} (h : o.Admits u)
    (hv : v ∈ u.operands) : v.isSingle = true := by
  cases u with
  | none => cases hv
  | scalar w =>
    obtain rfl := List.mem_singleton.1 hv
    exact h.2.2.2
  | list ws => exact h.2.2 v hv
  | range lo hi =>
    rcases List.mem_pair.1 hv with rfl | rfl
    · exact h.2.1
    · exact h.2.2

namespace Sql

open Numeral Canvas

/-- **Whether a token stands for a value**: a text, a numeral or a truth value. -/
def Token.isLiteral : Token → Bool
  | .text _ | .numeral _ => true
  | .keyword word => word = "true" || word = "false"
  | .name _ | .sign _ => false

/-- Whether a number is an infinity or NaN. -/
def isNonFinite : Value → Bool
  | .float .nan | .float (.infinite _) | .decimal (.infinite _) | .decimal (.nan ..) => true
  | _ => false

/-- A text that starts with a bare word, possibly behind a minus. -/
def IsBareWord (cs : List Char) : Prop :=
  ∃ sign ∈ [[], ['-']], ∃ c rest, cs = sign ++ c :: rest ∧ isWordStart c = true

/-- One literal, and nothing else. -/
def IsOneLiteral (d : Dialect) (cs : List Char) : Prop :=
  ∃ t, lex d cs = some [t] ∧ t.isLiteral = true

variable {d : Dialect} {cat : Catalog} {f : Filter} {v : Value} {c : Char} {cs rest : List Char}

/-! ## Literals -/

/-- The token of a single value is a literal if the value is not a number that is not finite. -/
theorem isLiteral_literalTokens (d : Dialect) (hv : v.isSingle = true) (hfinite : isNonFinite v = false) :
    ∃ t, literalTokens d v = [t] ∧ t.isLiteral = true := by
  cases v with
  | bool b => cases d <;> cases b <;> exact ⟨_, rfl, by decide⟩
  | null | list | tuple | record | unordered => cases hv
  | _ => exact ⟨_, rfl, rfl⟩

/-- **A single value** is written as its literal. -/
theorem reads_single (hv : v.isSingle = true) (hfinite : isNonFinite v = false) :
    Reads d (literal d v) (literalTokens d v) isStop := by
  cases v with
  | torn | range | object => exact reads_textString _
  | null | list | tuple | record | unordered => cases hv
  | float x =>
    cases x with
    | finite => exact reads_literal trivial
    | _ => cases hfinite
  | decimal x =>
    cases x with
    | finite => exact reads_literal trivial
    | _ => cases hfinite
  | _ => exact reads_literal trivial

/-! ## Bare words -/

/-- The characters that the words for infinities and NaN start with. -/
def nonFiniteInitials : List Char :=
  ['i', 'I', 'n', 'N', 's']

/-- What is written for an infinity or NaN. -/
theorem literal_nonFinite (d : Dialect) (h : isNonFinite v = true) :
    ∃ sign ∈ [[], ['-']], ∃ c ∈ nonFiniteInitials, ∃ rest, literal d v = sign ++ c :: rest := by
  have hsign : ∀ negative, Decimal.signText negative ∈ [[], ['-']] := by decide
  cases v with
  | float x =>
    cases x with
    | finite => cases h
    | nan => exact ⟨[], by simp, 'n', by decide, _, rfl⟩
    | infinite negative =>
      cases negative with
      | false => exact ⟨[], by simp, 'i', by decide, _, rfl⟩
      | true => exact ⟨['-'], by simp, 'i', by decide, _, rfl⟩
  | decimal x =>
    cases x with
    | finite => cases h
    | infinite negative =>
      refine ⟨_, hsign negative, 'I', by decide, "nfinity".toList, ?_⟩
      rw [literal, Decimal.text, String.toList_ofList]
      rfl
    | nan negative signaling payload =>
      have hword : ∃ c ∈ nonFiniteInitials, ∃ rest, (if signaling then "sNaN" else "NaN").toList = c :: rest := by
        cases signaling
        · exact ⟨'N', by decide, _, rfl⟩
        · exact ⟨'s', by decide, _, rfl⟩
      obtain ⟨c, hc, rest, hrest⟩ := hword
      refine ⟨_, hsign negative, c, hc, rest ++ payload.map Nat.digitChar, ?_⟩
      rw [literal, Decimal.text, String.toList_ofList, hrest, List.append_assoc, List.cons_append]
  | _ => cases h

theorem isWordStart_of_initial (hc : c ∈ nonFiniteInitials) : isWordStart c = true := by
  simp only [nonFiniteInitials, List.mem_cons, List.not_mem_nil, or_false] at hc
  rcases hc with rfl | rfl | rfl | rfl | rfl <;> decide

/-- In small letters such a word starts like none of the truth values. -/
theorem head_lower_of_initial (hc : c ∈ nonFiniteInitials) :
    (Text.lower (String.ofList (c :: cs))).toList.head? ∈ [some 'i', some 'n', some 's'] := by
  rw [Text.lower, String.toList_ofList, String.toList_ofList, Text.lowerFrom]
  simp only [nonFiniteInitials, List.mem_cons, List.not_mem_nil, or_false] at hc
  rcases hc with rfl | rfl | rfl | rfl | rfl <;> rw [if_neg (by decide), if_neg (by decide), List.head?_cons] <;> decide

/-- The token of such a word is a name or another keyword than the truth values. -/
theorem not_isLiteral_ofWord (hc : c ∈ nonFiniteInitials) (d : Dialect) :
    (Token.ofWord d (String.ofList (c :: cs))).isLiteral = false := by
  have hhead : (Text.lower (String.ofList (c :: cs))).toList.head? ∈ [some 'i', some 'n', some 's'] :=
    head_lower_of_initial hc
  simp only [Token.ofWord]
  generalize Text.lower (String.ofList (c :: cs)) = low at hhead
  have hword : ∀ w : String, w.toList.head? ∉ [some 'i', some 'n', some 's'] → low ≠ w := by
    rintro w hw rfl
    exact hw hhead
  split
  · simp [Token.isLiteral, hword "true" (by decide), hword "false" (by decide)]
  · rfl

/-- A minus in front of a word is no token. -/
theorem lex_minus_word (hc : isWordStart c = true) : lex d ('-' :: c :: rest) = none := by
  have hdigit : c.isDigit = false := by
    rw [Bool.eq_false_iff]
    intro hdigit
    have hrange := Text.isDigit_iff.1 hdigit
    simp only [isWordStart, Bool.or_eq_true, Text.isAlpha_iff, beq_iff_eq, decide_eq_true_eq] at hc
    rcases hc with (hc | rfl) | hc
    · omega
    · exact absurd hdigit (by decide)
    · omega
  have hpunctuation : readPunctuation? '-' (c :: rest) = none := by
    rw [readPunctuation?, if_neg, if_neg (by decide)]
    simp [doubleSigns]
  have htoken : token? d '-' (c :: rest) = none := by
    rw [token?, if_neg (by decide), if_neg (by cases d <;> decide), if_neg (by decide), if_neg, hpunctuation]
    simp [readSign, startsWithDigit, hdigit]
  rw [lex, if_neg (by decide)]
  split
  · rfl
  · rename_i hsome
    rw [htoken] at hsome
    cases hsome

/-- **A bare word is no literal**, nor is one behind a minus. -/
theorem not_literal_of_initial {sign : List Char} (hsign : sign ∈ [[], ['-']]) (hc : c ∈ nonFiniteInitials) :
    ¬IsOneLiteral d (sign ++ c :: rest) := by
  rintro ⟨t, hlex, ht⟩
  have hstart := isWordStart_of_initial hc
  simp only [List.mem_cons, List.not_mem_nil, or_false] at hsign
  rcases hsign with rfl | rfl
  · rw [List.nil_append, lex_word hstart, Option.map_eq_some_iff] at hlex
    obtain ⟨ts, -, hlex⟩ := hlex
    obtain ⟨rfl, -⟩ := List.cons.inj hlex
    rw [List.takeWhile_cons_of_pos (isWordChar_of_isWordStart hstart), not_isLiteral_ofWord hc] at ht
    cases ht
  · rw [List.singleton_append, lex_minus_word hstart] at hlex
    cases hlex

/-! ## Operands -/

theorem rendered_of_isWritable (h : isWritable v = true) : rendered d v = .ok (literal d v) := by
  rw [rendered, writable, if_pos h]
  rfl

theorem rendered_of_not_isWritable (h : isWritable v = false) : rendered d v = .error .written := by
  rw [rendered, writable, if_neg (by simp [h])]
  rfl

/-- **Operands as literals.** Every operand of a filter that edits lead to is written, in every dialect, as one
literal, which is read as the token of the operand. Only a whole number that is too long is not written, and
an infinity or NaN is written as a bare word, which is no literal. -/
theorem operand_written {draft : Draft} (h : Reachable cat draft) (hf : f ∈ draft.canvas.filters)
    (hv : v ∈ f.value.operands) (d : Dialect) :
    (isWritable v = false → rendered d v = .error .written) ∧
    (isNonFinite v = true → ∃ cs, rendered d v = .ok cs ∧ IsBareWord cs ∧ ¬IsOneLiteral d cs) ∧
    (isWritable v = true → isNonFinite v = false → ∃ cs, rendered d v = .ok cs ∧ IsOneLiteral d cs ∧
      lex d cs = some (literalTokens d v)) := by
  have hsingle := (FilterValue.check_iff_admits.1 (h.sound.rebuilds f hf)).isSingle hv
  refine ⟨rendered_of_not_isWritable, fun hinfinite => ?_, fun hwritable hfinite => ?_⟩
  · have hwritable : isWritable v = true := by
      cases v with
      | float | decimal => rfl
      | _ => cases hinfinite
    obtain ⟨sign, hsign, c, hc, rest, hchars⟩ := literal_nonFinite d hinfinite
    refine ⟨_, rendered_of_isWritable hwritable, ?_, ?_⟩
    · exact ⟨sign, hsign, c, rest, hchars, isWordStart_of_initial hc⟩
    · rw [hchars]
      exact not_literal_of_initial hsign hc
  · have hread : lex d (literal d v) = some (literalTokens d v) := (reads_single hsingle hfinite).lex_eq
    obtain ⟨t, ht, hliteral⟩ := isLiteral_literalTokens d hsingle hfinite
    exact ⟨_, rendered_of_isWritable hwritable, ⟨t, hread.trans (congrArg some ht), hliteral⟩, hread⟩

/-- A draft with a filter that compares a numeric column with a value. -/
def measuringDraft (v : Value) : Draft :=
  performAll shop
    [.addTable (.text "orders"),
     .addFilter (.text "orders") (.text "total") (.text "equals") v .null]
    (opened (.text "Q") .null .fresh)

theorem filters_measuringDraft (hv : v.isSingle = true) : (measuringDraft v).canvas.filters =
    [⟨"id-2", "orders", "total", .equals, .scalar v, none⟩] := by
  cases v with
  | null | list | tuple | record | unordered => cases hv
  | _ => cbv

theorem reachable_measuringDraft (v : Value) : Reachable shop (measuringDraft v) :=
  reachable_performAll _ (.text "Q") .null .fresh

theorem operand_measuringDraft (hv : v.isSingle = true) :
    ∃ f ∈ (measuringDraft v).canvas.filters, v ∈ f.value.operands := by
  rw [filters_measuringDraft hv]
  exact ⟨_, List.mem_singleton_self _, List.mem_singleton_self _⟩

/-- A small decimal is written in exponent notation. -/
theorem operand_written_small_decimal :
    Reachable shop (measuringDraft (.decimal (.finite true 15 (-9)))) ∧
      (∃ f ∈ (measuringDraft (.decimal (.finite true 15 (-9)))).canvas.filters,
        .decimal (.finite true 15 (-9)) ∈ f.value.operands) ∧
      ∃ cs, rendered .mysql (.decimal (.finite true 15 (-9))) = .ok cs ∧ IsOneLiteral .mysql cs ∧
        lex .mysql cs = some [.numeral "-1.5E-8"] := by
  obtain ⟨f, hf, hv⟩ := operand_measuringDraft (v := .decimal (.finite true 15 (-9))) rfl
  obtain ⟨cs, hcs, hone, hlex⟩ := (operand_written (reachable_measuringDraft _) hf hv .mysql).2.2 rfl rfl
  refine ⟨reachable_measuringDraft _, ⟨f, hf, hv⟩, cs, hcs, hone, hlex.trans ?_⟩
  decide +kernel

/-- **An infinity is read as a name**, although a filter may hold it. -/
theorem infinite_operand_named :
    Reachable shop (measuringDraft (.float (.infinite false))) ∧
      (∃ f ∈ (measuringDraft (.float (.infinite false))).canvas.filters, .float (.infinite false) ∈ f.value.operands) ∧
      ∀ d, rendered d (.float (.infinite false)) = .ok "inf".toList ∧ lex d "inf".toList = some [.name "inf"] := by
  refine ⟨reachable_measuringDraft _, operand_measuringDraft rfl, fun d => ⟨rfl, ?_⟩⟩
  have hread : Reads d "inf".toList [.ofWord d "inf"] isStop := reads_wordEntry rfl
  rw [hread.lex_eq]
  cases d <;> decide +kernel

end Sql

end QueryCanvas
