import QueryCanvas.Proofs.Sql.Magnitude
import QueryCanvas.Sql.Lexeme

/-!
# Pieces of a statement without a semicolon

The guard splits a text at its own lexemes, which are not those of the dialects: in a quoted text it takes
a backslash in front of a quote for an escape. `Passes piece stop` says that no lexeme of the guard in a
piece is a semicolon, and that none runs over the end of the piece where a character of `stop`, or the
end, follows. Pieces are put together with `Passes.append`.

* `passes_run`: words, blanks and signs of the grammar pass.
* `passes_name`, `passes_text`: a name or a text passes if it is calm, that is, if no backslash in it stands
  right before a quote or at its end (`isCalm`).
-/

namespace QueryCanvas.Sql

open Lexeme Numeral

/-- No lexeme of a text is a semicolon, whatever stands in front of the text. -/
def Unbroken (cs : List Char) : Prop :=
  ∀ before, ∀ l ∈ scanFrom before cs, l.kind ≠ .semicolon

/-- A piece brings no semicolon in where the end or a character of `stop` follows. -/
def Passes (piece : List Char) (stop : Char → Bool) : Prop :=
  ∀ rest, (∀ c, rest.head? = some c → stop c = true) → Unbroken rest → Unbroken (piece ++ rest)

/-- Whether no backslash stands right before a quote or at the end. -/
def isCalm (quote : Char) : List Char → Bool
  | [] => true
  | c :: cs => (c != '\\' || cs.head?.any (· != quote)) && isCalm quote cs

variable {d : Dialect} {p p' cs rest : List Char} {stop stop' : Char → Bool} {c q : Char}

/-! ## Putting pieces together -/

theorem unbroken_nil : Unbroken [] := by
  intro before l hl
  simp [scanFrom] at hl

/-- A text is unbroken lexeme by lexeme. -/
theorem Unbroken.cons
    (h : ∀ before, (kindAt before c cs).1 ≠ .semicolon ∧ Unbroken (cs.drop (kindAt before c cs).2)) :
    Unbroken (c :: cs) := by
  intro before l hl
  obtain ⟨hkind, hrest⟩ := h before
  rw [scanFrom] at hl
  rcases List.mem_cons.1 hl with rfl | hl
  · exact hkind
  · exact hrest _ l hl

theorem Passes.unbroken (h : Passes p stop) : Unbroken p := by
  have := h [] (by simp) unbroken_nil
  rwa [List.append_nil] at this

theorem passes_nil : Passes [] stop := fun _ _ hrest => hrest

theorem Passes.weaken (h : Passes p stop) (hstop : ∀ c, stop' c = true → stop c = true) : Passes p stop' :=
  fun rest hhead hrest => h rest (fun c hc => hstop c (hhead c hc)) hrest

/-- Two pieces pass one after the other if the second starts where the first may stop. -/
theorem Passes.append (h : Passes p stop) (h' : Passes (c :: p') stop') (hc : stop c = true) :
    Passes (p ++ c :: p') stop' := by
  intro rest hhead hrest
  rw [List.append_assoc]
  refine h (c :: p' ++ rest) (fun x hx => ?_) (h' rest hhead hrest)
  rwa [← Option.some.inj hx]

/-- A lexeme that makes up a whole piece. -/
theorem passes_lexeme
    (h : ∀ before rest, (∀ x, rest.head? = some x → stop x = true) →
      (kindAt before c (cs ++ rest)).1 ≠ .semicolon ∧ (kindAt before c (cs ++ rest)).2 = cs.length) :
    Passes (c :: cs) stop := by
  intro rest hhead hrest
  refine .cons fun before => ?_
  obtain ⟨hkind, hlength⟩ := h before rest hhead
  refine ⟨hkind, ?_⟩
  rwa [List.append_eq, hlength, List.drop_left]

/-! ## Runs -/

/-- The characters that no lexeme of a run goes on with. -/
def breaks : List Char :=
  [' ', '\n', ',', '(', ')', '.', '=', '!', '<', '>', '-', '+', '\x27', '"', '\x60']

/-- Whether no lexeme of a run goes on with a character. -/
def isBreak (c : Char) : Bool :=
  breaks.contains c

theorem eq_false_of_isBreak {f : Char → Bool} (hf : breaks.any f = false) (hc : isBreak c = true) :
    f c = false :=
  Bool.eq_false_iff.2 (List.any_eq_false.1 hf c (List.contains_iff_mem.1 hc))

/-- The signs that stand outside quotes. -/
def signs : List Char :=
  [' ', '\n', ',', '(', ')', '.', '=', '!', '<', '>', '*']

/-- Letters that have plain ones as variants. -/
def plainVariants : List Nat :=
  [304, 305, 383, 8490]

/-- Whether a character starts a word wherever it stands. -/
def startsWord (c : Char) : Bool :=
  c.isAlpha || c == '_' || plainVariants.contains c.toNat

/-- Whether a character may stand in a run of words, numbers and signs. -/
def isRunChar (c : Char) : Bool :=
  startsWord c || c.isDigit || signs.contains c

theorem length_takeWhile_append_le {f : Char → Bool} (h : ∀ x, rest.head? = some x → f x = false) :
    ((p ++ rest).takeWhile f).length ≤ p.length := by
  induction p with
  | nil =>
    cases rest with
    | nil => simp
    | cons x rest => simp [h x rfl]
  | cons x p ih =>
    rw [List.cons_append, List.takeWhile_cons]
    split
    · simpa using ih
    · simp

/-- What starts a word is a word character, and nothing else that the lexer looks for. -/
theorem of_startsWord (h : startsWord c = true) :
    Text.isWord c = true ∧ Text.isBlank c = false ∧ Text.isDigit c = false := by
  simp only [startsWord, Bool.or_eq_true, beq_iff_eq] at h
  rcases h with h | h
  · have hplain : c.isAlphanum = true ∨ c = '_' := h.imp_left fun h => by simp [Char.isAlphanum, h]
    have hrange : 58 ≤ c.toNat ∧ c.toNat < 128 := by
      rcases h with h | rfl
      · have := Text.isAlpha_iff.1 h
        omega
      · decide
    refine ⟨?_, Text.not_isBlank_of_plain hplain, ?_⟩
    · rw [Text.isWord, if_pos hrange.2]
      simpa using hplain
    · rw [Text.isDigit_low (by omega), Bool.eq_false_iff, ne_eq, Text.isDigit_iff]
      omega
  · have hvariants : ∀ n ∈ plainVariants, Text.isWord (Char.ofNat n) = true ∧
        Text.isBlank (Char.ofNat n) = false ∧ Text.isDigit (Char.ofNat n) = false := by
      decide +kernel
    have := hvariants c.toNat (List.contains_iff_mem.1 h)
    rwa [Char.ofNat_toNat] at this

/-- **A word** is one lexeme up to where it can go on no more. -/
theorem kindAt_word (before : Option Char) (h : startsWord c = true) (cs : List Char) :
    kindAt before c cs = wordKind cs := by
  obtain ⟨hword, hblank, hdigit⟩ := of_startsWord h
  have hne : ∀ x, startsWord x = false → c ≠ x := by
    rintro x hx rfl
    rw [h] at hx
    cases hx
  rw [kindAt, if_neg (by simp [hne '-' rfl, hne '#' rfl]), if_neg (by simp [hne '/' rfl]),
    if_neg (hne '\r' rfl), if_neg (hne '\n' rfl), if_neg (by simp [hblank]), if_neg (hne '\x27' rfl),
    if_neg (hne '"' rfl), if_neg (by simp [hne '\x60' rfl, hne '´' rfl]), if_neg (by simp [hne '$' rfl]),
    if_neg (by simp [hne '[' rfl]), if_neg (hne '(' rfl), if_neg (hne ')' rfl), if_neg (hne ';' rfl),
    if_neg (hne ',' rfl), if_neg (by simp [hdigit]), if_pos hword]

theorem kindAt_digit (before : Option Char) (h : c.isDigit = true) (cs : List Char) :
    kindAt before c cs = (.other, (cs.takeWhile Text.isDigit).length) := by
  have hdigits : ∀ n < 58, 48 ≤ n → Char.ofNat n ∈ ['0', '1', '2', '3', '4', '5', '6', '7', '8', '9'] := by
    decide
  obtain ⟨hlo, hhi⟩ := Text.isDigit_iff.1 h
  have hmem := hdigits c.toNat (by omega) hlo
  rw [Char.ofNat_toNat] at hmem
  simp only [List.mem_cons, List.not_mem_nil, or_false] at hmem
  rcases hmem with rfl | rfl | rfl | rfl | rfl | rfl | rfl | rfl | rfl | rfl <;> rfl

/-- **A lexeme that starts in a run** is no semicolon, and goes on with characters of one class, none of
which is a break. -/
theorem kindAt_run (before : Option Char) (h : isRunChar c = true) (cs : List Char) :
    (kindAt before c cs).1 ≠ .semicolon ∧
      ∃ f : Char → Bool, breaks.any f = false ∧ (kindAt before c cs).2 = (cs.takeWhile f).length := by
  simp only [isRunChar, Bool.or_eq_true] at h
  rcases h with (hword | hdigit) | hsign
  · rw [kindAt_word before hword, wordKind]
    split
    · exact ⟨nofun, Text.isWord, by decide, rfl⟩
    · exact ⟨nofun, continuesWord, by decide, rfl⟩
  · rw [kindAt_digit before hdigit]
    exact ⟨nofun, Text.isDigit, by decide, rfl⟩
  · have hnone : ∀ n, n = 0 → ∃ f : Char → Bool, breaks.any f = false ∧ n = (cs.takeWhile f).length :=
      fun n hn => ⟨fun _ => false, rfl, by cases cs <;> simp [hn]⟩
    simp only [signs, List.contains_iff_mem, List.mem_cons, List.not_mem_nil, or_false] at hsign
    rcases hsign with rfl | rfl | rfl | rfl | rfl | rfl | rfl | rfl | rfl | rfl | rfl <;>
      exact ⟨nofun, hnone _ rfl⟩

/-- **A run** of words, numbers and signs passes. -/
theorem passes_run (h : ∀ c ∈ p, isRunChar c = true) : Passes p isBreak := by
  intro rest hhead hrest
  induction hlen : p.length using Nat.strong_induction_on generalizing p with
  | _ n ih =>
    cases p with
    | nil => exact hrest
    | cons c p =>
      refine .cons fun before => ?_
      obtain ⟨hkind, f, hf, hlength⟩ := kindAt_run before (h c List.mem_cons_self) (p ++ rest)
      have hle : ((p ++ rest).takeWhile f).length ≤ p.length :=
        length_takeWhile_append_le fun x hx => eq_false_of_isBreak hf (hhead x hx)
      refine ⟨hkind, ?_⟩
      rw [List.append_eq, hlength, List.drop_append_of_le_length hle]
      refine ih _ ?_ (fun x hx => h x (List.mem_cons_of_mem c (List.mem_of_mem_drop hx))) rfl
      rw [List.length_drop, ← hlen, List.length_cons]
      omega

/-- A sign passes in front of anything but another one. -/
theorem Passes.signed {s : Char} (h : Passes (c :: p) stop) (hs : s = '-' ∨ s = '+')
    (hc : isOperatorSign c = false) : Passes (s :: c :: p) stop := by
  intro rest hhead hrest
  have hrest' := h rest hhead hrest
  have hminus : c ≠ '-' := by
    rintro rfl
    cases hc
  have hkind : ∀ before, kindAt before s (c :: p ++ rest) = (.other, 0) := by
    intro before
    rcases hs with rfl | rfl
    · rw [kindAt, if_neg (by simp [hminus])]
      rfl
    · have hplus : kindAt before '+' (c :: p ++ rest) =
          (.other, ((c :: p ++ rest).takeWhile isOperatorSign).length) := rfl
      rw [hplus, List.cons_append, List.takeWhile_cons, hc]
      rfl
  refine .cons fun before => ?_
  rw [List.append_eq, hkind before]
  exact ⟨nofun, hrest'⟩

/-! ## Numbers -/

theorem isRunChar_of_isDigit (h : c.isDigit = true) : isRunChar c = true := by
  simp [isRunChar, h]

theorem isOperatorSign_of_isRunChar (h : isRunChar c = true) : isOperatorSign c = false := by
  rw [Bool.eq_false_iff]
  intro hsign
  simp only [isOperatorSign, List.contains_iff_mem, List.mem_cons, List.not_mem_nil, or_false] at hsign
  rcases hsign with rfl | rfl | rfl | rfl | rfl | rfl | rfl | rfl | rfl <;> exact absurd h (by decide)

/-- A run with or without a minus in front of it. -/
theorem passes_signed_run {sign : List Char} (hsign : sign = [] ∨ sign = ['-']) (hp : p ≠ [])
    (h : ∀ c ∈ p, isRunChar c = true) : Passes (sign ++ p) isBreak := by
  rcases hsign with rfl | rfl
  · exact passes_run h
  · cases p with
    | nil => exact absurd rfl hp
    | cons c p =>
      exact (passes_run h).signed (.inl rfl) (isOperatorSign_of_isRunChar (h c List.mem_cons_self))

theorem isRunChar_of_isFraction (h : IsFraction p) : ∀ c ∈ p, isRunChar c = true := by
  cases h with
  | none => simp
  | point h => exact List.forall_mem_cons.2 ⟨rfl, fun c hc => isRunChar_of_isDigit (h.2 c hc)⟩

/-- **A numeral** passes. -/
theorem passes_numeral (h : IsNumeral p) : Passes p isBreak := by
  obtain ⟨hsign, hwhole, hfraction, hexponent⟩ := h
  rename_i sign whole fraction exponent
  have hdigits : ∀ {ds : List Char}, IsDigits ds → ∀ c ∈ ds, isRunChar c = true := fun hds c hc =>
    isRunChar_of_isDigit (hds.2 c hc)
  have hfront : ∀ c ∈ whole ++ fraction, isRunChar c = true :=
    List.forall_mem_append.2 ⟨hdigits hwhole, isRunChar_of_isFraction hfraction⟩
  cases hexponent with
  | none =>
    rw [List.append_nil]
    exact passes_signed_run hsign (by simp [hwhole.1]) hfront
  | @marked e s ds he hs hds =>
    obtain ⟨x, xs, rfl, hx⟩ := hds.head
    have hmark : isRunChar e = true := by rcases he with rfl | rfl <;> rfl
    have hfront' : ∀ c ∈ whole ++ fraction ++ [e], isRunChar c = true :=
      List.forall_mem_append.2 ⟨hfront, by simpa using hmark⟩
    have hexp : Passes (s :: x :: xs) isBreak := by
      refine (passes_run (hdigits hds)).signed hs (isOperatorSign_of_isRunChar (isRunChar_of_isDigit hx))
    have := (passes_signed_run hsign (by simp) hfront').append hexp (by rcases hs with rfl | rfl <;> rfl)
    simpa using this

theorem passes_float (x : Binary64) : Passes x.text.toList isBreak := by
  cases x with
  | finite negative m e => exact passes_numeral (isNumeral_float negative m e)
  | nan => exact passes_run (List.all_eq_true.1 rfl)
  | infinite negative =>
    cases negative with
    | false => exact passes_run (List.all_eq_true.1 rfl)
    | true => exact passes_signed_run (p := "inf".toList) (.inr rfl) (by decide) (List.all_eq_true.1 rfl)

theorem isRunChar_digitChar (n : Nat) : isRunChar n.digitChar = true := by
  have hsmall : ∀ n < 16, isRunChar n.digitChar = true := by decide
  by_cases hn : n < 16
  · exact hsmall n hn
  · have hstar : n.digitChar = '*' := by
      unfold Nat.digitChar
      repeat rw [if_neg (by omega)]
    rw [hstar]
    rfl

theorem passes_decimal (x : Decimal) : Passes x.text.toList isBreak := by
  have hsign : ∀ negative, Decimal.signText negative = [] ∨ Decimal.signText negative = ['-'] := by decide
  cases x with
  | finite negative c e => exact passes_numeral (isNumeral_decimal negative c e)
  | infinite negative =>
    rw [Decimal.text, String.toList_ofList]
    exact passes_signed_run (hsign negative) (by decide) (List.all_eq_true.1 rfl)
  | nan negative signaling payload =>
    have hword : ∀ c ∈ (if signaling then "sNaN" else "NaN").toList, isRunChar c = true := by
      cases signaling <;> exact List.all_eq_true.1 rfl
    have hpayload : ∀ c ∈ payload.map Nat.digitChar, isRunChar c = true := by
      intro c hc
      obtain ⟨n, -, rfl⟩ := List.mem_map.1 hc
      exact isRunChar_digitChar n
    rw [Decimal.text, String.toList_ofList, List.append_assoc]
    refine passes_signed_run (hsign negative) ?_ (List.forall_mem_append.2 ⟨hword, hpayload⟩)
    cases signaling <;> simp

/-! ## Quoted texts and names -/

theorem isCalm_of_not_mem (h : '\\' ∉ cs) : isCalm q cs = true := by
  induction cs with
  | nil => rfl
  | cons c cs ih =>
    simp only [List.mem_cons, not_or] at h
    simp [isCalm, Ne.symm h.1, ih h.2]

/-- A calm text is calm with its backslashes doubled. -/
theorem isCalm_doubled (hq : q ≠ '\\') (h : isCalm q cs = true) : isCalm q (doubled '\\' cs) = true := by
  induction cs with
  | nil => rfl
  | cons c cs ih =>
    simp only [isCalm, Bool.and_eq_true, Bool.or_eq_true, bne_iff_ne] at h
    obtain ⟨hc, hcs⟩ := h
    by_cases hslash : c = '\\'
    · subst hslash
      have hnext : (doubled '\\' cs).head?.any (· != q) = true := by
        cases cs with
        | nil => simp at hc
        | cons e cs =>
          have he : e ≠ q := by simpa using hc
          by_cases hslash' : e = '\\' <;> simp [doubled, hslash', he, hq.symm]
      have hbody : doubled '\\' ('\\' :: cs) = '\\' :: '\\' :: doubled '\\' cs := rfl
      rw [hbody, isCalm, isCalm, hnext, ih hcs]
      simp [hq.symm]
    · have hbody : doubled '\\' (c :: cs) = c :: doubled '\\' cs := by simp [doubled, hslash]
      rw [hbody, isCalm, ih hcs]
      simp [hslash]

/-- **The quote that closes** a calm text, its quotes doubled, is the one behind it. -/
theorem closingLength_doubled {escapes : Bool} (hq : q ≠ '\\') (hcalm : escapes = true → isCalm q cs = true)
    (hrest : rest.head? ≠ some q) :
    closingLength? q escapes (doubled q cs ++ q :: rest) = some ((doubled q cs).length + 1) := by
  induction cs with
  | nil =>
    cases rest with
    | nil => simp [doubled, closingLength?]
    | cons e rest =>
      have he : e ≠ q := fun he => hrest (by rw [he]; rfl)
      simp [doubled, closingLength?, he]
  | cons c cs ih =>
    have hcalm' : escapes = true → isCalm q cs = true := fun h => (Bool.and_eq_true_iff.1 (hcalm h)).2
    by_cases hc : c = q
    · subst hc
      have hbody : doubled c (c :: cs) = c :: c :: doubled c cs := by simp [doubled]
      rw [hbody, List.cons_append, List.cons_append, closingLength?, if_pos rfl, if_pos rfl, ih hcalm']
      rfl
    · have hbody : doubled q (c :: cs) = c :: doubled q cs := by simp [doubled, hc]
      -- What follows a backslash is no quote, neither one of the text nor the one that closes it.
      obtain ⟨e, es, hes, hescape⟩ : ∃ e es, doubled q cs ++ q :: rest = e :: es ∧
          ¬(escapes = true ∧ c = '\\' ∧ e = q) := by
        have hnext : escapes = true → c = '\\' → cs.head?.any (· != q) = true := by
          rintro h rfl
          simpa using (Bool.and_eq_true_iff.1 (hcalm h)).1
        cases cs with
        | nil => exact ⟨q, rest, rfl, fun h => by simpa using hnext h.1 h.2.1⟩
        | cons x xs =>
          by_cases hx : x = q
          · exact ⟨q, q :: (doubled q xs ++ q :: rest), by simp [doubled, hx],
              fun h => by simpa [hx] using hnext h.1 h.2.1⟩
          · exact ⟨x, doubled q xs ++ q :: rest, by simp [doubled, hx], fun h => hx h.2.2⟩
      rw [hes] at ih
      rw [hbody, List.cons_append, hes, closingLength?, if_neg hc, if_neg hescape, ih hcalm']
      rfl

/-- What is enclosed in quotes is one lexeme. -/
theorem passes_enclose (kind : LexemeKind) (escapes : Bool) (hkind : kind ≠ .semicolon) (hq : q ≠ '\\')
    (hcalm : escapes = true → isCalm q cs = true)
    (hquote : ∀ before cs, kindAt before q cs = quotedKind kind q escapes cs) :
    Passes (enclose q cs) (isQuoteStop q) := by
  rw [enclose, List.cons_append]
  refine passes_lexeme fun before rest hhead => ?_
  have hrest : rest.head? ≠ some q := fun h => by
    have := hhead q h
    simp [isQuoteStop] at this
  rw [hquote, List.append_assoc, List.singleton_append, quotedKind, closingLength_doubled hq hcalm hrest]
  simpa using hkind

/-- Whether a name is calm where a dialect quotes it. Backslashes never escape between backticks. -/
def isCalmName (d : Dialect) (n : String) : Bool :=
  d.nameQuote == '\x60' || isCalm d.nameQuote n.toList

/-- **A calm text** passes. -/
theorem passes_text (h : isCalm '\x27' cs = true) : Passes (textLiteral d cs) (isQuoteStop '\x27') := by
  refine passes_enclose .other true nofun (by decide) (fun _ => ?_) fun _ _ => rfl
  split
  · exact isCalm_doubled (by decide) h
  · exact h

theorem passes_quotedName {n : String} (h : isCalmName d n = true) :
    Passes (enclose d.nameQuote n.toList) (isQuoteStop d.nameQuote) := by
  cases d with
  | mysql => exact passes_enclose .name false nofun (by decide) nofun fun _ _ => rfl
  | _ => exact passes_enclose .name true nofun (by decide) (fun _ => h) fun _ _ => rfl

/-! ## Bare names -/

/-- A bare name has characters that start a word, digits, and dollars. -/
theorem isBareNameChar_iff : isBareNameChar c = true ↔ startsWord c = true ∨ c.isDigit = true ∨ c = '$' := by
  simp only [isBareNameChar, startsWord, plainVariants, Char.isAlphanum, Bool.or_eq_true, beq_iff_eq]
  tauto

theorem isWord_of_isBareNameChar (h : isBareNameChar c = true) (hdollar : c ≠ '$') : Text.isWord c = true := by
  rcases isBareNameChar_iff.1 h with h | h | h
  · exact (of_startsWord h).1
  · have := Text.isDigit_iff.1 h
    rw [Text.isWord, if_pos (by omega)]
    simp [Char.isAlphanum, h]
  · exact absurd h hdollar

/-- A bare name that is not made of word characters alone has a dollar behind those at its front. -/
theorem split_at_dollar (hcs : ∀ x ∈ cs, isBareNameChar x = true) (hall : ¬∀ x ∈ cs, Text.isWord x = true) :
    ∃ w xs, cs = w ++ '$' :: xs ∧ ∀ x ∈ w, Text.isWord x = true := by
  induction cs with
  | nil => exact absurd (by simp) hall
  | cons c cs ih =>
    obtain ⟨hc, hcs⟩ := List.forall_mem_cons.1 hcs
    by_cases hdollar : c = '$'
    · exact ⟨[], cs, by rw [hdollar]; rfl, by simp⟩
    · have hword := isWord_of_isBareNameChar hc hdollar
      obtain ⟨w, xs, rfl, hw⟩ := ih hcs fun h => hall (List.forall_mem_cons.2 ⟨hword, h⟩)
      exact ⟨c :: w, xs, rfl, List.forall_mem_cons.2 ⟨hword, hw⟩⟩

/-- **A bare name** is one lexeme. -/
theorem passes_bareName (hc : startsWord c = true) (hcs : ∀ x ∈ cs, isBareNameChar x = true) :
    Passes (c :: cs) isBreak := by
  refine passes_lexeme fun before rest hhead => ?_
  have hstop : ∀ f : Char → Bool, breaks.any f = false → ∀ x, rest.head? = some x → f x = false :=
    fun f hf x hx => eq_false_of_isBreak hf (hhead x hx)
  have hcontinues : (cs ++ rest).takeWhile continuesWord = cs := by
    refine takeWhile_append_stop (fun x hx => ?_) (hstop continuesWord (by decide))
    by_cases hdollar : x = '$'
    · simp [continuesWord, hdollar]
    · simp [continuesWord, isWord_of_isBareNameChar (hcs x hx) hdollar]
  rw [kindAt_word before hc, wordKind, hcontinues]
  by_cases hall : ∀ x ∈ cs, Text.isWord x = true
  · have hplain : (cs ++ rest).takeWhile Text.isWord = cs :=
      takeWhile_append_stop hall (hstop Text.isWord (by decide))
    rw [hplain]
    split <;> exact ⟨nofun, rfl⟩
  · have hname : makesName ((cs ++ rest).drop ((cs ++ rest).takeWhile Text.isWord).length) = false := by
      obtain ⟨w, xs, rfl, hw⟩ := split_at_dollar hcs hall
      rw [List.append_assoc, List.cons_append, takeWhile_append_stop hw (by simp; decide), List.drop_left]
      rfl
    simp only [hname]
    exact ⟨nofun, rfl⟩

/-- The characters that may follow an entry or a name. -/
def follows : List Char :=
  [' ', '\n', ',', ')', '.']

/-- Whether a character may follow an entry or a name. -/
def isFollow (c : Char) : Bool :=
  follows.contains c

/-- A piece that every character that follows an entry may follow. -/
theorem Passes.entry (h : Passes p stop) (hstop : follows.all stop = true) : Passes p isFollow :=
  h.weaken fun c hc => List.all_eq_true.1 hstop c (List.contains_iff_mem.1 hc)

/-- What a name that needs no quotes looks like: a bare name, possibly with a line break at its end. -/
theorem bare_of_not_needsQuotes {n : String} (h : needsQuotes d n = false) :
    ∃ c cs, (n.toList = c :: cs ∨ n.toList = c :: cs ++ ['\n']) ∧ startsWord c = true ∧
      ∀ x ∈ cs, isBareNameChar x = true := by
  simp only [needsQuotes, Bool.or_eq_false_iff, Bool.not_eq_false'] at h
  obtain ⟨⟨⟨-, hstart⟩, -⟩, hbare⟩ := h
  have hbody : ∀ body : List Char, (!body.isEmpty && body.all isBareNameChar) = true →
      (n.toList = body ∨ n.toList = body ++ ['\n']) →
      ∃ c cs, (n.toList = c :: cs ∨ n.toList = c :: cs ++ ['\n']) ∧ startsWord c = true ∧
        ∀ x ∈ cs, isBareNameChar x = true := by
    intro body hall hchars
    cases body with
    | nil => simp at hall
    | cons c cs =>
      simp only [List.isEmpty_cons, Bool.not_false, Bool.true_and, List.all_cons, Bool.and_eq_true,
        List.all_eq_true] at hall
      have hhead : n.toList.head? = some c := by
        rcases hchars with hchars | hchars <;> rw [hchars] <;> rfl
      rw [startsIllegally, hhead, Option.any_some, Bool.or_eq_false_iff, beq_eq_false_iff_ne] at hstart
      refine ⟨c, cs, hchars, ?_, hall.2⟩
      rcases isBareNameChar_iff.1 hall.1 with hc | hc | hc
      · exact hc
      · rw [hstart.1] at hc
        cases hc
      · exact absurd hc hstart.2
  rw [isBareName] at hbare
  by_cases hlast : n.toList.getLast? = some '\n'
  · rw [if_pos hlast] at hbare
    exact hbody _ hbare (.inr (List.dropLast_append_getLast? _ hlast).symm)
  · rw [if_neg hlast] at hbare
    exact hbody _ hbare (.inl rfl)

/-- **A calm name** passes, quoted or not. -/
theorem passes_name {n : String} (h : isCalmName d n = true) : Passes (nameChars d n) isFollow := by
  by_cases hquotes : needsQuotes d n = true
  · rw [nameChars, if_pos hquotes]
    exact (passes_quotedName h).entry (by cases d <;> decide)
  · rw [nameChars, if_neg hquotes]
    obtain ⟨c, cs, hchars, hc, hcs⟩ := bare_of_not_needsQuotes (Bool.eq_false_iff.2 hquotes)
    have hbare := passes_bareName hc hcs
    rcases hchars with hchars | hchars
    · rw [hchars]
      exact hbare.entry (by decide)
    · have hbreak : Passes ['\n'] isBreak := passes_run (List.all_eq_true.1 rfl)
      rw [hchars]
      exact (hbare.append hbreak (by decide)).entry (by decide)

/-- A written name starts with what is neither blank nor a point. -/
theorem head_nameChars (d : Dialect) (n : String) :
    ∃ c cs, nameChars d n = c :: cs ∧ Text.isBlank c = false ∧ c ≠ '.' := by
  by_cases hquotes : needsQuotes d n = true
  · rw [nameChars, if_pos hquotes]
    exact ⟨d.nameQuote, _, rfl, by cases d <;> decide, by cases d <;> decide⟩
  · rw [nameChars, if_neg hquotes]
    obtain ⟨c, cs, hchars, hc, -⟩ := bare_of_not_needsQuotes (Bool.eq_false_iff.2 hquotes)
    have hpoint : c ≠ '.' := by
      rintro rfl
      cases hc
    rcases hchars with hchars | hchars
    · exact ⟨c, cs, hchars, (of_startsWord hc).2.1, hpoint⟩
    · exact ⟨c, cs ++ ['\n'], hchars, (of_startsWord hc).2.1, hpoint⟩

end QueryCanvas.Sql
