import QueryCanvas.Sql.Dialect

/-!
# Tokens of a statement

How the backends split a statement into tokens, given apart from how statements are written.

* A text stands in single quotes; two of them inside stand for one. MySQL also reads escapes that
  start with a backslash.
* A name stands in the quotes of the dialect, doubled inside, or is a bare word that the dialect does
  not reserve; bare words are read in small letters.
* A numeral is a sign, digits, a fraction and an exponent, of which only the digits have to be there.
* Anything else but blanks and signs is no token, comments among them.
-/

namespace QueryCanvas.Sql

/-- A token of a statement, with what it stands for. -/
inductive Token where
  | keyword (word : String)
  | name (name : String)
  | text (text : String)
  | numeral (digits : String)
  | sign (sign : String)
  deriving DecidableEq, Repr

/-- Whether a character separates tokens. -/
def isSpace (c : Char) : Bool :=
  [' ', '\t', '\n', '\r'].contains c

/-- Whether a character may start a bare word. -/
def isWordStart (c : Char) : Bool :=
  c.isAlpha || c == '_' || 128 ≤ c.toNat

/-- Whether a character may stand inside a bare word. -/
def isWordChar (c : Char) : Bool :=
  c.isAlphanum || c == '_' || c == '$' || 128 ≤ c.toNat

/-- The token of a bare word. -/
def Token.ofWord (d : Dialect) (word : String) : Token :=
  let low := Text.lower word
  if d.reserved.contains low then .keyword low else .name low

/-- What a character stands for behind a backslash. -/
def unescaped : Char → List Char
  | '0' => ['\x00']
  | 'b' => ['\x08']
  | 'n' => ['\n']
  | 'r' => ['\r']
  | 't' => ['\t']
  | 'Z' => ['\x1a']
  | '%' => ['\\', '%']
  | '_' => ['\\', '_']
  | c => [c]

/-- What quotes hold, read up to the closing quote, and what follows it. -/
def readQuoted (q : Char) (escapes : Bool) : List Char → Option (List Char × List Char)
  | [] => none
  | [c] => if c = q then some ([], []) else none
  | c :: e :: rest =>
    if escapes && c == '\\' then (readQuoted q escapes rest).map fun (s, after) => (unescaped e ++ s, after)
    else if c = q then
      if e = q then (readQuoted q escapes rest).map fun (s, after) => (q :: s, after)
      else some ([], e :: rest)
    else (readQuoted q escapes (e :: rest)).map fun (s, after) => (c :: s, after)

/-- A sign at the front of a text and what follows it. -/
def readSign : List Char → List Char × List Char
  | '-' :: cs => (['-'], cs)
  | '+' :: cs => (['+'], cs)
  | cs => ([], cs)

/-- Whether a text starts with a plain digit. -/
def startsWithDigit (cs : List Char) : Bool :=
  cs.head?.any Char.isDigit

/-- The plain digits at the front of a text and what follows them. -/
def readDigits (cs : List Char) : List Char × List Char :=
  (cs.takeWhile Char.isDigit, cs.dropWhile Char.isDigit)

/-- The fraction at the front of a text, if there is one, and what follows it. -/
def readFraction (cs : List Char) : List Char × List Char :=
  match cs with
  | '.' :: rest =>
    if startsWithDigit rest then ('.' :: (readDigits rest).1, (readDigits rest).2) else ([], cs)
  | _ => ([], cs)

/-- The exponent at the front of a text, if there is one, and what follows it. -/
def readExponent (cs : List Char) : List Char × List Char :=
  match cs with
  | e :: rest =>
    let (sign, ds) := readSign rest
    if (e = 'e' ∨ e = 'E') ∧ startsWithDigit ds then (e :: sign ++ (readDigits ds).1, (readDigits ds).2)
    else ([], cs)
  | [] => ([], cs)

/-- The numeral at the front of a text and what follows it. -/
def readNumeral (cs : List Char) : List Char × List Char :=
  let (sign, rest) := readSign cs
  let (whole, rest) := readDigits rest
  let (fraction, rest) := readFraction rest
  let (exponent, rest) := readExponent rest
  (sign ++ whole ++ fraction ++ exponent, rest)

/-- The signs of two characters. -/
def doubleSigns : List (List Char) :=
  [['!', '='], ['<', '>'], ['<', '='], ['>', '=']]

/-- The signs of one character. -/
def singleSigns : List Char :=
  ['(', ')', ',', '.', '*', '=', '<', '>']

/-- The sign at the front of a text, the longest one, and what follows it. -/
def readPunctuation? (c : Char) (cs : List Char) : Option (Token × List Char) :=
  if doubleSigns.contains (c :: cs.take 1) then some (.sign (String.ofList (c :: cs.take 1)), cs.drop 1)
  else if singleSigns.contains c then some (.sign (String.singleton c), cs)
  else none

/-- The token that starts with a character, and what follows it. -/
def token? (d : Dialect) (c : Char) (cs : List Char) : Option (Token × List Char) :=
  if c = '\x27' then
    (readQuoted c d.escapesBackslash cs).map fun (s, rest) => (.text (String.ofList s), rest)
  else if c = d.nameQuote then
    (readQuoted c false cs).map fun (s, rest) => (.name (String.ofList s), rest)
  else if isWordStart c then
    some (.ofWord d (String.ofList ((c :: cs).takeWhile isWordChar)), (c :: cs).dropWhile isWordChar)
  else if startsWithDigit (readSign (c :: cs)).2 then
    let (digits, rest) := readNumeral (c :: cs)
    if rest.head?.any isWordChar then none else some (.numeral (String.ofList digits), rest)
  else readPunctuation? c cs

/-! ## Progress -/

theorem readQuoted_length {q : Char} {escapes : Bool} {cs s after : List Char}
    (h : readQuoted q escapes cs = some (s, after)) : after.length ≤ cs.length := by
  fun_induction readQuoted q escapes cs generalizing s after with
  | case1 => cases h
  | case2 => cases h; simp
  | case3 => cases h
  | case4 c e rest _ ih =>
    obtain ⟨⟨s', after'⟩, hread, heq⟩ := Option.map_eq_some_iff.1 h
    cases heq
    have := ih hread
    simp only [List.length_cons]
    omega
  | case5 e rest ih =>
    obtain ⟨⟨s', after'⟩, hread, heq⟩ := Option.map_eq_some_iff.1 h
    cases heq
    have := ih hread
    simp only [List.length_cons]
    omega
  | case6 => cases h; simp
  | case7 c e rest _ _ ih =>
    obtain ⟨⟨s', after'⟩, hread, heq⟩ := Option.map_eq_some_iff.1 h
    cases heq
    have := ih hread
    simp only [List.length_cons] at this ⊢
    omega

theorem length_readSign (cs : List Char) : (readSign cs).2.length ≤ cs.length := by
  unfold readSign
  split <;> simp

theorem length_readDigits (cs : List Char) : (readDigits cs).2.length ≤ cs.length :=
  (List.dropWhile_suffix _).length_le

theorem length_readFraction (cs : List Char) : (readFraction cs).2.length ≤ cs.length := by
  unfold readFraction
  split
  · rename_i rest
    split
    · have := length_readDigits rest
      simp only [List.length_cons]
      omega
    · exact Nat.le_refl _
  · exact Nat.le_refl _

theorem length_readExponent (cs : List Char) : (readExponent cs).2.length ≤ cs.length := by
  unfold readExponent
  split
  · rename_i e rest
    have hsign := length_readSign rest
    have hdigits := length_readDigits (readSign rest).2
    simp only []
    split
    · simp only [List.length_cons]
      omega
    · exact Nat.le_refl _
  · exact Nat.le_refl _

/-- Reading digits makes progress where there is one. -/
theorem length_readDigits_lt {cs : List Char} (h : startsWithDigit cs = true) :
    (readDigits cs).2.length < cs.length := by
  cases cs with
  | nil => cases h
  | cons c cs =>
    have hc : c.isDigit = true := h
    have hle := (List.dropWhile_suffix Char.isDigit (l := cs)).length_le
    rw [readDigits, List.dropWhile_cons_of_pos hc, List.length_cons]
    exact Nat.lt_succ_of_le hle

theorem length_readNumeral_lt {cs : List Char} (h : startsWithDigit (readSign cs).2 = true) :
    (readNumeral cs).2.length < cs.length := by
  have hsign := length_readSign cs
  have hdigits := length_readDigits_lt h
  have hfraction := length_readFraction (readDigits (readSign cs).2).2
  have hexponent := length_readExponent (readFraction (readDigits (readSign cs).2).2).2
  simp only [readNumeral]
  omega

/-- Each token takes at least one character. -/
theorem length_token? {d : Dialect} {c : Char} {cs rest : List Char} {t : Token}
    (h : token? d c cs = some (t, rest)) : rest.length ≤ cs.length := by
  unfold token? at h
  split at h
  · obtain ⟨⟨s, after⟩, hread, heq⟩ := Option.map_eq_some_iff.1 h
    cases heq
    exact readQuoted_length hread
  split at h
  · obtain ⟨⟨s, after⟩, hread, heq⟩ := Option.map_eq_some_iff.1 h
    cases heq
    exact readQuoted_length hread
  split at h
  · rename_i hstart
    cases h
    have hword : isWordChar c = true := by
      simp only [isWordStart, isWordChar, Char.isAlphanum, Bool.or_eq_true] at hstart ⊢
      rcases hstart with (h | h) | h <;> simp [h]
    rw [List.dropWhile_cons_of_pos hword]
    exact (List.dropWhile_suffix _).length_le
  split at h
  · rename_i hdigit
    have := length_readNumeral_lt hdigit
    simp only [] at h
    split at h
    · cases h
    · cases h
      exact Nat.le_of_lt_succ this
  · unfold readPunctuation? at h
    split at h
    · cases h
      simp
    split at h
    · cases h
      exact Nat.le_refl _
    · cases h

/-- **The tokens of a text**, none if something in it is no token. -/
def lex (d : Dialect) : List Char → Option (List Token)
  | [] => some []
  | c :: cs =>
    if isSpace c then lex d cs
    else
      match _h : token? d c cs with
      | none => none
      | some (t, rest) => (lex d rest).map (t :: ·)
  termination_by cs => cs.length
  decreasing_by
    · exact Nat.lt_succ_self _
    · exact Nat.lt_succ_of_le (length_token? _h)

variable {d : Dialect} {c : Char} {cs rest : List Char} {t : Token}

@[simp] theorem lex_nil : lex d [] = some [] := by
  rw [lex]

theorem lex_space (h : isSpace c = true) : lex d (c :: cs) = lex d cs := by
  rw [lex, if_pos h]

/-- A token is read off the front, and the rest is read on its own. -/
theorem lex_token (hc : isSpace c = false) (h : token? d c cs = some (t, rest)) :
    lex d (c :: cs) = (lex d rest).map (t :: ·) := by
  rw [lex, if_neg (by simp [hc])]
  split
  · rename_i hnone
    rw [hnone] at h
    cases h
  · rename_i hsome
    rw [hsome] at h
    cases h
    rfl

end QueryCanvas.Sql
