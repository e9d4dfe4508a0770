import QueryCanvas.Proofs.Sql.Lexer
import QueryCanvas.Proofs.Text.Character
import QueryCanvas.Sql.Statement
import Mathlib.Data.List.Forall2

/-!
# Pieces of a statement and their tokens

`Reads d piece tokens stop` says that a piece of text is read as the given tokens wherever a character of
`stop`, or the end, follows it. Pieces are put together with `Reads.append`, so that a statement is
read piece by piece, and no token runs over the end of its piece.

* `reads_text`: a text literal is one text token, whatever the text holds.
* `reads_name`: a written name is one name token, quoted or not, if it has no line break at its end.
* `Reads.word`: a word of the grammar is one token.
* `reads_separated`: entries (`Entries`) with separators between them are read one after the other.
-/

namespace QueryCanvas.Sql

/-- A piece is read as the given tokens where the end or a character of `stop` follows. -/
def Reads (d : Dialect) (piece : List Char) (tokens : List Token) (stop : Char → Bool) : Prop :=
  ∀ rest us, (∀ c, rest.head? = some c → stop c = true) → lex d rest = some us →
    lex d (piece ++ rest) = some (tokens ++ us)

/-- The characters that may follow an entry of a statement. -/
def stops : List Char :=
  [' ', '\n', ',', ')']

/-- Whether a character may follow an entry of a statement. -/
def isStop (c : Char) : Bool :=
  stops.contains c

variable {d : Dialect} {p p' cs rest : List Char} {ts ts' : List Token} {stop stop' : Char → Bool} {c : Char}

/-! ## Putting pieces together -/

/-- A whole text is read with the end behind it. -/
theorem Reads.lex_eq (h : Reads d p ts stop) : lex d p = some ts := by
  have := h [] [] (by simp) lex_nil
  rwa [List.append_nil, List.append_nil] at this

theorem reads_nil : Reads d [] [] stop := fun _ _ _ hrest => hrest

theorem Reads.weaken (h : Reads d p ts stop) (hstop : ∀ c, stop' c = true → stop c = true) :
    Reads d p ts stop' :=
  fun rest us hhead hrest => h rest us (fun c hc => hstop c (hhead c hc)) hrest

/-- Two pieces are read one after the other if the second starts where the first may stop. -/
theorem Reads.append (h : Reads d p ts stop) (h' : Reads d (c :: p') ts' stop') (hc : stop c = true) :
    Reads d (p ++ c :: p') (ts ++ ts') stop' := by
  intro rest us hhead hrest
  rw [List.append_assoc, List.append_assoc]
  refine h (c :: p' ++ rest) (ts' ++ us) (fun x hx => ?_) (h' rest us hhead hrest)
  rwa [← Option.some.inj hx]

/-- A blank is no token, and any piece may follow it. -/
theorem Reads.space (h : Reads d p ts stop) (hc : isSpace c = true) : Reads d (c :: p) ts stop := by
  intro rest us hhead hrest
  rw [List.cons_append, lex_space hc]
  exact h rest us hhead hrest

/-! ## Signs -/

theorem token?_punctuation (hquote : c ≠ '\x27') (hname : c ≠ d.nameQuote) (hword : isWordStart c = false)
    (hdigit : startsWithDigit (readSign (c :: cs)).2 = false) : token? d c cs = readPunctuation? c cs := by
  rw [token?, if_neg hquote, if_neg hname, if_neg (by simp [hword]), if_neg (by simp [hdigit])]

/-- A token that ends where the next piece starts. -/
theorem Reads.token {t : Token} (h : Reads d p ts stop) (c : Char) (cs : List Char) (hc : isSpace c = false)
    (htoken : ∀ rest, token? d c (cs ++ (p ++ rest)) = some (t, p ++ rest)) :
    Reads d (c :: cs ++ p) (t :: ts) stop := by
  intro rest us hhead hrest
  rw [List.append_assoc, List.cons_append, lex_token hc (htoken rest), h rest us hhead hrest]
  rfl

/-- A sign that starts no longer one stands for itself, whatever follows it. -/
theorem Reads.sign (h : Reads d p ts stop) (hc : c ∈ ['(', ')', ',', '.', '*', '=']) :
    Reads d (c :: p) (.sign (String.singleton c) :: ts) stop := by
  simp only [List.mem_cons, List.not_mem_nil, or_false] at hc
  rcases hc with rfl | rfl | rfl | rfl | rfl | rfl <;>
    refine h.token _ [] (by decide) fun rest => ?_ <;>
    rw [token?_punctuation (by decide) (by cases d <;> decide) rfl rfl] <;>
    simp [readPunctuation?, doubleSigns, singleSigns]

/-- A comparison with a blank behind it stands for itself. -/
theorem Reads.comparison (op : Comparison) (h : Reads d (' ' :: p) ts stop) :
    Reads d (op.sign.toList ++ ' ' :: p) (.sign op.sign :: ts) stop := by
  cases op with
  | notEqual =>
    refine h.token '!' ['='] (by decide) fun rest => ?_
    rw [token?_punctuation (by decide) (by cases d <;> decide) rfl rfl]
    rfl
  | equal => exact h.sign (by decide)
  | greater =>
    refine h.token '>' [] (by decide) fun rest => ?_
    rw [token?_punctuation (by decide) (by cases d <;> decide) rfl rfl]
    rfl
  | less =>
    refine h.token '<' [] (by decide) fun rest => ?_
    rw [token?_punctuation (by decide) (by cases d <;> decide) rfl rfl]
    rfl

/-! ## Words, names and texts -/

section Spans

variable {α : Type} {q : α → Bool} {l r : List α}

theorem takeWhile_append_stop (hl : ∀ a ∈ l, q a = true) (hr : ∀ a, r.head? = some a → q a = false) :
    (l ++ r).takeWhile q = l := by
  rw [List.takeWhile_append_of_pos hl]
  cases r with
  | nil => simp
  | cons a r => simp [hr a rfl]

theorem dropWhile_append_stop (hl : ∀ a ∈ l, q a = true) (hr : ∀ a, r.head? = some a → q a = false) :
    (l ++ r).dropWhile q = r := by
  rw [List.dropWhile_append_of_pos hl]
  cases r with
  | nil => rfl
  | cons a r => simp [hr a rfl]

theorem intercalate_nil_left (l : List (List α)) : [].intercalate l = l.flatten := by
  induction l with
  | nil => rfl
  | cons a l ih =>
    cases l with
    | nil => simp
    | cons b l =>
      rw [List.intercalate_cons_cons, ih, List.append_nil]
      rfl

end Spans

/-- The characters that may follow a bare word. -/
def isWordStop (c : Char) : Bool :=
  !isWordChar c

theorem isWordChar_of_isWordStart (h : isWordStart c = true) : isWordChar c = true := by
  simp only [isWordStart, isWordChar, Char.isAlphanum, Bool.or_eq_true] at h ⊢
  rcases h with (h | h) | h <;> simp [h]

/-- A character that starts a bare word starts nothing else. -/
theorem lex_word (hc : isWordStart c = true) :
    lex d (c :: cs) = (lex d ((c :: cs).dropWhile isWordChar)).map
      (.ofWord d (String.ofList ((c :: cs).takeWhile isWordChar)) :: ·) := by
  have hquote : c ≠ '\x27' := by
    rintro rfl
    exact absurd hc (by decide)
  have hname : c ≠ d.nameQuote := by
    rintro rfl
    cases d <;> exact absurd hc (by decide)
  have hspace : isSpace c = false := by
    rw [Bool.eq_false_iff]
    intro hspace
    simp only [isSpace, List.contains_iff_mem, List.mem_cons, List.not_mem_nil, or_false] at hspace
    rcases hspace with rfl | rfl | rfl | rfl <;> exact absurd hc (by decide)
  refine lex_token hspace ?_
  rw [token?, if_neg hquote, if_neg hname, if_pos hc]

/-- **A bare word** is one token. -/
theorem reads_word (hc : isWordStart c = true) (hcs : ∀ x ∈ cs, isWordChar x = true) :
    Reads d (c :: cs) [.ofWord d (String.ofList (c :: cs))] isWordStop := by
  intro rest us hhead hrest
  have hall : ∀ x ∈ c :: cs, isWordChar x = true :=
    List.forall_mem_cons.2 ⟨isWordChar_of_isWordStart hc, hcs⟩
  have hstop : ∀ x, rest.head? = some x → isWordChar x = false := fun x hx => by
    simpa [isWordStop] using hhead x hx
  rw [List.cons_append, lex_word hc, ← List.cons_append, takeWhile_append_stop hall hstop,
    dropWhile_append_stop hall hstop, hrest]
  rfl

theorem readQuoted_plain {q : Char} {escapes : Bool} (hslash : (escapes && c == '\\') = false) (hc : c ≠ q)
    (hcs : cs ≠ []) :
    readQuoted q escapes (c :: cs) = (readQuoted q escapes cs).map fun (s, after) => (c :: s, after) := by
  cases cs with
  | nil => exact absurd rfl hcs
  | cons e cs => simp [readQuoted, hslash, hc]

/-- What is written between quotes, quotes and escapes doubled, is read back. -/
theorem readQuoted_doubled {q : Char} {escapes : Bool} (hq : q ≠ '\\') (hrest : rest.head? ≠ some q) :
    readQuoted q escapes (doubled q (if escapes then doubled '\\' cs else cs) ++ q :: rest) =
      some (cs, rest) := by
  have hquote : (escapes && q == '\\') = false := by simp [hq]
  induction cs with
  | nil =>
    have hnil : doubled q (if escapes then doubled '\\' [] else []) = [] := by cases escapes <;> rfl
    rw [hnil, List.nil_append]
    cases rest with
    | nil => simp [readQuoted]
    | cons e rest =>
      have he : e ≠ q := fun he => hrest (by rw [he]; rfl)
      simp [readQuoted, hquote, he]
  | cons c cs ih =>
    by_cases hslash : (escapes && c == '\\') = true
    · obtain ⟨rfl, rfl⟩ : escapes = true ∧ c = '\\' := by simpa using hslash
      have hbody : doubled q (doubled '\\' ('\\' :: cs)) = '\\' :: '\\' :: doubled q (doubled '\\' cs) := by
        simp [doubled, hq.symm]
      simp only [if_true] at ih ⊢
      rw [hbody, List.cons_append, List.cons_append, readQuoted, if_pos hslash, ih]
      rfl
    · have hinner : (if escapes then doubled '\\' (c :: cs) else c :: cs) =
          c :: (if escapes then doubled '\\' cs else cs) := by
        cases escapes with
        | false => rfl
        | true =>
          have hc : c ≠ '\\' := by simpa using hslash
          simp [doubled, hc]
      rw [hinner]
      by_cases hc : c = q
      · subst hc
        have hbody : ∀ ds, doubled c (c :: ds) = c :: c :: doubled c ds := fun ds => by simp [doubled]
        rw [hbody, List.cons_append, List.cons_append, readQuoted, if_neg hslash, if_pos rfl, if_pos rfl, ih]
        rfl
      · have hbody : ∀ ds, doubled q (c :: ds) = c :: doubled q ds := fun ds => by simp [doubled, hc]
        rw [hbody, List.cons_append, readQuoted_plain (Bool.eq_false_iff.2 hslash) hc (by simp), ih]
        rfl

/-- The characters that may follow a closing quote. -/
def isQuoteStop (q c : Char) : Bool :=
  c != q

/-- **A text** is one token that stands for the whole text. -/
theorem reads_text (cs : List Char) :
    Reads d (textLiteral d cs) [.text (String.ofList cs)] (isQuoteStop '\x27') := by
  intro rest us hhead hrest
  have hstop : rest.head? ≠ some '\x27' := fun hhead' => by
    have := hhead _ hhead'
    simp [isQuoteStop] at this
  have htoken : token? d '\x27' (doubled '\x27' (if d.escapesBackslash then doubled '\\' cs else cs)
      ++ '\x27' :: rest) = some (.text (String.ofList cs), rest) := by
    rw [token?, if_pos rfl, readQuoted_doubled (by decide) hstop]
    rfl
  rw [textLiteral, enclose, List.append_assoc, List.cons_append, List.singleton_append,
    lex_token (by decide) htoken, hrest]
  rfl

/-- A quoted name is one token that stands for the whole name. -/
theorem reads_quotedName (cs : List Char) :
    Reads d (enclose d.nameQuote cs) [.name (String.ofList cs)] (isQuoteStop d.nameQuote) := by
  intro rest us hhead hrest
  have hstop : rest.head? ≠ some d.nameQuote := fun hhead' => by
    have := hhead _ hhead'
    simp [isQuoteStop] at this
  have hslash : d.nameQuote ≠ '\\' := by cases d <;> decide
  have hquoted := @readQuoted_doubled cs rest d.nameQuote false hslash hstop
  have htoken : token? d d.nameQuote (doubled d.nameQuote cs ++ d.nameQuote :: rest) =
      some (.name (String.ofList cs), rest) := by
    rw [token?, if_neg (by cases d <;> decide), if_pos rfl]
    simp only [Bool.false_eq_true, if_false] at hquoted
    rw [hquoted]
    rfl
  rw [enclose, List.append_assoc, List.cons_append, List.singleton_append,
    lex_token (by cases d <;> decide) htoken, hrest]
  rfl

/-- The characters that may follow a name, quoted or not. -/
def isNameStop (d : Dialect) (c : Char) : Bool :=
  isWordStop c && isQuoteStop d.nameQuote c

theorem isWordChar_of_isBareNameChar (h : isBareNameChar c = true) : isWordChar c = true := by
  simp only [isBareNameChar, isWordChar, Bool.or_eq_true, List.contains_iff_mem, List.mem_cons,
    List.not_mem_nil, or_false, decide_eq_true_eq] at h ⊢
  rcases h with h | h
  · exact .inl h
  · omega

/-- The first character of a bare name starts a word. -/
theorem isWordStart_of_isBareNameChar (h : isBareNameChar c = true) (hdigit : c.isDigit = false)
    (hdollar : c ≠ '$') : isWordStart c = true := by
  have hword := isWordChar_of_isBareNameChar h
  simp only [isWordChar, isWordStart, Char.isAlphanum, Bool.or_eq_true, hdigit, beq_iff_eq, hdollar,
    Bool.false_eq_true, or_false] at hword ⊢
  exact hword

/-- **A name** is one token that stands for the whole name. A line break at its end is excluded because
such a name is not quoted. -/
theorem reads_name {n : String} (h : n.toList.getLast? ≠ some '\n') :
    Reads d (nameChars d n) [.name n] (isNameStop d) := by
  by_cases hquotes : needsQuotes d n = true
  · rw [nameChars, if_pos hquotes]
    have hquoted := reads_quotedName (d := d) n.toList
    rw [String.ofList_toList] at hquoted
    exact hquoted.weaken fun c hc => (Bool.and_eq_true_iff.1 hc).2
  · rw [nameChars, if_neg hquotes]
    simp only [needsQuotes, Bool.or_eq_true, not_or, Bool.not_eq_true, bne_eq_false_iff_eq,
      Bool.not_eq_false'] at hquotes
    obtain ⟨⟨⟨⟨-, hreserved⟩, hstart⟩, hlow⟩, hbare⟩ := hquotes
    rw [hlow] at hreserved
    rw [isBareName, if_neg h] at hbare
    cases hn : n.toList with
    | nil => simp [hn] at hbare
    | cons c cs =>
      rw [hn] at hbare hstart
      simp only [List.isEmpty_cons, Bool.not_false, Bool.true_and, List.all_cons, Bool.and_eq_true,
        List.all_eq_true] at hbare
      simp only [startsIllegally, List.head?_cons, Option.any_some, Bool.or_eq_false_iff,
        beq_eq_false_iff_ne] at hstart
      have hc := isWordStart_of_isBareNameChar hbare.1 hstart.1 hstart.2
      have hword := reads_word (d := d) hc fun x hx => isWordChar_of_isBareNameChar (hbare.2 x hx)
      rw [← hn, String.ofList_toList, Token.ofWord] at hword
      simp only [hlow, hreserved, Bool.false_eq_true, if_false] at hword
      rw [← hn]
      exact hword.weaken fun c hc => (Bool.and_eq_true_iff.1 hc).1

/-! ## Entries -/

/-- A piece that every stop of an entry may follow is an entry. -/
theorem Reads.entry (h : Reads d p ts stop) (hstop : stops.all stop = true) : Reads d p ts isStop :=
  h.weaken fun c hc => List.all_eq_true.1 hstop c (List.contains_iff_mem.1 hc)

/-- Whether a text is one bare word. -/
def isWordText (w : String) : Bool :=
  match w.toList with
  | [] => false
  | c :: cs => isWordStart c && cs.all isWordChar

theorem reads_wordText {w : String} (h : isWordText w = true) : Reads d w.toList [.ofWord d w] isWordStop := by
  unfold isWordText at h
  split at h
  · cases h
  · rename_i x xs hchars
    obtain ⟨hx, hxs⟩ := Bool.and_eq_true_iff.1 h
    have hword := reads_word (d := d) hx (List.all_eq_true.1 hxs)
    rwa [← hchars, String.ofList_toList] at hword

theorem reads_wordEntry {w : String} (h : isWordText w = true) : Reads d w.toList [.ofWord d w] isStop :=
  (reads_wordText h).entry (by decide)

/-- A word of the grammar with a piece behind it that does not go on with the word. -/
theorem Reads.word {w : String} (h : Reads d (c :: p) ts stop) (hw : isWordText w = true)
    (hc : isWordStop c = true) : Reads d (w.toList ++ c :: p) (.ofWord d w :: ts) stop :=
  (reads_wordText hw).append h hc

theorem Reads.blank (h : Reads d p ts stop) : Reads d (' ' :: p) ts stop :=
  h.space rfl

/-- A word of the grammar with a blank behind it. -/
theorem Reads.keyword {w : String} (h : Reads d p ts stop) (hw : isWordText w = true) :
    Reads d (w.toList ++ ' ' :: p) (.ofWord d w :: ts) stop :=
  h.blank.word hw rfl

/-- Texts are entries with the given tokens, one by one. -/
def Entries (d : Dialect) (pieces : List (List Char)) (tss : List (List Token)) : Prop :=
  List.Forall₂ (Reads d · · isStop) pieces tss

section Entries

variable {pieces pieces' : List (List Char)} {tss tss' : List (List Token)} {sep : String} {x : Char}

theorem entries_map {α : Type} {l : List α} {f : α → List Char} {g : α → List Token}
    (h : ∀ a ∈ l, Reads d (f a) (g a) isStop) : Entries d (l.map f) (l.map g) :=
  List.forall₂_map_left_iff.2 (List.forall₂_map_right_iff.2 (List.forall₂_same.2 h))

theorem Entries.append (h : Entries d pieces tss) (h' : Entries d pieces' tss') :
    Entries d (pieces ++ pieces') (tss ++ tss') :=
  List.rel_append h h'

/-- **Entries with separators between them** are read one after the other, if the separator starts with a
stop and is read on its own. -/
theorem reads_separated {xs : List Char} {sts : List Token} (h : Entries d pieces tss)
    (hsep : sep.toList = x :: xs) (hx : isStop x = true)
    (hread : ∀ {p ts}, Reads d p ts isStop → Reads d (x :: xs ++ p) (sts ++ ts) isStop) :
    Reads d (separated sep pieces) (sts.intercalate tss) isStop := by
  rw [separated, hsep]
  induction h with
  | nil => exact reads_nil
  | cons hp hps ih =>
    cases hps with
    | nil =>
      rw [List.intercalate_singleton, List.intercalate_singleton]
      exact hp
    | cons hp' hps =>
      rw [List.intercalate_cons_cons, List.intercalate_cons_cons, List.append_assoc, List.append_assoc]
      exact hp.append (hread ih) hx

/-- Entries with commas between them. -/
theorem Entries.commas (h : Entries d pieces tss) :
    Reads d (separated ", " pieces) ([.sign ","].intercalate tss) isStop :=
  reads_separated h rfl rfl fun hp => hp.blank.sign (by decide)

/-- Entries with a blank or a line break between them. -/
theorem Entries.spaced (h : Entries d pieces tss) (hsep : sep.toList = [x]) (hspace : isSpace x = true)
    (hx : isStop x = true) : Reads d (separated sep pieces) ([].intercalate tss) isStop :=
  reads_separated h hsep hx fun hp => hp.space hspace

end Entries

end QueryCanvas.Sql
