import QueryCanvas.Json.Printer
import QueryCanvas.Json.Reader
import QueryCanvas.Proofs.Outcome

/-!
# Reading what is printed

A record of texts is read back from the JSON text that is printed for it, if its names are distinct and
names and texts are plain: they have nothing in them that JSON escapes.

* `scanString_plain`, `joinUnits_toNat`: a plain string is read character by character.
* `readFields_plain`: the fields of such a record, by recursion over them.
* `read_print_texts`: the whole record.
* `read_wordRecord`: a record of one word, such as a mark for a number that is none.
-/

namespace QueryCanvas.Json

/-- A character that stands for itself inside a JSON string. -/
def IsPlain (c : Char) : Prop :=
  32 ≤ c.toNat ∧ c.toNat < 127 ∧ c ≠ '"' ∧ c ≠ '\\'

instance (c : Char) : Decidable (IsPlain c) :=
  inferInstanceAs (Decidable (_ ∧ _))

/-- A text in which every character stands for itself. -/
def IsPlainText (s : String) : Prop :=
  ∀ c ∈ s.toList, IsPlain c

instance (s : String) : Decidable (IsPlainText s) :=
  List.decidableBAll IsPlain s.toList

variable {c : Char} {cs rest : List Char} {o p : Nat}

/-! ## Strings -/

theorem escapeChar_plain (h : IsPlain c) : escapeChar c = [c] := by
  obtain ⟨hlow, hhigh, hquote, hslash⟩ := h
  have hctrl : ∀ d : Char, d.toNat < 32 → c ≠ d := by
    rintro d hd rfl
    omega
  unfold escapeChar
  split
  · exact absurd rfl hquote
  · exact absurd rfl hslash
  · exact absurd rfl (hctrl _ (by decide))
  · exact absurd rfl (hctrl _ (by decide))
  · exact absurd rfl (hctrl _ (by decide))
  · exact absurd rfl (hctrl _ (by decide))
  · exact absurd rfl (hctrl _ (by decide))
  · rw [if_pos ⟨hlow, hhigh⟩]

theorem stringText_plain {s : String} (h : IsPlainText s) :
    (stringText s).toList = '"' :: (s.toList ++ ['"']) := by
  have hself : s.toList.flatMap escapeChar = s.toList := by
    rw [List.flatMap_congr fun c hc => escapeChar_plain (h c hc), List.flatMap_singleton']
  rw [stringText, String.toList_ofList, hself]
  rfl

/-- A plain character is scanned as its code point. -/
theorem scanString_cons (h : IsPlain c) : scanString o p (c :: cs) = (do
    let (ns, cur) ← scanString o (p + 1) cs
    return (c.toNat :: ns, cur)) := by
  obtain ⟨hlow, -, hquote, hslash⟩ := h
  rw [scanString.eq_def]
  split
  case h_6 heq =>
    obtain ⟨rfl, rfl⟩ := List.cons.inj heq
    rw [if_neg (by omega)]
  all_goals simp_all

theorem scanString_plain (h : ∀ c ∈ cs, IsPlain c) :
    scanString o p (cs ++ '"' :: rest) = .ok (cs.map Char.toNat, ⟨p + cs.length + 1, rest⟩) := by
  induction cs generalizing p with
  | nil => rw [List.nil_append, scanString.eq_def]; rfl
  | cons c cs ih =>
    obtain ⟨hc, hcs⟩ := List.forall_mem_cons.1 h
    rw [List.cons_append, scanString_cons hc, ih hcs]
    simp only [ok_bind, List.map_cons, List.length_cons]
    rw [show p + 1 + cs.length + 1 = p + (cs.length + 1) + 1 by omega]
    rfl

/-- The code points of characters are no UTF-16 units. -/
theorem isUnit_toNat (c : Char) : Text.isUnit c.toNat = false := by
  rw [Text.isUnit, Bool.and_eq_false_iff, decide_eq_false_iff_not, decide_eq_false_iff_not]
  rcases c.valid with h | ⟨h, -⟩ <;> simp only [Char.toNat, UInt32.toNat] at h ⊢ <;> omega

theorem joinUnits_toNat (cs : List Char) : joinUnits (cs.map Char.toNat) = cs.map Char.toNat := by
  induction cs with
  | nil => rfl
  | cons c cs ih =>
    cases cs with
    | nil => rfl
    | cons d cs =>
      have hpair : ¬(55296 ≤ c.toNat ∧ c.toNat < 56320 ∧ 56320 ≤ d.toNat ∧ d.toNat < 57344) := by
        have := isUnit_toNat c
        simp only [Text.isUnit, Bool.and_eq_false_iff, decide_eq_false_iff_not] at this
        omega
      rw [List.map_cons] at ih
      rw [List.map_cons, List.map_cons, joinUnits, if_neg hpair, ih]

theorem textOf_toNat (s : String) : textOf (s.toList.map Char.toNat) = .text s := by
  have hwhole : (s.toList.map Char.toNat).any Text.isUnit = false := by
    simp [isUnit_toNat]
  have hchars : (s.toList.map Char.toNat).map Char.ofNat = s.toList := by
    simp [Function.comp_def]
  rw [textOf, dif_neg (by simp [hwhole]), hchars, String.ofList_toList]

theorem readString_plain {s : String} (h : IsPlainText s) (p : Nat) (rest : List Char) :
    ∃ q, readString ⟨p, s.toList ++ '"' :: rest⟩ = .ok (.text s, ⟨q, rest⟩) := by
  refine ⟨p + s.toList.length + 1, ?_⟩
  simp only [readString, scanString_plain h, ok_bind, joinUnits_toNat, textOf_toNat]
  rfl

/-! ## Records -/

/-- A field that is a plain text under a plain name. -/
def IsPlainField (f : String × String) : Prop :=
  IsPlainText f.1 ∧ IsPlainText f.2

instance (f : String × String) : Decidable (IsPlainField f) :=
  inferInstanceAs (Decidable (_ ∧ _))

/-- The record of some texts. -/
def textRecord (fs : List (String × String)) : Value :=
  .record (fs.map fun f => (f.1, .text f.2))

/-- The characters of a printed field. -/
def fieldChars (f : String × String) : List Char :=
  '"' :: (f.1.toList ++ '"' :: ':' :: ' ' :: '"' :: (f.2.toList ++ ['"']))

variable {f : String × String} {fs : List (String × String)} {acc apart : List (String × Value)} {depth : Nat}

/-- How the reading of fields goes on behind one of them. -/
def readOn (fuel depth : Nat) (fields apart : List (String × Value)) (c : Cursor) :
    Except ReadError (List (String × Value) × Cursor) := do
  let cur := c.skipSpace
  match cur.rest with
  | '\x7d' :: _ => return (fields ++ apart, cur.advance 1)
  | ',' :: _ =>
    let next := (cur.advance 1).skipSpace
    if next.rest.head? = some '\x7d' then throw (.syntaxAt cur.position)
    readFields fuel depth fields apart next
  | _ => throw (.syntaxAt cur.position)

/-- A field is read up to what stands behind it. -/
theorem readFields_field (h : IsPlainField f) (fuel depth : Nat) (acc apart : List (String × Value)) (p : Nat)
    (tail : List Char) : ∃ q,
    readFields (fuel + 2) depth acc apart ⟨p, fieldChars f ++ tail⟩ =
      readOn (fuel + 1) depth (setField acc f.1 (.text f.2)) apart ⟨q, tail⟩ := by
  obtain ⟨hname, htext⟩ := h
  obtain ⟨q, hq⟩ := readString_plain hname (p + 1) (':' :: ' ' :: '"' :: (f.2.toList ++ '"' :: tail))
  obtain ⟨q', hq'⟩ := readString_plain htext (q + 3) tail
  have hchars : fieldChars f ++ tail =
      '"' :: (f.1.toList ++ '"' :: ':' :: ' ' :: '"' :: (f.2.toList ++ '"' :: tail)) := by
    simp [fieldChars]
  have hquote : ∀ cs, Cursor.advance ⟨p, '"' :: cs⟩ 1 = ⟨p + 1, cs⟩ := fun _ => rfl
  have hcolon : ∀ cs, Cursor.skipSpace ⟨q, ':' :: cs⟩ = ⟨q, ':' :: cs⟩ := fun _ => rfl
  have hblank : ∀ cs, (Cursor.advance ⟨q, ':' :: ' ' :: '"' :: cs⟩ 1).skipSpace = ⟨q + 2, '"' :: cs⟩ := fun _ => rfl
  have hvalue : readValue (fuel + 1) depth ⟨q + 2, '"' :: (f.2.toList ++ '"' :: tail)⟩ =
      .ok (.text f.2, ⟨q', tail⟩) := by
    rw [readValue]
    exact hq'
  refine ⟨q', ?_⟩
  rw [hchars, readFields]
  simp only [hquote, hq, ok_bind, hcolon, hblank, hvalue, List.head?_cons, ne_eq, not_true_eq_false, if_false]
  rfl

/-- What stands between two printed fields. -/
def fieldBreak : List Char :=
  [',', '\n', ' ', ' ']

/-- Behind the break the next field is read. -/
theorem readOn_fieldBreak (fuel p : Nat) (cs : List Char) :
    readOn fuel depth acc apart ⟨p, fieldBreak ++ '"' :: cs⟩ = readFields fuel depth acc apart ⟨p + 4, '"' :: cs⟩ := rfl

theorem intercalate_fieldChars (f : String × String) (fs : List (String × String)) :
    ∃ cs, fieldBreak.intercalate ((f :: fs).map fieldChars) = '"' :: cs := by
  cases fs with
  | nil => exact ⟨_, List.intercalate_singleton⟩
  | cons g fs => exact ⟨_, List.intercalate_cons_cons⟩

theorem length_le_intercalate (fs : List (String × String)) :
    fs.length ≤ (fieldBreak.intercalate (fs.map fieldChars)).length := by
  induction fs with
  | nil => exact Nat.zero_le _
  | cons f fs ih =>
    cases fs with
    | nil => simp [fieldChars]
    | cons g fs =>
      rw [List.map_cons, List.map_cons, List.intercalate_cons_cons, ← List.map_cons]
      simp only [List.length_append, List.length_cons, fieldBreak, List.length_nil] at ih ⊢
      omega

/-- **Printed fields** are set one after the other. -/
theorem readFields_plain (h : ∀ f ∈ fs, IsPlainField f) (hne : fs ≠ []) {fuel : Nat} (hfuel : fs.length < fuel)
    (acc : List (String × Value)) (p : Nat) (rest : List Char) : ∃ q,
    readFields fuel depth acc [] ⟨p, fieldBreak.intercalate (fs.map fieldChars) ++ '\n' :: '\x7d' :: rest⟩ =
      .ok (fs.foldl (fun acc f => setField acc f.1 (.text f.2)) acc, ⟨q, rest⟩) := by
  induction fs generalizing acc fuel p with
  | nil => exact absurd rfl hne
  | cons f fs ih =>
    obtain ⟨hf, hfs⟩ := List.forall_mem_cons.1 h
    rw [List.length_cons] at hfuel
    obtain ⟨fuel, rfl⟩ : ∃ n, fuel = n + 2 := ⟨fuel - 2, by omega⟩
    cases fs with
    | nil =>
      rw [List.map_singleton, List.intercalate_singleton]
      obtain ⟨q, hq⟩ := readFields_field hf fuel depth acc [] p ('\n' :: '\x7d' :: rest)
      refine ⟨q + 2, ?_⟩
      rw [hq, List.foldl_cons, List.foldl_nil]
      simp only [readOn, List.append_nil]
      rfl
    | cons g fs =>
      obtain ⟨cs, hcs⟩ := intercalate_fieldChars g fs
      obtain ⟨q, hq⟩ := readFields_field hf fuel depth acc [] p
        (fieldBreak ++ '"' :: (cs ++ '\n' :: '\x7d' :: rest))
      obtain ⟨q', hq'⟩ := ih hfs (by simp) (show (g :: fs).length < fuel + 1 by omega)
        (setField acc f.1 (.text f.2)) (q + 4)
      rw [hcs, List.cons_append] at hq'
      refine ⟨q', ?_⟩
      rw [List.map_cons, List.map_cons, List.intercalate_cons_cons, ← List.map_cons, hcs, List.append_assoc,
        List.append_assoc, List.cons_append, hq, readOn_fieldBreak]
      exact hq'

/-- Fields under new names are set behind the others. -/
theorem foldl_setField (hnames : (acc.map (·.1) ++ fs.map (·.1)).Nodup) :
    fs.foldl (fun acc f => setField acc f.1 (.text f.2)) acc = acc ++ fs.map fun f => (f.1, .text f.2) := by
  induction fs generalizing acc with
  | nil => simp
  | cons f fs ih =>
    have hnew : acc.any (·.1 == f.1) = false := by
      rw [List.any_eq_false]
      intro x hx hname
      rw [List.map_cons] at hnames
      exact (List.nodup_append.1 hnames).2.2 _ (List.mem_map_of_mem hx) _ List.mem_cons_self (eq_of_beq hname)
    rw [List.foldl_cons, setField, if_neg (by simp [hnew]), ih (by simpa using hnames)]
    simp

/-- A printed record of texts. -/
theorem toList_print_textRecord (h : ∀ f ∈ fs, IsPlainField f) (hne : fs ≠ []) :
    (print (textRecord fs)).toList =
      '\x7b' :: '\n' :: ' ' :: ' ' :: (fieldBreak.intercalate (fs.map fieldChars) ++ ['\n', '\x7d']) := by
  have hfields : ∀ fs : List (String × String), (∀ f ∈ fs, IsPlainField f) →
      (renderFields 1 (fs.map fun f => (f.1, .text f.2))).map String.toList = fs.map fieldChars := by
    intro fs h
    induction fs with
    | nil => rfl
    | cons f fs ih =>
      obtain ⟨⟨hname, htext⟩, hfs⟩ := List.forall_mem_cons.1 h
      rw [List.map_cons, List.map_cons, renderFields, List.map_cons, ih hfs]
      simp [render, stringText_plain hname, stringText_plain htext, fieldChars]
  have hitems : (renderFields 1 (fs.map fun f => (f.1, .text f.2))).isEmpty = false := by
    cases fs with
    | nil => exact absurd rfl hne
    | cons f fs => rfl
  simp only [print, textRecord, render, block, Nat.zero_add, hitems, Bool.false_eq_true, if_false, String.toList_append,
    String.toList_intercalate, hfields fs h]
  simp [newline, fieldBreak]

/-- A text that starts with a brace is read as the value that is all of it. -/
theorem read_brace {s : String} {v : Value} {q : Nat} (hs : s.toList = '\x7b' :: cs)
    (hv : readValue (2 * (cs.length + 1) + 2) depth ⟨0, '\x7b' :: cs⟩ = .ok (v, ⟨q, []⟩)) : read depth s = .ok v := by
  unfold read
  rw [hs]
  exact bind_eq_ok.2 ⟨_, hv, rfl⟩

/-- **A record of plain texts** is read back from what is printed for it. -/
theorem read_print_texts (h : ∀ f ∈ fs, IsPlainField f) (hne : fs ≠ []) (hnames : (fs.map (·.1)).Nodup) :
    read (depth + 1) (print (textRecord fs)) = .ok (textRecord fs) := by
  obtain ⟨f, fs, rfl⟩ := List.exists_cons_of_ne_nil hne
  obtain ⟨cs, hcs⟩ := intercalate_fieldChars f fs
  have hchars := toList_print_textRecord h hne
  have hlength := length_le_intercalate (f :: fs)
  rw [hcs, List.cons_append] at hchars
  rw [hcs, List.length_cons (a := '"')] at hlength
  obtain ⟨q, hq⟩ : ∃ q, readFields _ depth _ _ _ = .ok (_, ⟨q, []⟩) := readFields_plain h hne
    (show (f :: fs).length < 2 * (cs.length + 6 + 1) + 1 by omega) [] 4 []
  rw [hcs, List.cons_append, foldl_setField (by simpa using hnames), List.nil_append] at hq
  refine read_brace (q := q) hchars ?_
  have hfuel : ('\n' :: ' ' :: ' ' :: '"' :: (cs ++ ['\n', '\x7d'])).length = cs.length + 6 := by simp
  rw [hfuel, readValue]
  exact bind_eq_ok.2 ⟨depth, rfl, bind_eq_ok.2 ⟨_, hq, rfl⟩⟩

/-! ## Words -/

section Words

variable {name w : String} {v : Value}

/-- A word is read as its value, whatever follows. -/
theorem readValue_word (h : (w, v) ∈ words) (fuel depth p : Nat) (rest : List Char) :
    readValue (fuel + 1) depth ⟨p, w.toList ++ rest⟩ = .ok (v, ⟨p + w.length, rest⟩) := by
  simp only [words, List.mem_cons, Prod.mk.injEq, List.not_mem_nil, or_false] at h
  rcases h with ⟨rfl, rfl⟩ | ⟨rfl, rfl⟩ | ⟨rfl, rfl⟩ | ⟨rfl, rfl⟩ | ⟨rfl, rfl⟩ | ⟨rfl, rfl⟩ <;> rfl

/-- No word starts with a space. -/
theorem skipSpace_word (h : (w, v) ∈ words) (p : Nat) (rest : List Char) :
    Cursor.skipSpace ⟨p, ' ' :: (w.toList ++ rest)⟩ = ⟨p + 1, w.toList ++ rest⟩ := by
  simp only [words, List.mem_cons, Prod.mk.injEq, List.not_mem_nil, or_false] at h
  rcases h with ⟨rfl, rfl⟩ | ⟨rfl, rfl⟩ | ⟨rfl, rfl⟩ | ⟨rfl, rfl⟩ | ⟨rfl, rfl⟩ | ⟨rfl, rfl⟩ <;> rfl

/-- **A record of one word** is read. -/
theorem read_wordRecord (hname : IsPlainText name) (h : (w, v) ∈ words) :
    read (depth + 1) ("\x7b\"" ++ name ++ "\": " ++ w ++ "\x7d") = .ok (.record [(name, v)]) := by
  have hchars : ("\x7b\"" ++ name ++ "\": " ++ w ++ "\x7d").toList =
      '\x7b' :: '"' :: (name.toList ++ '"' :: ':' :: ' ' :: (w.toList ++ ['\x7d'])) := by
    simp
  obtain ⟨q, hq⟩ := readString_plain hname 2 (':' :: ' ' :: (w.toList ++ ['\x7d']))
  have hquote : ∀ cs, Cursor.advance ⟨1, '"' :: cs⟩ 1 = ⟨2, cs⟩ := fun _ => rfl
  have hcolon : ∀ cs, Cursor.skipSpace ⟨q, ':' :: cs⟩ = ⟨q, ':' :: cs⟩ := fun _ => rfl
  have hbehind : ∀ cs, Cursor.advance ⟨q, ':' :: cs⟩ 1 = ⟨q + 1, cs⟩ := fun _ => rfl
  have hfields : ∀ fuel, readFields (fuel + 2) depth [] []
      ⟨1, '"' :: (name.toList ++ '"' :: ':' :: ' ' :: (w.toList ++ ['\x7d']))⟩ =
        .ok ([(name, v)], ⟨q + 2 + w.length + 1, []⟩) := fun fuel => by
    rw [readFields]
    simp only [hquote, hq, ok_bind, hcolon, hbehind, skipSpace_word h, readValue_word h, List.head?_cons, ne_eq,
      not_true_eq_false, if_false]
    rfl
  refine read_brace (q := q + 2 + w.length + 1) hchars ?_
  rw [List.length_cons, readValue]
  exact bind_eq_ok.2 ⟨depth, rfl, bind_eq_ok.2 ⟨_, hfields _, rfl⟩⟩

end Words

end QueryCanvas.Json
