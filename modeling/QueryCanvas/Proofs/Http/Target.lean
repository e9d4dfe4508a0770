import Mathlib.Data.List.Forall2
import QueryCanvas.Http.Target
import QueryCanvas.Proofs.Text.Character
import QueryCanvas.Proofs.Text.Utf8

/-!
# Written paths

How a path stands in the target of a request. A segment may write any character as its bytes, each with a percent sign
and two hexadecimal digits, and has to do so unless the character stands for itself. What is written is decoded as a
whole, after the segments that stand for places have been dropped.

* `Writes`, `WritesSegment`: what may stand for a character, and for a segment.
* `Target.path_of_segments`: a path that is written segment by segment is decoded to its segments.
* `splitAtChar_last`: a path with a text as its last segment is split at the slashes of the text as well.
-/

namespace QueryCanvas.Http

/-- The characters that stand for themselves in a segment. -/
def IsSegmentChar (c : Char) : Prop :=
  c.isAlphanum = true ∨ c ∈ "-._~!$&\x27()*+,;=:@".toList

instance : DecidablePred IsSegmentChar := fun c => inferInstanceAs (Decidable (c.isAlphanum = true ∨ c ∈ _))

/-- The hexadecimal digits of a byte, in small letters or capitals. -/
def SpellsByte (b : Nat) (digits : Char × Char) : Prop :=
  Text.hexValue? digits.1 = some (b / 16) ∧ Text.hexValue? digits.2 = some (b % 16)

/-- **What stands for a character** in a segment: the character, or its bytes. -/
inductive Writes (c : Char) : List Char → Prop
  | plain (h : IsSegmentChar c) : Writes c [c]
  | bytes {digits : List (Char × Char)} (h : List.Forall₂ SpellsByte (Text.utf8Bytes c) digits) :
      Writes c (digits.flatMap fun d => ['%', d.1, d.2])

/-- **What stands for a text** as one segment. -/
inductive WritesSegment : List Char → List Char → Prop
  | nil : WritesSegment [] []
  | cons {c : Char} {cs w ws : List Char} (h : Writes c w) (hs : WritesSegment cs ws) :
      WritesSegment (c :: cs) (w ++ ws)

/-- A segment that stands for a place, if it is written as such. -/
def IsDots (w : List Char) : Prop :=
  w = ['.'] ∨ w = ['.', '.']

instance : DecidablePred IsDots := fun w => inferInstanceAs (Decidable (w = ['.'] ∨ w = ['.', '.']))

variable {c : Char} {cs w ws rest : List Char} {digits : List (Char × Char)} {ts segments : List (List Char)}

/-! ## Decoding -/

theorem IsSegmentChar.not_mark (h : IsSegmentChar c) : c ∉ ['/', '?', '#', '%'] := by
  intro hc
  simp only [List.mem_cons, List.not_mem_nil, or_false] at hc
  rcases hc with rfl | rfl | rfl | rfl <;> revert h <;> decide

theorem percentBytes_plain (h : c ≠ '%') : percentBytes (c :: rest) = Text.utf8Bytes c ++ percentBytes rest := by
  rw [percentBytes]
  intro _ _ _ hc
  exact absurd hc h

theorem percentBytes_byte {b : Nat} {d : Char × Char} (h : SpellsByte b d) :
    percentBytes ('%' :: d.1 :: d.2 :: rest) = b :: percentBytes rest := by
  rw [percentBytes, h.1, h.2]
  simp only [Nat.div_add_mod]

/-- **What stands for a character** gives its bytes. -/
theorem Writes.percentBytes (h : Writes c w) : percentBytes (w ++ rest) = Text.utf8Bytes c ++ percentBytes rest := by
  cases h with
  | plain h => exact percentBytes_plain fun hc => h.not_mark (by simp [hc])
  | bytes h =>
    generalize Text.utf8Bytes c = bs at h
    induction h with
    | nil => rfl
    | @cons b d bs digits hd _ ih =>
      rw [List.flatMap_cons, List.append_assoc, List.cons_append, List.cons_append, List.singleton_append,
        percentBytes_byte hd, ih, List.cons_append]

theorem WritesSegment.percentBytes (h : WritesSegment cs w) :
    percentBytes (w ++ rest) = cs.flatMap Text.utf8Bytes ++ percentBytes rest := by
  induction h with
  | nil => rfl
  | cons hc _ ih => rw [List.append_assoc, hc.percentBytes, ih, List.flatMap_cons, List.append_assoc]

/-- Segments with slashes between them give the bytes of their texts with slashes between them. -/
theorem percentBytes_joined (h : List.Forall₂ WritesSegment ts segments) :
    percentBytes (['/'].intercalate segments) = (['/'].intercalate ts).flatMap Text.utf8Bytes := by
  induction h with
  | nil => rfl
  | @cons t w ts segments ht hts ih =>
    cases hts with
    | nil =>
      have hone : QueryCanvas.Http.percentBytes (w ++ []) = _ := ht.percentBytes
      rw [List.append_nil, QueryCanvas.Http.percentBytes, List.append_nil] at hone
      rw [List.intercalate_singleton, List.intercalate_singleton, hone]
    | cons hu hus =>
      rw [List.intercalate_cons_cons, List.intercalate_cons_cons, List.append_assoc, List.append_assoc,
        ht.percentBytes, List.singleton_append, percentBytes_plain (by decide), ih, List.flatMap_append,
        List.singleton_append, List.flatMap_cons]

/-! ## Writing -/

/-- What stands for itself is written as it is. -/
theorem writesSegment_plain (h : ∀ c ∈ cs, IsSegmentChar c) : WritesSegment cs cs := by
  induction cs with
  | nil => exact .nil
  | cons c cs ih =>
    obtain ⟨hc, hcs⟩ := List.forall_mem_cons.1 h
    exact .cons (.plain hc) (ih hcs)

theorem spellsByte_hexDigits {b : Nat} (h : b < 256) : SpellsByte b (Text.hexDigit (b / 16), Text.hexDigit b) := by
  have hdigit : ∀ n < 16, Text.hexValue? (Nat.digitChar n) = some n := by decide
  constructor
  · rw [Text.hexDigit, Nat.mod_eq_of_lt (by omega)]
    exact hdigit _ (by omega)
  · exact hdigit _ (by omega)

theorem utf8Bytes_lt (c : Char) : ∀ b ∈ Text.utf8Bytes c, b < 256 := by
  have hvalid := Text.toNat_valid c
  unfold Text.utf8Bytes
  dsimp only
  split
  · simp; omega
  · split
    · simp; omega
    · split
      · simp; omega
      · simp; omega

/-- Every character can be written as its bytes. -/
theorem exists_writes (c : Char) : ∃ w, Writes c ('%' :: w) := by
  obtain ⟨b, bs, hbytes, -⟩ := Text.firstChar_utf8Bytes c []
  have hspelled : List.Forall₂ SpellsByte (Text.utf8Bytes c)
      ((Text.utf8Bytes c).map fun b => (Text.hexDigit (b / 16), Text.hexDigit b)) :=
    List.forall₂_map_right_iff.2 (List.forall₂_same.2 fun b hb => spellsByte_hexDigits (utf8Bytes_lt c b hb))
  have hwritten := Writes.bytes hspelled
  rw [hbytes] at hwritten
  exact ⟨_, hwritten⟩

/-- **Every text can be written** as a segment that stands for no place. -/
theorem exists_writesSegment (cs : List Char) : ∃ w, WritesSegment cs w ∧ ¬IsDots w := by
  induction cs with
  | nil => exact ⟨[], .nil, by decide⟩
  | cons c cs ih =>
    obtain ⟨w, hw⟩ := exists_writes c
    obtain ⟨ws, hws, -⟩ := ih
    refine ⟨_, .cons hw hws, ?_⟩
    rintro (h | h) <;> exact absurd (List.cons.inj h).1 (by decide)

/-- Every path can be written segment by segment. -/
theorem exists_written (ts : List (List Char)) :
    ∃ segments, List.Forall₂ WritesSegment ts segments ∧ ∀ w ∈ segments, ¬IsDots w := by
  induction ts with
  | nil => exact ⟨[], .nil, nofun⟩
  | cons t ts ih =>
    obtain ⟨w, hw, hdots⟩ := exists_writesSegment t
    obtain ⟨segments, hsegments, hrest⟩ := ih
    exact ⟨w :: segments, .cons hw hsegments, List.forall_mem_cons.2 ⟨hdots, hrest⟩⟩

/-! ## Splitting -/

theorem splitAtChar_ne_nil (separator : Char) (cs : List Char) : splitAtChar separator cs ≠ [] := by
  induction cs with
  | nil => exact List.cons_ne_nil _ _
  | cons c cs ih =>
    rw [splitAtChar]
    split
    · split <;> exact List.cons_ne_nil _ _
    next h => exact absurd h ih

/-- The parts of a text are those between the separators. -/
theorem splitAtChar_eq_splitOn (separator : Char) (cs : List Char) :
    splitAtChar separator cs = cs.splitOn separator := by
  induction cs with
  | nil => rw [splitAtChar, List.splitOn_nil]
  | cons c cs ih =>
    rw [splitAtChar, List.splitOn_cons_eq_if_modifyHead, ← ih]
    cases hparts : splitAtChar separator cs with
    | nil => exact absurd hparts (splitAtChar_ne_nil separator cs)
    | cons part parts => simp only [beq_iff_eq, List.modifyHead_cons]

/-- Parts that hold no separator are found again. -/
theorem splitAtChar_joined {separator : Char} {parts : List (List Char)} (h : ∀ part ∈ parts, separator ∉ part)
    (hne : parts ≠ []) : splitAtChar separator ([separator].intercalate parts) = parts := by
  rw [splitAtChar_eq_splitOn, List.splitOn_intercalate separator h hne]

/-- The parts of a text joined are that text. -/
theorem intercalate_splitAtChar (separator : Char) (cs : List Char) :
    [separator].intercalate (splitAtChar separator cs) = cs := by
  rw [splitAtChar_eq_splitOn, List.intercalate_splitOn]

/-! ## Targets -/

theorem hexDigit_not_mark (h : (Text.hexValue? c).isSome = true) : c ∉ ['/', '?', '#'] := by
  rintro hc
  simp only [List.mem_cons, List.not_mem_nil, or_false] at hc
  rcases hc with rfl | rfl | rfl <;> revert h <;> decide

/-- No slash, question mark or hash stands for a character. -/
theorem Writes.not_mark (h : Writes c w) : ∀ d ∈ w, d ∉ ['/', '?', '#'] := by
  cases h with
  | plain h =>
    intro d hd hmark
    rw [List.mem_singleton.1 hd] at hmark
    exact h.not_mark (List.subset_append_left ['/', '?', '#'] ['%'] hmark)
  | bytes h =>
    generalize Text.utf8Bytes c = bs at h
    induction h with
    | nil => exact nofun
    | @cons b digits bs rest hb _ ih =>
      have hfirst := hexDigit_not_mark (Option.isSome_iff_exists.2 ⟨_, hb.1⟩)
      have hsecond := hexDigit_not_mark (Option.isSome_iff_exists.2 ⟨_, hb.2⟩)
      rw [List.flatMap_cons, List.forall_mem_append]
      exact ⟨List.forall_mem_cons.2 ⟨by decide, List.forall_mem_cons.2 ⟨hfirst, List.forall_mem_singleton.2 hsecond⟩⟩, ih⟩

theorem WritesSegment.not_mark (h : WritesSegment cs w) : ∀ d ∈ w, d ∉ ['/', '?', '#'] := by
  induction h with
  | nil => exact nofun
  | cons hc _ ih => exact List.forall_mem_append.2 ⟨hc.not_mark, ih⟩

/-- Segments that stand for no places stay. -/
theorem withoutDots_eq {done : List (List Char)} (h : ∀ w ∈ segments, ¬IsDots w) :
    withoutDots done segments = done.reverse ++ segments := by
  induction segments generalizing done with
  | nil => rw [withoutDots, List.append_nil]
  | cons w segments ih =>
    obtain ⟨hw, hsegments⟩ := List.forall_mem_cons.1 h
    rw [withoutDots, ih hsegments, List.reverse_cons, List.append_assoc, List.singleton_append]
    · exact fun hdot => hw (.inl hdot)
    · exact fun hdots => hw (.inr hdots)

/-- What holds of a slash and of all segments holds of them joined. -/
theorem forall_mem_joined {P : Char → Prop} (hslash : P '/') (h : ∀ w ∈ segments, ∀ d ∈ w, P d) :
    ∀ d ∈ ['/'].intercalate segments, P d := by
  induction segments with
  | nil => exact nofun
  | cons w segments ih =>
    obtain ⟨hw, hsegments⟩ := List.forall_mem_cons.1 h
    cases segments with
    | nil => rwa [List.intercalate_singleton]
    | cons v segments =>
      rw [List.intercalate_cons_cons, List.forall_mem_append, List.forall_mem_append]
      exact ⟨⟨hw, List.forall_mem_singleton.2 hslash⟩, ih hsegments⟩

/-- Written segments hold no marks. -/
theorem not_mark_of_written (h : List.Forall₂ WritesSegment ts segments) :
    ∀ w ∈ segments, ∀ d ∈ w, d ∉ ['/', '?', '#'] := by
  induction h with
  | nil => exact nofun
  | cons hw _ ih => exact List.forall_mem_cons.2 ⟨hw.not_mark, ih⟩

/-- **A path that is written segment by segment** is decoded to its segments. -/
theorem path_of_segments (h : List.Forall₂ WritesSegment ts segments) (hdots : ∀ w ∈ segments, ¬IsDots w)
    (hne : segments ≠ []) :
    (Target.ofText (String.ofList (['/'].intercalate segments))).path = ['/'].intercalate ts := by
  have hmarks := not_mark_of_written h
  have hslash : ∀ w ∈ segments, '/' ∉ w := fun w hw hmem => hmarks w hw '/' hmem (by decide)
  have hhash : ∀ d ∈ ['/'].intercalate segments, (decide (d ≠ '#')) = true :=
    forall_mem_joined (by decide) fun w hw d hd => decide_eq_true fun hd' => hmarks w hw d hd (by rw [hd']; decide)
  have hquestion : ∀ d ∈ ['/'].intercalate segments, (decide (d ≠ '?')) = true :=
    forall_mem_joined (by decide) fun w hw d hd => decide_eq_true fun hd' => hmarks w hw d hd (by rw [hd']; decide)
  simp only [Target.ofText, String.toList_ofList, List.takeWhile_eq_self_iff.2 hhash,
    List.takeWhile_eq_self_iff.2 hquestion, splitAtChar_joined hslash hne, withoutDots_eq hdots, List.reverse_nil,
    List.nil_append, percentDecode, percentBytes_joined h, Text.utf8Decode_flatMap]

/-! ## Slashes in a segment -/

/-- No separator is in a part. -/
theorem not_mem_part (separator : Char) (cs : List Char) : ∀ part ∈ splitAtChar separator cs, separator ∉ part := by
  induction cs with
  | nil => exact List.forall_mem_singleton.2 List.not_mem_nil
  | cons c cs ih =>
    rw [splitAtChar]
    split
    next part parts hparts =>
      rw [hparts] at ih
      obtain ⟨hpart, hrest⟩ := List.forall_mem_cons.1 ih
      split
      next => exact List.forall_mem_cons.2 ⟨List.not_mem_nil, ih⟩
      next hc =>
        refine List.forall_mem_cons.2 ⟨fun hmem => ?_, hrest⟩
        rcases List.mem_cons.1 hmem with rfl | hmem
        · exact hc rfl
        · exact hpart hmem
    next => exact nofun

/-- Parts in the place of the text that they are parts of. -/
theorem intercalate_parts (separator : Char) (ts : List (List Char)) (t : List Char) :
    [separator].intercalate (ts ++ [t]) = [separator].intercalate (ts ++ splitAtChar separator t) := by
  induction ts with
  | nil => rw [List.nil_append, List.nil_append, intercalate_splitAtChar, List.intercalate_singleton]
  | cons u ts ih =>
    rw [List.cons_append, List.cons_append, List.intercalate_cons_of_ne_nil (by simp), ih,
      List.intercalate_cons_of_ne_nil (by simp [splitAtChar_ne_nil])]

/-- **A path with a text as its last segment** is split at the slashes of the text as well. -/
theorem splitAtChar_last (h : ∀ t ∈ ts, '/' ∉ t) (t : List Char) :
    splitAtChar '/' (['/'].intercalate (ts ++ [t])) = ts ++ splitAtChar '/' t := by
  rw [intercalate_parts, splitAtChar_joined]
  · exact List.forall_mem_append.2 ⟨h, not_mem_part '/' t⟩
  · exact List.append_ne_nil_of_right_ne_nil _ (splitAtChar_ne_nil '/' t)

/-- A text with a separator has several parts. -/
theorem two_le_length_splitAtChar {separator : Char} (h : separator ∈ cs) : 2 ≤ (splitAtChar separator cs).length := by
  by_contra hone
  have hpos := List.length_pos_of_ne_nil (splitAtChar_ne_nil separator cs)
  obtain ⟨part, hpart⟩ := List.length_eq_one_iff.1 (show (splitAtChar separator cs).length = 1 by omega)
  have hwhole := intercalate_splitAtChar separator cs
  rw [hpart, List.intercalate_singleton] at hwhole
  exact not_mem_part separator cs part (by rw [hpart]; exact List.mem_singleton_self part) (hwhole ▸ h)

end QueryCanvas.Http
