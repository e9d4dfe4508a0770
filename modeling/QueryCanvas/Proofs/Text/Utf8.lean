import Mathlib.Data.List.Basic
import QueryCanvas.Text.Utf8

/-!
# UTF-8 there and back

The bytes of characters are read as these characters.

* `firstChar_utf8Bytes`: the bytes of a character are read as this character, whatever follows.
* `utf8Decode_flatMap`: the bytes of a text are read as this text.
-/

namespace QueryCanvas.Text

variable {b s lo hi n : Nat} {range : Nat × Nat} {bs : List Nat}

/-- The second byte of a character is in the range that its first byte leaves for it. -/
theorem secondRange_iff : (secondRange b).1 ≤ s ∧ s ≤ (secondRange b).2 ↔
    (if b = 224 then 160 else if b = 240 then 144 else 128) ≤ s ∧
      s ≤ (if b = 237 then 159 else if b = 244 then 143 else 191) := by
  unfold secondRange
  split <;> simp_all

theorem properBytes_cons (h : range.1 ≤ b ∧ b ≤ range.2) :
    properBytes (n + 1) range (b :: bs) = b :: properBytes n (128, 191) bs := by
  rw [properBytes, if_pos h]

/-- The bytes behind the first one are taken together with it. -/
theorem firstChar_of_proper {high : Nat} {tail : List Nat} (hb : 128 ≤ b)
    (hcont : continuations? b = some (n, high)) (htail : properBytes n (secondRange b) (tail ++ bs) = tail)
    (hlength : tail.length = n) :
    firstChar b (tail ++ bs) = (Char.ofNat (tail.foldl (fun v t => v * 64 + (t - 128)) high), n) := by
  simp only [firstChar, if_neg (show ¬b < 128 by omega), hcont, htail, hlength, if_true]

theorem firstChar_two (hlo : 128 ≤ n) (hhi : n < 2048) :
    firstChar (192 + n / 64) ([128 + n % 64] ++ bs) = (Char.ofNat n, 1) := by
  have hcont : continuations? (192 + n / 64) = some (1, n / 64) := by
    rw [continuations?, if_pos (by omega), Nat.add_sub_cancel_left]
  have hsecond := secondRange_iff (b := 192 + n / 64) (s := 128 + n % 64)
  rw [if_neg (by omega), if_neg (by omega), if_neg (by omega), if_neg (by omega)] at hsecond
  have htail : properBytes 1 (secondRange (192 + n / 64)) ([128 + n % 64] ++ bs) = [128 + n % 64] := by
    rw [List.singleton_append, properBytes_cons (hsecond.2 (by omega)), properBytes]
    exact nofun
  have hvalue : n / 64 * 64 + (128 + n % 64 - 128) = n := by omega
  exact (firstChar_of_proper (by omega) hcont htail rfl).trans (by rw [List.foldl_cons, List.foldl_nil, hvalue])

theorem firstChar_three (hlo : 2048 ≤ n) (hhi : n < 65536) (hvalid : n < 55296 ∨ 57343 < n) :
    firstChar (224 + n / 4096) ([128 + n / 64 % 64, 128 + n % 64] ++ bs) = (Char.ofNat n, 2) := by
  have hcont : continuations? (224 + n / 4096) = some (2, n / 4096) := by
    rw [continuations?, if_neg (by omega), if_pos (by omega), Nat.add_sub_cancel_left]
  have hsecond := secondRange_iff (b := 224 + n / 4096) (s := 128 + n / 64 % 64)
  have htail : properBytes 2 (secondRange (224 + n / 4096)) ([128 + n / 64 % 64, 128 + n % 64] ++ bs) =
      [128 + n / 64 % 64, 128 + n % 64] := by
    rw [List.cons_append, List.singleton_append, properBytes_cons (hsecond.2 ?_), properBytes_cons, properBytes]
    · exact nofun
    · exact ⟨by omega, by omega⟩
    · constructor <;> split <;> try split
      all_goals omega
  have hvalue : (n / 4096 * 64 + (128 + n / 64 % 64 - 128)) * 64 + (128 + n % 64 - 128) = n := by omega
  exact (firstChar_of_proper (by omega) hcont htail rfl).trans
    (by rw [List.foldl_cons, List.foldl_cons, List.foldl_nil, hvalue])

theorem firstChar_four (hlo : 65536 ≤ n) (hhi : n < 1114112) :
    firstChar (240 + n / 262144) ([128 + n / 4096 % 64, 128 + n / 64 % 64, 128 + n % 64] ++ bs) =
      (Char.ofNat n, 3) := by
  have hcont : continuations? (240 + n / 262144) = some (3, n / 262144) := by
    rw [continuations?, if_neg (by omega), if_neg (by omega), if_pos (by omega), Nat.add_sub_cancel_left]
  have hsecond := secondRange_iff (b := 240 + n / 262144) (s := 128 + n / 4096 % 64)
  have htail : properBytes 3 (secondRange (240 + n / 262144))
      ([128 + n / 4096 % 64, 128 + n / 64 % 64, 128 + n % 64] ++ bs) =
      [128 + n / 4096 % 64, 128 + n / 64 % 64, 128 + n % 64] := by
    rw [List.cons_append, List.cons_append, List.singleton_append, properBytes_cons (hsecond.2 ?_), properBytes_cons,
      properBytes_cons, properBytes]
    · exact nofun
    · exact ⟨by omega, by omega⟩
    · exact ⟨by omega, by omega⟩
    · constructor <;> split <;> try split
      all_goals omega
  have hvalue : ((n / 262144 * 64 + (128 + n / 4096 % 64 - 128)) * 64 + (128 + n / 64 % 64 - 128)) * 64 +
      (128 + n % 64 - 128) = n := by omega
  exact (firstChar_of_proper (by omega) hcont htail rfl).trans
    (by rw [List.foldl_cons, List.foldl_cons, List.foldl_cons, List.foldl_nil, hvalue])

/-- The code point of a character is below the surrogates or above them. -/
theorem toNat_valid (c : Char) : c.toNat < 55296 ∨ 57343 < c.toNat ∧ c.toNat < 1114112 :=
  c.valid

/-- **The bytes of a character** are read as this character, whatever follows. -/
theorem firstChar_utf8Bytes (c : Char) (bs : List Nat) : ∃ b tail, utf8Bytes c = b :: tail ∧
    firstChar b (tail ++ bs) = (c, tail.length) := by
  have hvalid := toNat_valid c
  have hback : Char.ofNat c.toNat = c := Char.ofNat_toNat c
  unfold utf8Bytes
  dsimp only
  split
  next hone => exact ⟨_, [], rfl, by rw [firstChar, if_pos hone, hback, List.length_nil]⟩
  next hone =>
    split
    next htwo => exact ⟨_, _, rfl, (firstChar_two (by omega) htwo).trans (by rw [hback]; rfl)⟩
    next htwo =>
      split
      next hthree =>
        exact ⟨_, _, rfl, (firstChar_three (by omega) hthree (by omega)).trans (by rw [hback]; rfl)⟩
      next hthree => exact ⟨_, _, rfl, (firstChar_four (by omega) (by omega)).trans (by rw [hback]; rfl)⟩

/-- **The bytes of a text** are read as this text. -/
theorem utf8Decode_flatMap (cs : List Char) : utf8Decode (cs.flatMap utf8Bytes) = cs := by
  induction cs with
  | nil => rw [List.flatMap_nil, utf8Decode]
  | cons c cs ih =>
    obtain ⟨b, tail, hbytes, hfirst⟩ := firstChar_utf8Bytes c (cs.flatMap utf8Bytes)
    rw [List.flatMap_cons, hbytes, List.cons_append, utf8Decode, hfirst]
    simp only [List.drop_left, ih]

end QueryCanvas.Text
