/-!
# UTF-8

Characters as bytes and back. Reading never fails: the longest run of bytes that starts a character
and is not continued properly is read as the replacement character.
-/

namespace QueryCanvas.Text

/-- The bytes of a character. -/
def utf8Bytes (c : Char) : List Nat :=
  let n := c.toNat
  if n < 128 then [n]
  else if n < 2048 then [192 + n / 64, 128 + n % 64]
  else if n < 65536 then [224 + n / 4096, 128 + n / 64 % 64, 128 + n % 64]
  else [240 + n / 262144, 128 + n / 4096 % 64, 128 + n / 64 % 64, 128 + n % 64]

/-- The character that stands for bytes that are none. -/
def replacement : Char := Char.ofNat 65533

/-- How many bytes have to follow a first byte, and what that byte contributes; `none` if it starts
no character of several bytes. -/
def continuations? (b : Nat) : Option (Nat × Nat) :=
  if 194 ≤ b ∧ b ≤ 223 then some (1, b - 192)
  else if 224 ≤ b ∧ b ≤ 239 then some (2, b - 224)
  else if 240 ≤ b ∧ b ≤ 244 then some (3, b - 240)
  else none

/-- The range of the byte that may follow a first byte. -/
def secondRange (b : Nat) : Nat × Nat :=
  match b with
  | 224 => (160, 191)
  | 237 => (128, 159)
  | 240 => (144, 191)
  | 244 => (128, 143)
  | _ => (128, 191)

/-- The proper continuation bytes, at most `n`, at the front of `bs`; the first of them has to be in
a range of its own. -/
def properBytes : Nat → Nat × Nat → List Nat → List Nat
  | n + 1, (lo, hi), b :: bs => if lo ≤ b ∧ b ≤ hi then b :: properBytes n (128, 191) bs else []
  | _, _, _ => []

/-- The character at the front of bytes `b :: bs`, and how many of `bs` belong to it. -/
def firstChar (b : Nat) (bs : List Nat) : Char × Nat :=
  if b < 128 then (Char.ofNat b, 0)
  else
    match continuations? b with
    | none => (replacement, 0)
    | some (n, high) =>
      let tail := properBytes n (secondRange b) bs
      if tail.length = n then (Char.ofNat (tail.foldl (fun v t => v * 64 + (t - 128)) high), n)
      else (replacement, tail.length)

/-- The characters of bytes. -/
def utf8Decode : List Nat → List Char
  | [] => []
  | b :: bs =>
    let (c, n) := firstChar b bs
    c :: utf8Decode (bs.drop n)
termination_by bs => bs.length
decreasing_by simp only [List.length_drop, List.length_cons]; omega

end QueryCanvas.Text
