import QueryCanvas.Text.Blank
import QueryCanvas.Text.Digit

/-!
# Integer text

The written form of a whole number: an optional sign and decimal digits of any script, single
underscores allowed between two digits, blanks other than separators allowed around the whole. A
number of more than `maxDigits` digits is not read.
-/

namespace QueryCanvas.Numeral

open Text

/-- The most digits that the text of a whole number may have. -/
def maxDigits : Nat := 4300

/-- The characters of a numeral without the blanks around it; separators are no such blanks. -/
def unspaced (s : String) : List Char :=
  trimWhere (fun c => isBlank c && !isSeparator c) s.toList

/-- Splits off a sign: whether it was a minus, and the rest. -/
def splitSign : List Char → Bool × List Char
  | '-' :: cs => (true, cs)
  | '+' :: cs => (false, cs)
  | cs => (false, cs)

/-- Whether a text starts with a digit. -/
def startsWithDigit (cs : List Char) : Bool :=
  cs.head?.any isDigit

/-- The digits at the front of a text and what follows them; `inside` tells that a digit stands
before, so that an underscore with a digit behind it is skipped. -/
def takeDigitsFrom (inside : Bool) : List Char → List Nat × List Char
  | [] => ([], [])
  | c :: cs =>
    match digit? c with
    | some d =>
      let (ds, rest) := takeDigitsFrom true cs
      (d :: ds, rest)
    | none => if inside && c == '_' && startsWithDigit cs then takeDigitsFrom false cs else ([], c :: cs)

/-- The digits at the front of a text, single underscores between two digits skipped, and what
follows them. -/
def takeDigits (cs : List Char) : List Nat × List Char :=
  takeDigitsFrom false cs

/-- The number that a digit sequence spells in base ten. -/
def ofDigits (ds : List Nat) : Nat :=
  ds.foldl (fun n d => 10 * n + d) 0

/-- A magnitude with a sign. -/
def signed (negative : Bool) (n : Nat) : Int :=
  if negative then -(n : Int) else n

/-- Reads a whole number, `none` if the text spells none or has too many digits. -/
def readInt? (s : String) : Option Int :=
  let (negative, cs) := splitSign (unspaced s)
  match takeDigits cs with
  | ([], _) => none
  | (ds, []) => if ds.length ≤ maxDigits then some (signed negative (ofDigits ds)) else none
  | (_, _ :: _) => none

/-! ## Signs -/

/-- What is split off is a sign, or nothing. -/
theorem splitSign_spec (cs : List Char) :
    ∃ sign ∈ [[], ['-'], ['+']], cs = sign ++ (splitSign cs).2 ∧ (splitSign cs).1 = (sign == ['-']) := by
  unfold splitSign
  split
  · exact ⟨['-'], by simp, rfl, rfl⟩
  · exact ⟨['+'], by simp, rfl, rfl⟩
  · exact ⟨[], by simp, rfl, rfl⟩

/-- A sign in front of what does not start with one is split off. -/
theorem splitSign_append {sign cs : List Char} (hsign : sign ∈ [[], ['-'], ['+']])
    (h : ∀ c, cs.head? = some c → c ≠ '-' ∧ c ≠ '+') : splitSign (sign ++ cs) = (sign == ['-'], cs) := by
  simp only [List.mem_cons, List.not_mem_nil, or_false] at hsign
  rcases hsign with rfl | rfl | rfl
  · cases cs with
    | nil => rfl
    | cons c cs =>
      obtain ⟨hminus, hplus⟩ := h c rfl
      rw [List.nil_append, splitSign]
      · rfl
      · rintro cs heq
        exact hminus (List.cons.inj heq).1
      · rintro cs heq
        exact hplus (List.cons.inj heq).1
  · rfl
  · rfl

theorem not_sign_of_isDigit {c : Char} (h : isDigit c = true) : c ≠ '-' ∧ c ≠ '+' := by
  constructor <;> rintro rfl <;> exact absurd h (by decide)

end QueryCanvas.Numeral
