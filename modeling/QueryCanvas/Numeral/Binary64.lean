import QueryCanvas.Numeral.Integer

/-!
# Double-precision numbers

A double is a sign, a mantissa and a power of two. Decimal fractions are read to the nearest double,
ties to the even mantissa, in exact arithmetic, and a double is written with the fewest digits that
read back to it, the nearest such digits first.
-/

namespace QueryCanvas.Numeral

/-- A double-precision number: `±mantissa · 2 ^ exponent`, an infinity, or no number. -/
inductive Binary64 where
  | finite (negative : Bool) (mantissa : Nat) (exponent : Int)
  | infinite (negative : Bool)
  | nan
  deriving DecidableEq, Repr

namespace Binary64

/-- The smallest exponent of a double. -/
def minExponent : Int := -1074

/-- The largest exponent of a double. -/
def maxExponent : Int := 971

/-- The first mantissa that takes more than 53 bits. -/
def mantissaBound : Nat := Nat.pow 2 53

/-- Zero. -/
def zero : Binary64 := .finite false 0 minExponent

/-- `num / den` rounded to the nearest whole number, ties to even. -/
def roundDiv (num den : Nat) : Nat :=
  let q := num / den
  let r := num % den
  if 2 * r < den then q else if den < 2 * r then q + 1 else q + q % 2

/-- `num / den / 2 ^ e` as a quotient of two naturals. -/
def scaled (num den : Nat) (e : Int) : Nat × Nat :=
  if e < 0 then (num * Nat.pow 2 e.natAbs, den) else (num, den * Nat.pow 2 e.natAbs)

/-- The exponent at which `num / den` has a mantissa of 53 bits, or the smallest one. -/
def exponentFor (num den : Nat) : Int :=
  let e := max minExponent ((Nat.log2 num : Int) - Nat.log2 den - 53)
  let (n, d) := scaled num den e
  if n / d < mantissaBound then e else e + 1

/-- The double nearest to `± num / den`, ties to the even mantissa. -/
def ofRatio (negative : Bool) (num den : Nat) : Binary64 :=
  if num = 0 then .finite negative 0 minExponent
  else
    let e := exponentFor num den
    let (n, d) := scaled num den e
    let m := roundDiv n d
    let (m, e) := if m = mantissaBound then (m / 2, e + 1) else (m, e)
    if maxExponent < e then .infinite negative else .finite negative m e

/-- The double nearest to `± coefficient · 10 ^ exponent`. Numbers far outside the range are decided
by their order of magnitude alone. -/
def ofDecimal (negative : Bool) (coefficient : Nat) (exponent : Int) : Binary64 :=
  let order := exponent + (Nat.toDigits 10 coefficient).length
  if coefficient = 0 ∨ order < -400 then .finite negative 0 minExponent
  else if 400 < order then .infinite negative
  else if exponent < 0 then ofRatio negative coefficient (Nat.pow 10 exponent.natAbs)
  else ofRatio negative (coefficient * Nat.pow 10 exponent.natAbs) 1

/-- Whether a number is at most zero; no number is not. -/
def nonPositive : Binary64 → Bool
  | .finite negative m _ => negative || m == 0
  | .infinite negative => negative
  | .nan => false

/-- Whether a number is zero, of either sign. -/
def isZero : Binary64 → Bool
  | .finite _ m _ => m == 0
  | _ => false

/-- Whether a number is neither infinite nor missing. -/
def isFinite : Binary64 → Bool
  | .finite .. => true
  | _ => false

/-! ## Shortest digits -/

/-- The magnitude of `mantissa · 2 ^ exponent` as a quotient of two naturals. -/
def ratio (mantissa : Nat) (exponent : Int) : Nat × Nat :=
  if exponent < 0 then (mantissa, Nat.pow 2 exponent.natAbs) else (mantissa * Nat.pow 2 exponent.natAbs, 1)

/-- The position of the leading decimal digit of `num / den`: the `p` with
`10 ^ p ≤ num / den < 10 ^ (p + 1)`, searched downward from an upper bound. -/
def leadingPlace (num den : Nat) : Nat → Int → Int
  | 0, p => p
  | fuel + 1, p =>
    let below := if p < 0 then num * Nat.pow 10 p.natAbs < den else num < den * Nat.pow 10 p.natAbs
    if below then leadingPlace num den fuel (p - 1) else p

/-- The two neighbours of `num / den` on the grid of multiples of `10 ^ place`, nearest first. -/
def gridNeighbours (num den : Nat) (place : Int) : List Nat :=
  let (n, d) := if place < 0 then (num * Nat.pow 10 place.natAbs, den) else (num, den * Nat.pow 10 place.natAbs)
  let q := n / d
  let near := roundDiv n d
  [near, if near = q then q + 1 else q]

/-- The first grid, from the given one to ever finer ones, that has a point which reads back to
`x`. -/
def shortestFrom (x : Binary64) (num den : Nat) : Nat → Int → Nat × Int
  | 0, place => (roundDiv num den, place)
  | fuel + 1, place =>
    match (gridNeighbours num den place).find? fun c => ofDecimal false c place == x with
    | some c => (c, place)
    | none => shortestFrom x num den fuel (place - 1)

/-- Drops trailing zeros of a coefficient, raising the exponent. -/
def dropZeros : Nat → Nat → Int → Nat × Int
  | 0, c, e => (c, e)
  | fuel + 1, c, e => if c ≠ 0 ∧ c % 10 = 0 then dropZeros fuel (c / 10) (e + 1) else (c, e)

/-- The fewest digits, as coefficient and power of ten, that read back to a positive finite
double. -/
def shortest (mantissa : Nat) (exponent : Int) : Nat × Int :=
  let (num, den) := ratio mantissa exponent
  let top : Int := if exponent < 0 then (Nat.toDigits 10 (num / den + 1)).length else (Nat.toDigits 10 num).length
  let lead := leadingPlace num den 400 top
  let (c, e) := shortestFrom (.finite false mantissa exponent) num den 18 lead
  dropZeros 20 c e

/-- Where positional notation ends and how an exponent is written. -/
structure Layout where
  firstPositional : Int
  lastPositional : Int
  minExponentDigits : Nat

/-- Positional from `10 ^ -4` up to below `10 ^ 16`; an exponent has a sign and two digits. -/
def layout : Layout := ⟨-4, 15, 2⟩

/-- Decimal digits padded with zeros on the left. -/
def padLeft (width : Nat) (cs : List Char) : List Char :=
  List.replicate (width - cs.length) '0' ++ cs

/-- The digits `c · 10 ^ e` in positional or in exponent notation. -/
def layOut (l : Layout) (c : Nat) (e : Int) : List Char :=
  let ds := Nat.toDigits 10 c
  let lead := e + ds.length - 1
  if l.firstPositional ≤ lead ∧ lead ≤ l.lastPositional then
    if lead < 0 then '0' :: '.' :: (List.replicate (lead.natAbs - 1) '0' ++ ds)
    else
      let whole := lead.natAbs + 1
      if ds.length ≤ whole then ds ++ List.replicate (whole - ds.length) '0' ++ ['.', '0']
      else ds.take whole ++ '.' :: ds.drop whole
  else
    let fraction := ds.drop 1
    let point := if fraction.isEmpty then [] else '.' :: fraction
    ds.take 1 ++ point ++ 'e' :: (if lead < 0 then '-' else '+')
      :: padLeft l.minExponentDigits (Nat.toDigits 10 lead.natAbs)

/-- The written form of a double. -/
def text : Binary64 → String
  | .nan => "nan"
  | .infinite negative => if negative then "-inf" else "inf"
  | .finite negative m e =>
    let body := if m = 0 then ['0', '.', '0'] else
      let (c, x) := shortest m e
      layOut layout c x
    String.ofList (if negative then '-' :: body else body)

/-! ## Reading -/

/-- Whether a text is a given small-letter word, in any case. -/
def isWordText (word : String) (cs : List Char) : Bool :=
  cs.map Char.toLower == word.toList

/-- Reads the exponent part of a numeral: nothing, or a mark, a sign and digits. -/
def readExponent? : List Char → Option Int
  | [] => some 0
  | c :: cs =>
    if c = 'e' ∨ c = 'E' then
      let (negative, cs) := splitSign cs
      match takeDigits cs with
      | (d :: ds, []) => some (signed negative (ofDigits (d :: ds)))
      | _ => none
    else none

/-- Reads an unsigned decimal fraction with an optional exponent as digits, scale and exponent. -/
def readFraction? (cs : List Char) : Option (Nat × Int) :=
  let (whole, rest) := takeDigits cs
  let (fraction, rest) := match rest with
    | '.' :: rest => takeDigits rest
    | rest => ([], rest)
  if whole.isEmpty && fraction.isEmpty then none
  else (readExponent? rest).map fun e => (ofDigits (whole ++ fraction), e - fraction.length)

/-- Reads a double: a decimal fraction with an optional exponent, an infinity or the mark of no
number, blanks other than separators allowed around the whole. -/
def read? (s : String) : Option Binary64 :=
  let (negative, cs) := splitSign (unspaced s)
  if isWordText "nan" cs then some .nan
  else if isWordText "inf" cs || isWordText "infinity" cs then some (.infinite negative)
  else (readFraction? cs).map fun (c, e) => ofDecimal negative c e

/-- The double nearest to a whole number. -/
def ofInt (n : Int) : Binary64 :=
  ofRatio (n < 0) n.natAbs 1

/-! ## Order -/

/-- The order of two whole multiples of powers of two. -/
def compareScaled (a : Int) (e : Int) (b : Int) (f : Int) : Ordering :=
  let low := min e f
  compare (a * Nat.pow 2 (e - low).natAbs) (b * Nat.pow 2 (f - low).natAbs)

/-- The order of two numbers, where it exists; infinities stand at the ends. -/
def compare? : Binary64 → Binary64 → Option Ordering
  | .nan, _ | _, .nan => none
  | .infinite a, .infinite b => some (compare b.toNat a.toNat)
  | .infinite a, _ => some (if a then .lt else .gt)
  | _, .infinite b => some (if b then .gt else .lt)
  | .finite s m e, .finite t n f => some (compareScaled (signed s m) e (signed t n) f)

end Binary64

end QueryCanvas.Numeral
