import QueryCanvas.Numeral.Binary64

/-!
# Exact decimals

A decimal keeps its digits and its exponent as they were written: `1.50` and `1.5` are two decimals
with one value. It is written positionally unless its exponent is positive or its leading digit
stands more than six places behind the point.
-/

namespace QueryCanvas.Numeral

/-- An exact decimal `±coefficient · 10 ^ exponent`, an infinity, or no number. -/
inductive Decimal where
  | finite (negative : Bool) (coefficient : Nat) (exponent : Int)
  | infinite (negative : Bool)
  | nan (negative : Bool) (signaling : Bool) (payload : List Nat)
  deriving DecidableEq, Repr

namespace Decimal

/-- The sign of a written decimal. -/
def signText (negative : Bool) : List Char :=
  if negative then ['-'] else []

/-- The written form of the digits `c · 10 ^ e`. -/
def digitsText (c : Nat) (e : Int) : List Char :=
  let ds := Nat.toDigits 10 c
  let point := e + ds.length
  if e ≤ 0 ∧ -6 < point then
    if point ≤ 0 then '0' :: '.' :: (List.replicate point.natAbs '0' ++ ds)
    else if (ds.length : Int) ≤ point then ds
    else ds.take point.natAbs ++ '.' :: ds.drop point.natAbs
  else
    let shift := point - 1
    let fraction := ds.drop 1
    ds.take 1 ++ (if fraction.isEmpty then [] else '.' :: fraction)
      ++ 'E' :: (if shift < 0 then '-' else '+') :: Nat.toDigits 10 shift.natAbs

/-- The written form of a decimal. -/
def text : Decimal → String
  | .finite negative c e => String.ofList (signText negative ++ digitsText c e)
  | .infinite negative => String.ofList (signText negative ++ "Infinity".toList)
  | .nan negative signaling payload =>
    String.ofList (signText negative ++ (if signaling then "sNaN" else "NaN").toList
      ++ payload.map Nat.digitChar)

/-- Whether a decimal is zero. -/
def isZero : Decimal → Bool
  | .finite _ c _ => c == 0
  | _ => false

/-- Reads a decimal, keeping digits and exponent. -/
def read? (s : String) : Option Decimal :=
  let (negative, cs) := splitSign (Text.trimChars s.toList)
  let word (w : String) := Binary64.isWordText w
  if word "inf" cs || word "infinity" cs then some (.infinite negative)
  else if word "nan" (cs.take 3) && (cs.drop 3).all Text.isDigit then
    some (.nan negative false ((cs.drop 3).filterMap Text.digit?))
  else if word "snan" (cs.take 4) && (cs.drop 4).all Text.isDigit then
    some (.nan negative true ((cs.drop 4).filterMap Text.digit?))
  else (Binary64.readFraction? cs).map fun (c, e) => .finite negative c e

end Decimal

end QueryCanvas.Numeral
