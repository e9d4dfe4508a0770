import QueryCanvas.Sql.Dialect
import QueryCanvas.Value

/-!
# Literals

How a value is written into a statement. Texts stand in single quotes with the quote doubled; truth
values and times depend on the dialect; whatever has no literal of its own is written as its text.
`numericForm` turns text that looks like a number into that number.
-/

namespace QueryCanvas.Sql

open Numeral

/-- A text as a literal. -/
def textLiteral (d : Dialect) (cs : List Char) : List Char :=
  enclose '\x27' (if d.escapesBackslash then doubled '\\' cs else cs)

/-- A truth value as a literal. -/
def boolLiteral (d : Dialect) (b : Bool) : List Char :=
  match d, b with
  | .sqlite, true => ['1']
  | .sqlite, false => ['0']
  | _, true => "true".toList
  | _, false => "false".toList

/-- A time of day as a dialect writes it: SQLite always with a fraction and never with an offset. -/
def timeChars (d : Dialect) (t : TimeOfDay) : List Char :=
  match d with
  | .sqlite => Calendar.clockChars .always t
  | _ => Calendar.timeChars t

/-- A value as a literal. -/
def literal (d : Dialect) : Value → List Char
  | .bool b => boolLiteral d b
  | .int n => (toString n).toList
  | .float x => x.text.toList
  | .decimal x => x.text.toList
  | .text s => textLiteral d s.toList
  | .date x => textLiteral d (Calendar.dateChars x)
  | .moment m => textLiteral d (Calendar.dateChars m.date ++ ' ' :: timeChars d m.time)
  | .time t => textLiteral d (timeChars d t)
  | v => textLiteral d v.toText.toList

/-- Why a number cannot be written: the text it is read from has more digits than are read, or its
own text would have. -/
inductive NumeralTooLong where
  | read (digits : Nat)
  | written
  deriving DecidableEq, Repr

/-- The wording of the refusal of a number. -/
def NumeralTooLong.message (e : NumeralTooLong) : String :=
  let found := match e with
    | .read n => s!": value has {n} digits"
    | .written => ""
  s!"Exceeds the limit ({maxDigits} digits) for integer string conversion" ++ found
    ++ "; use sys.set_int_max_str_digits() to increase the limit"

mutual
/-- Whether no whole number in a value has too many digits to be written. -/
def isWritable : Value → Bool
  | .int n => (Nat.toDigits 10 n.natAbs).length ≤ maxDigits
  | .list vs | .tuple vs | .unordered vs => areWritable vs
  | .record fs => fieldsWritable fs
  | .range lo hi => isWritable lo && isWritable hi
  | _ => true

/-- Whether no whole number in some values has too many digits to be written. -/
def areWritable : List Value → Bool
  | [] => true
  | v :: vs => isWritable v && areWritable vs

/-- Whether no whole number in the fields of a record has too many digits to be written. -/
def fieldsWritable : List (String × Value) → Bool
  | [] => true
  | (_, v) :: fs => isWritable v && fieldsWritable fs
end

/-- A value, or why it cannot be written. -/
def writable (v : Value) : Except NumeralTooLong Value :=
  if isWritable v then .ok v else .error .written

/-- A value as a literal, or why it cannot be written. -/
def rendered (d : Dialect) (v : Value) : Except NumeralTooLong (List Char) := do
  return literal d (← writable v)

/-- Digits, and what follows them. -/
def spanDigits (cs : List Char) : List Char × List Char :=
  (cs.takeWhile Text.isDigit, cs.dropWhile Text.isDigit)

/-- The number that a text spells, if after trimming it is an optional sign followed by digits, by
digits with a point, or by a point with digits. -/
def numericForm (s : String) : Except NumeralTooLong (Option Value) :=
  let (negative, cs) := splitSign (Text.trimChars s.toList)
  let (whole, rest) := spanDigits cs
  match rest with
  | [] =>
    if whole.isEmpty then .ok none
    else if maxDigits < whole.length then .error (.read whole.length)
    else .ok (some (.int (signed negative (Text.digitsValue whole))))
  | '.' :: rest =>
    let (fraction, rest) := spanDigits rest
    if rest.isEmpty && !(whole.isEmpty && fraction.isEmpty) then
      .ok (some (.decimal (.finite negative (Text.digitsValue (whole ++ fraction)) (-(fraction.length : Int)))))
    else .ok none
  | _ => .ok none

/-- Text compared with a numeric column is taken as the number it looks like; anything else stays. -/
def numericIfPossible (numericColumn : Bool) (v : Value) : Except NumeralTooLong Value :=
  match v with
  | .text s => if numericColumn then do return (← numericForm s).getD v else .ok v
  | _ => .ok v

end QueryCanvas.Sql
