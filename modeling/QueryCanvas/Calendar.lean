import QueryCanvas.Numeral.Binary64

/-!
# Calendar values

Dates, times of day and moments with an optional offset from universal time, in their standard
written form: `2024-01-02`, `03:04:05`, a fraction of six digits only if it is not zero, an offset
only if there is one.
-/

namespace QueryCanvas

/-- A calendar date. -/
structure Date where
  year : Nat
  month : Nat
  day : Nat
  deriving DecidableEq, Repr

/-- A time of day, with its offset from universal time in seconds if it has one. -/
structure TimeOfDay where
  hour : Nat
  minute : Nat
  second : Nat
  microsecond : Nat
  offset : Option Int
  deriving DecidableEq, Repr

/-- A date with a time of day. -/
structure Moment where
  date : Date
  time : TimeOfDay
  deriving DecidableEq, Repr

namespace Calendar

/-- A number with at least `width` digits. -/
def padded (width n : Nat) : List Char :=
  Numeral.Binary64.padLeft width (Nat.toDigits 10 n)

/-- An offset in its written form: sign, hours, minutes, and seconds only if there are any. -/
def offsetText (seconds : Int) : List Char :=
  let n := seconds.natAbs
  (if seconds < 0 then '-' else '+') :: padded 2 (n / 3600) ++ ':' :: padded 2 (n / 60 % 60)
    ++ (if n % 60 = 0 then [] else ':' :: padded 2 (n % 60))

/-- How the fraction of a second is written: left out when zero, or always six digits. -/
inductive Fraction where
  | whenNonzero
  | always
  deriving DecidableEq, Repr

/-- A clock reading without its offset. -/
def clockChars (f : Fraction) (t : TimeOfDay) : List Char :=
  padded 2 t.hour ++ ':' :: padded 2 t.minute ++ ':' :: padded 2 t.second
    ++ (if t.microsecond = 0 ∧ f = .whenNonzero then [] else '.' :: padded 6 t.microsecond)

/-- A time of day in its written form. -/
def timeChars (t : TimeOfDay) : List Char :=
  clockChars .whenNonzero t ++ (t.offset.map offsetText).getD []

/-- A date in its written form. -/
def dateChars (d : Date) : List Char :=
  padded 4 d.year ++ '-' :: padded 2 d.month ++ '-' :: padded 2 d.day

/-- A moment in its written form, `separator` between date and time. -/
def momentChars (separator : Char) (m : Moment) : List Char :=
  dateChars m.date ++ separator :: timeChars m.time

/-! ## Reading -/

/-- Exactly `width` plain digits at the front of a text. -/
def fixedNumber? (width : Nat) (cs : List Char) : Option (Nat × List Char) :=
  let ds := cs.take width
  if ds.length = width ∧ ds.all Char.isDigit then some (Text.digitsValue ds, cs.drop width) else none

/-- A given character at the front of a text. -/
def skip? (c : Char) : List Char → Option (List Char)
  | [] => none
  | d :: cs => if c = d then some cs else none

/-- A date at the front of a text. -/
def readDate? (cs : List Char) : Option (Date × List Char) := do
  let (year, cs) ← fixedNumber? 4 cs
  let cs ← skip? '-' cs
  let (month, cs) ← fixedNumber? 2 cs
  let cs ← skip? '-' cs
  let (day, cs) ← fixedNumber? 2 cs
  return (⟨year, month, day⟩, cs)

/-- The fraction of a second at the front of a text, in microseconds. -/
def readFraction (cs : List Char) : Nat × List Char :=
  match cs with
  | '.' :: rest =>
    let ds := rest.takeWhile Char.isDigit
    (Text.digitsValue ((ds ++ List.replicate 6 '0').take 6), rest.drop ds.length)
  | _ => (0, cs)

/-- Hours, minutes and possibly seconds, in seconds. -/
def readHms? (cs : List Char) : Option (Nat × Nat × Nat × List Char) := do
  let (hour, cs) ← fixedNumber? 2 cs
  let cs ← skip? ':' cs
  let (minute, cs) ← fixedNumber? 2 cs
  match cs with
  | ':' :: rest =>
    let (second, rest) ← fixedNumber? 2 rest
    return (hour, minute, second, rest)
  | _ => return (hour, minute, 0, cs)

/-- An offset that fills the rest of a text, if there is any rest. -/
def readOffset? : List Char → Option (Option Int)
  | [] => some none
  | ['Z'] => some (some 0)
  | c :: cs =>
    if c = '+' ∨ c = '-' then
      match readHms? cs with
      | some (h, m, s, []) => some (some (Numeral.signed (c == '-') (h * 3600 + m * 60 + s)))
      | _ => none
    else none

/-- A time of day that fills a text. -/
def readTime? (cs : List Char) : Option TimeOfDay := do
  let (hour, minute, second, cs) ← readHms? cs
  let (microsecond, cs) := readFraction cs
  let offset ← readOffset? cs
  return ⟨hour, minute, second, microsecond, offset⟩

/-- A moment that fills a text; one character stands between date and time. -/
def readMoment? (cs : List Char) : Option Moment := do
  let (date, cs) ← readDate? cs
  match cs with
  | [] => return ⟨date, ⟨0, 0, 0, 0, none⟩⟩
  | _ :: rest => return ⟨date, ← readTime? rest⟩

/-! ## Arithmetic -/

/-- The moment a number of seconds after the first midnight of 2024, within January. -/
def afterNewYear (seconds : Nat) : Moment :=
  ⟨⟨2024, 1, 1 + seconds / 86400⟩,
    ⟨seconds / 3600 % 24, seconds / 60 % 60, seconds % 60, 0, none⟩⟩

end Calendar

end QueryCanvas
