import QueryCanvas.Value

/-!
# Reading JSON

A reader of JSON text that says where a text stops being JSON. It also takes the marks `NaN`,
`Infinity` and `-Infinity`, keeps whole numbers exact, and lets the last of two fields of one name
win at the place of the first. An escape may spell a unit of a UTF-16 pair without its partner; the
text that it stands in is then torn. Lists and records are read one in the other down to a depth.
-/

namespace QueryCanvas.Json

open Numeral

/-- Why a text is not read. -/
inductive ReadError where
  /-- The text stops being JSON at this character. -/
  | syntaxAt (position : Nat)
  /-- A whole number has more digits than are read. -/
  | numberTooLong
  /-- Lists and records stand one in the other more deeply than they are read. -/
  | nestedTooDeep
  deriving DecidableEq, Repr

/-- What is left of the text, and how many characters came before. -/
structure Cursor where
  position : Nat
  rest : List Char

/-- A cursor `n` characters further. -/
def Cursor.advance (c : Cursor) (n : Nat) : Cursor :=
  ⟨c.position + n, c.rest.drop n⟩

/-- Whether JSON skips a character between its tokens. -/
def isSpace (c : Char) : Bool :=
  c == ' ' || c == '\t' || c == '\n' || c == '\r'

/-- The cursor behind the space in front of it. -/
def Cursor.skipSpace (c : Cursor) : Cursor :=
  c.advance (c.rest.takeWhile isSpace).length

/-- The value of four hexadecimal digits. -/
def hex4? (a b c d : Char) : Option Nat := do
  return ((← Text.hexValue? a) * 16 + (← Text.hexValue? b)) * 256 + (← Text.hexValue? c) * 16 + (← Text.hexValue? d)

/-- The character that a one-letter escape stands for. -/
def escape? : Char → Option Char
  | '"' => some '"'
  | '\\' => some '\\'
  | '/' => some '/'
  | 'b' => some '\x08'
  | 'f' => some '\x0c'
  | 'n' => some '\n'
  | 'r' => some '\r'
  | 't' => some '\t'
  | _ => none

/-- The code points and UTF-16 units of a string whose opening quote stood at `opening`, up to its
closing quote. -/
def scanString (opening : Nat) : Nat → List Char → Except ReadError (List Nat × Cursor)
  | _, [] => .error (.syntaxAt opening)
  | p, '"' :: cs => .ok ([], ⟨p + 1, cs⟩)
  | _, ['\\'] => .error (.syntaxAt opening)
  | p, '\\' :: 'u' :: a :: b :: c :: d :: e :: cs => do
    let some n := hex4? a b c d | throw (.syntaxAt (p + 1))
    let (ns, cur) ← scanString opening (p + 6) (e :: cs)
    return (n :: ns, cur)
  | p, '\\' :: c :: cs => do
    if c = 'u' then throw (.syntaxAt (p + 1))
    let some x := escape? c | throw (.syntaxAt p)
    let (ns, cur) ← scanString opening (p + 2) cs
    return (x.toNat :: ns, cur)
  | p, c :: cs => do
    if c.toNat < 32 then throw (.syntaxAt p)
    let (ns, cur) ← scanString opening (p + 1) cs
    return (c.toNat :: ns, cur)

/-- Joins pairs of UTF-16 units to code points; a unit without its partner is kept. -/
def joinUnits : List Nat → List Nat
  | [] => []
  | [n] => [n]
  | h :: l :: ns =>
    if 55296 ≤ h ∧ h < 56320 ∧ 56320 ≤ l ∧ l < 57344 then
      (65536 + (h - 55296) * 1024 + (l - 56320)) :: joinUnits ns
    else h :: joinUnits (l :: ns)

/-- The text of some code points, torn if a unit is among them. -/
def textOf (points : List Nat) : Value :=
  if h : points.any Text.isUnit = true then .torn ⟨points, h⟩
  else .text (String.ofList (points.map Char.ofNat))

/-- Reads a string behind its opening quote. -/
def readString (c : Cursor) : Except ReadError (Value × Cursor) := do
  let (units, cur) ← scanString (c.position - 1) c.position c.rest
  return (textOf (joinUnits units), cur)

/-- The digits at the front of a text. -/
def plainDigits (cs : List Char) : List Char :=
  cs.takeWhile Char.isDigit

/-- The length of a fraction part at the front of a text; zero if there is none. -/
def fractionLength : List Char → Nat
  | '.' :: cs => if (plainDigits cs).isEmpty then 0 else 1 + (plainDigits cs).length
  | _ => 0

/-- The length of an exponent part at the front of a text; zero if there is none. -/
def exponentLength : List Char → Nat
  | c :: cs =>
    if c = 'e' ∨ c = 'E' then
      let (sign, ds) := match cs with
        | '+' :: ds | '-' :: ds => (1, ds)
        | ds => (0, ds)
      if (plainDigits ds).isEmpty then 0 else 1 + sign + (plainDigits ds).length
    else 0
  | [] => 0

/-- Reads a number, or fails where it starts. -/
def readNumber (c : Cursor) : Except ReadError (Value × Cursor) := do
  let sign := if c.rest.head? = some '-' then 1 else 0
  let unsignedPart := c.rest.drop sign
  let whole := match unsignedPart with
    | '0' :: _ => 1
    | cs => (plainDigits cs).length
  if whole = 0 then throw (.syntaxAt c.position)
  let fraction := fractionLength (unsignedPart.drop whole)
  let exponent := exponentLength (unsignedPart.drop (whole + fraction))
  let length := sign + whole + fraction + exponent
  let text := String.ofList (c.rest.take length)
  if fraction + exponent = 0 then
    match readInt? text with
    | some n => return (.int n, c.advance length)
    | none => throw .numberTooLong
  else return (.float ((Binary64.read? text).getD .nan), c.advance length)

/-- The words that are values. -/
def words : List (String × Value) :=
  [("null", .null), ("true", .bool true), ("false", .bool false), ("NaN", .float .nan),
   ("Infinity", .float (.infinite false)), ("-Infinity", .float (.infinite true))]

/-- The word at the front of a text, if one stands there. -/
def word? (cs : List Char) : Option (String × Value) :=
  words.find? fun w => w.1.toList.isPrefixOf cs

/-- Sets a field, in place if the name is there already. -/
def setField (fields : List (String × Value)) (name : String) (v : Value) : List (String × Value) :=
  if fields.any (·.1 == name) then fields.map fun f => if f.1 == name then (name, v) else f
  else fields ++ [(name, v)]

/-- Sets the field of a name that was read. Nobody asks for a torn name; such a field is kept apart, under
the characters that its name can be shown with and with the name in the place of its value. -/
def setNamed (fields apart : List (String × Value)) (name v : Value) :
    List (String × Value) × List (String × Value) :=
  match name with
  | .text s => (setField fields s v, apart)
  | torn => (fields, apart ++ [(torn.toText, torn)])

/-- The depth that is left within a list or a record. -/
def deeper : Nat → Except ReadError Nat
  | 0 => .error .nestedTooDeep
  | depth + 1 => .ok depth

mutual
/-- Reads a value that starts at the cursor, with no more than `depth` lists and records one in the other. -/
def readValue : Nat → Nat → Cursor → Except ReadError (Value × Cursor)
  | 0, _, c => .error (.syntaxAt c.position)
  | fuel + 1, depth, c =>
    match c.rest with
    | '"' :: _ => readString (c.advance 1)
    | '[' :: _ => do
      let within ← deeper depth
      let cur := (c.advance 1).skipSpace
      if cur.rest.head? = some ']' then return (.list [], cur.advance 1)
      let (items, cur) ← readItems fuel within cur
      return (.list items, cur)
    | '\x7b' :: _ => do
      let within ← deeper depth
      let cur := (c.advance 1).skipSpace
      if cur.rest.head? = some '\x7d' then return (.record [], cur.advance 1)
      let (fields, cur) ← readFields fuel within [] [] cur
      return (.record fields, cur)
    | cs =>
      match word? cs with
      | some (w, v) => .ok (v, c.advance w.length)
      | none => readNumber c

/-- Reads the items of a list up to its closing bracket. -/
def readItems : Nat → Nat → Cursor → Except ReadError (List Value × Cursor)
  | 0, _, c => .error (.syntaxAt c.position)
  | fuel + 1, depth, c => do
    let (v, cur) ← readValue fuel depth c
    let cur := cur.skipSpace
    match cur.rest with
    | ']' :: _ => return ([v], cur.advance 1)
    | ',' :: _ =>
      let next := (cur.advance 1).skipSpace
      if next.rest.head? = some ']' then throw (.syntaxAt cur.position)
      let (vs, cur) ← readItems fuel depth next
      return (v :: vs, cur)
    | _ => throw (.syntaxAt cur.position)

/-- Reads the fields of a record up to its closing brace, after those already read. Those that are kept
apart stand behind the others. -/
def readFields : Nat → Nat → List (String × Value) → List (String × Value) → Cursor →
    Except ReadError (List (String × Value) × Cursor)
  | 0, _, _, _, c => .error (.syntaxAt c.position)
  | fuel + 1, depth, fields, apart, c => do
    if c.rest.head? ≠ some '"' then throw (.syntaxAt c.position)
    let (name, cur) ← readString (c.advance 1)
    let cur := cur.skipSpace
    if cur.rest.head? ≠ some ':' then throw (.syntaxAt cur.position)
    let (v, cur) ← readValue fuel depth (cur.advance 1).skipSpace
    let (fields, apart) := setNamed fields apart name v
    let cur := cur.skipSpace
    match cur.rest with
    | '\x7d' :: _ => return (fields ++ apart, cur.advance 1)
    | ',' :: _ =>
      let next := (cur.advance 1).skipSpace
      if next.rest.head? = some '\x7d' then throw (.syntaxAt cur.position)
      readFields fuel depth fields apart next
    | _ => throw (.syntaxAt cur.position)
end

/-- The value that a whole text spells, read down to a depth. A byte order mark in front is skipped. -/
def read (depth : Nat) (s : String) : Except ReadError Value := do
  let cs := match s.toList with
    | '\uFEFF' :: cs => cs
    | cs => cs
  let (v, cur) ← readValue (2 * cs.length + 2) depth (Cursor.skipSpace ⟨0, cs⟩)
  let cur := cur.skipSpace
  if cur.rest.isEmpty then return v else throw (.syntaxAt cur.position)

end QueryCanvas.Json
