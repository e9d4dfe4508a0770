import QueryCanvas.Value

/-!
# JSON text

The indented JSON text of a loose value: two blanks per level, everything beyond plain printable
characters escaped in UTF-16 units. Values that JSON has no form for are written as their text.
-/

namespace QueryCanvas.Json

/-- A UTF-16 unit as an escape. -/
def unitEscape (n : Nat) : List Char :=
  '\\' :: 'u' :: Text.hexDigits 4 n

/-- A character as it stands inside a JSON string. -/
def escapeChar (c : Char) : List Char :=
  match c with
  | '"' => ['\\', '"']
  | '\\' => ['\\', '\\']
  | '\n' => ['\\', 'n']
  | '\r' => ['\\', 'r']
  | '\t' => ['\\', 't']
  | '\x08' => ['\\', 'b']
  | '\x0c' => ['\\', 'f']
  | c =>
    if 32 ≤ c.toNat ∧ c.toNat < 127 then [c]
    else if c.toNat < 65536 then unitEscape c.toNat
    else
      let n := c.toNat - 65536
      unitEscape (55296 + n / 1024) ++ unitEscape (56320 + n % 1024)

/-- A text as a JSON string. -/
def stringText (s : String) : String :=
  String.ofList ('"' :: s.toList.flatMap escapeChar ++ ['"'])

/-- A torn text as a JSON string: the escapes can spell its units. -/
def tornText (t : Text.Torn) : String :=
  String.ofList ('"' :: t.points.flatMap (fun n => if Text.isUnit n then unitEscape n else escapeChar (Char.ofNat n))
    ++ ['"'])

/-- A double as a JSON number, or the mark that stands for one that JSON cannot write. -/
def floatText : Numeral.Binary64 → String
  | .nan => "NaN"
  | .infinite negative => if negative then "-Infinity" else "Infinity"
  | x => x.text

/-- A line break with the indentation of a level. -/
def newline (level : Nat) : String :=
  String.ofList ('\n' :: List.replicate (2 * level) ' ')

/-- Items between brackets, one a line; no items leave the brackets together. -/
def block (opening closing : String) (level : Nat) (items : List String) : String :=
  if items.isEmpty then opening ++ closing
  else opening ++ newline (level + 1) ++ ("," ++ newline (level + 1)).intercalate items ++ newline level ++ closing

mutual
/-- The indented JSON text of a value at a level. -/
def render (level : Nat) : Value → String
  | .null => "null"
  | .bool b => if b then "true" else "false"
  | .int n => toString n
  | .float x => floatText x
  | .text s => stringText s
  | .torn t => tornText t
  | .list items | .tuple items => block "[" "]" level (renderAll (level + 1) items)
  | .record fields => block "\x7b" "\x7d" level (renderFields (level + 1) fields)
  | v => stringText v.toText

/-- The JSON texts of several values. -/
def renderAll (level : Nat) : List Value → List String
  | [] => []
  | v :: vs => render level v :: renderAll level vs

/-- The JSON texts of the fields of a record. -/
def renderFields (level : Nat) : List (String × Value) → List String
  | [] => []
  | (k, v) :: fs => (stringText k ++ ": " ++ render level v) :: renderFields level fs
end

/-- The indented JSON text of a value. -/
def print (v : Value) : String :=
  render 0 v

mutual
/-- Whether strict JSON can write a value and UTF-8 can carry it: no double in it is infinite or missing, no
text is torn, and nothing in it is a set or an object of a class of its own. -/
def encodable : Value → Bool
  | .float x => x.isFinite
  | .torn _ => false
  | .list items | .tuple items => allEncodable items
  | .record fields => fieldsEncodable fields
  | .unordered _ | .object _ => false
  | _ => true

/-- Whether strict JSON can write all values. -/
def allEncodable : List Value → Bool
  | [] => true
  | v :: vs => encodable v && allEncodable vs

/-- Whether strict JSON can write all fields. -/
def fieldsEncodable : List (String × Value) → Bool
  | [] => true
  | (_, v) :: fs => encodable v && fieldsEncodable fs
end

end QueryCanvas.Json
