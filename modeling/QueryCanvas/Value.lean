import QueryCanvas.Calendar
import QueryCanvas.Numeral.Decimal
import QueryCanvas.Text.Torn

/-!
# Loose values

What arrives from outside before anything is known about it: request bodies, saved queries, rows of
the warehouse, filter operands. The module gives a loose value its truth, its text, its display form
inside containers, and the name of its type.
-/

namespace QueryCanvas

open Numeral

/-- An object of a class that is no kind of value: what messages and statements show of it, whether it
counts as true, and whether it may serve as a look-up key. It equals nothing but itself, cannot be read
through, and does nothing that the console asks of values. -/
structure ForeignObject where
  className : String
  text : String
  display : String
  truthy : Bool
  isKey : Bool
  deriving DecidableEq, Repr

/-- A loosely typed value. A record keeps its fields in order, and a set its items in the order in which
they are read off. `torn` is a text of which no encoding exists, and `range` an already built pair of
bounds, which is opaque to everything but the range operator. -/
inductive Value where
  | null
  | bool (b : Bool)
  | int (n : Int)
  | float (x : Binary64)
  | decimal (d : Decimal)
  | text (s : String)
  | torn (t : Text.Torn)
  | date (d : Date)
  | moment (m : Moment)
  | time (t : TimeOfDay)
  | list (items : List Value)
  | tuple (items : List Value)
  | record (fields : List (String × Value))
  | range (min max : Value)
  | unordered (items : List Value)
  | object (o : ForeignObject)
  deriving Repr

instance : Inhabited Value := ⟨.null⟩

namespace Value

/-- The name of a value's type as messages give it. -/
def typeName : Value → String
  | .null => "NoneType"
  | .bool _ => "bool"
  | .int _ => "int"
  | .float _ => "float"
  | .decimal _ => "decimal.Decimal"
  | .text _ | .torn _ => "str"
  | .date _ => "datetime.date"
  | .moment _ => "datetime.datetime"
  | .time _ => "datetime.time"
  | .list _ => "list"
  | .tuple _ => "tuple"
  | .record _ => "dict"
  | .range .. => "RangeValue"
  | .unordered _ => "set"
  | .object o => o.className

/-- Whether a value counts as true: null, zeros and empty texts and containers do not. -/
def truthy : Value → Bool
  | .null => false
  | .bool b => b
  | .int n => n != 0
  | .float x => !x.isZero
  | .decimal d => !d.isZero
  | .text s => s != ""
  | .list items | .tuple items | .unordered items => !items.isEmpty
  | .record fields => !fields.isEmpty
  | .object o => o.truthy
  | _ => true

/-- A value, or another one if it does not count as true. -/
def orElse (v : Value) (other : Value) : Value :=
  if v.truthy then v else other

/-- The value of the last field of a name, if the record has one. -/
def field? (fields : List (String × Value)) (name : String) : Option Value :=
  (fields.reverse.find? fun f => f.1 == name).map (·.2)

/-- The field of a name, or a default if it is absent. -/
def fieldOr (fields : List (String × Value)) (name : String) (default : Value) : Value :=
  (field? fields name).getD default

/-- Whether a value is a text that no encoding carries. -/
def isTorn : Value → Bool
  | .torn _ => true
  | _ => false

/-- Whether a value is a text, torn or not. -/
def isText : Value → Bool
  | .text _ | .torn _ => true
  | _ => false

/-- The text of a value that is one. -/
def text? : Value → Option String
  | .text s => some s
  | _ => none

mutual
/-- Whether a value may serve as a look-up key: lists, records and sets may not, nor what holds them. -/
def isKey : Value → Bool
  | .list _ | .record _ | .unordered _ => false
  | .tuple items => areKeys items
  | .range lo hi => lo.isKey && hi.isKey
  | .object o => o.isKey
  | _ => true

/-- Whether all values may serve as look-up keys. -/
def areKeys : List Value → Bool
  | [] => true
  | v :: vs => v.isKey && areKeys vs
end

/-! ## Display -/

/-- Arguments of a displayed constructor, commas between. -/
def arguments (args : List Nat) : String :=
  ", ".intercalate (args.map toString)

/-- The displayed zone of an offset. -/
def zoneDisplay (offset : Int) : String :=
  if offset = 0 then "datetime.timezone.utc"
  else
    let days := offset / 86400
    let seconds := offset % 86400
    let body :=
      if days = 0 then s!"seconds={seconds}"
      else if seconds = 0 then s!"days={days}"
      else s!"days={days}, seconds={seconds}"
    s!"datetime.timezone(datetime.timedelta({body}))"

/-- The displayed zone argument, if there is a zone. -/
def zoneArgument (offset : Option Int) : String :=
  match offset with
  | none => ""
  | some o => ", tzinfo=" ++ zoneDisplay o

/-- The clock arguments of a displayed time: trailing zero seconds and fractions are left out. -/
def clockArguments (t : TimeOfDay) : List Nat :=
  if t.microsecond ≠ 0 then [t.hour, t.minute, t.second, t.microsecond]
  else if t.second ≠ 0 then [t.hour, t.minute, t.second]
  else [t.hour, t.minute]

/-- The truth value's written form. -/
def boolText (b : Bool) : String :=
  if b then "True" else "False"

mutual
/-- How a value is shown inside a container or where a message shows it quoted. -/
def display : Value → String
  | .null => "None"
  | .bool b => boolText b
  | .int n => toString n
  | .float x => x.text
  | .decimal d => "Decimal('" ++ d.text ++ "')"
  | .text s => Text.quoted s
  | .torn t => t.quoted
  | .date d => s!"datetime.date({arguments [d.year, d.month, d.day]})"
  | .moment m =>
    s!"datetime.datetime({arguments ([m.date.year, m.date.month, m.date.day] ++ clockArguments m.time)}"
      ++ zoneArgument m.time.offset ++ ")"
  | .time t => s!"datetime.time({arguments (clockArguments t)}" ++ zoneArgument t.offset ++ ")"
  | .list items => "[" ++ ", ".intercalate (displayAll items) ++ "]"
  | .tuple [v] => "(" ++ v.display ++ ",)"
  | .tuple items => "(" ++ ", ".intercalate (displayAll items) ++ ")"
  | .record fields => "\x7b" ++ ", ".intercalate (displayFields fields) ++ "\x7d"
  | .range lo hi => "RangeValue(min=" ++ lo.display ++ ", max=" ++ hi.display ++ ")"
  | .unordered [] => "set()"
  | .unordered items => "\x7b" ++ ", ".intercalate (displayAll items) ++ "\x7d"
  | .object o => o.display

/-- The display forms of several values. -/
def displayAll : List Value → List String
  | [] => []
  | v :: vs => v.display :: displayAll vs

/-- The display forms of the fields of a record. -/
def displayFields : List (String × Value) → List String
  | [] => []
  | (k, v) :: fs => (Text.quoted k ++ ": " ++ v.display) :: displayFields fs
end

/-- The text of a value: a text is itself, a torn one as far as characters can show it, calendar values
have their standard form with a blank between date and time, everything else is as it is displayed. -/
def toText : Value → String
  | .text s => s
  | .torn t => t.text
  | .decimal d => d.text
  | .date d => String.ofList (Calendar.dateChars d)
  | .moment m => String.ofList (Calendar.momentChars ' ' m)
  | .time t => String.ofList (Calendar.timeChars t)
  | .object o => o.text
  | v => v.display

end Value

end QueryCanvas
