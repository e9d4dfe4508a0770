import QueryCanvas.Json.Printer
import QueryCanvas.Json.Reader

/-!
# Issues

What a request is refused for before anything is done: fields that are missing or of the wrong form.
An issue names the form that was expected, the place, and shows the offending input. `Checked`
collects the issues of all fields in order.
-/

namespace QueryCanvas.Http

/-- The form that an input fails to have. -/
inductive IssueKind where
  | missing
  | notJson
  | notRecord
  | notText
  | notUnicode
  | textEmpty
  | notOneOf (names : List String)
  | notWholeText
  | tooManyDigits
  | fraction
  | notWhole
  | notFinite
  | below (least : Int)
  | above (most : Int)
  deriving DecidableEq, Repr

namespace IssueKind

/-- The names of a closed set in single quotes, commas between and `or` before the last. -/
def listed (names : List String) : String :=
  let marked := names.map fun n => "'" ++ n ++ "'"
  match marked.reverse with
  | last :: first :: rest => ", ".intercalate (first :: rest).reverse ++ " or " ++ last
  | [only] => only
  | [] => ""

/-- The name of an issue. -/
def name : IssueKind → String
  | .missing => "missing"
  | .notJson => "json_invalid"
  | .notRecord => "model_attributes_type"
  | .notText => "string_type"
  | .notUnicode => "string_unicode"
  | .textEmpty => "string_too_short"
  | .notOneOf _ => "enum"
  | .notWholeText => "int_parsing"
  | .tooManyDigits => "int_parsing_size"
  | .fraction => "int_from_float"
  | .notWhole => "int_type"
  | .notFinite => "finite_number"
  | .below _ => "greater_than_equal"
  | .above _ => "less_than_equal"

/-- The wording of an issue. -/
def message : IssueKind → String
  | .missing => "Field required"
  | .notJson => "JSON decode error"
  | .notRecord => "Input should be a valid dictionary or object to extract fields from"
  | .notText => "Input should be a valid string"
  | .notUnicode => "Input should be a valid string, unable to parse raw data as a unicode string"
  | .textEmpty => "String should have at least 1 character"
  | .notOneOf names => "Input should be " ++ listed names
  | .notWholeText => "Input should be a valid integer, unable to parse string as an integer"
  | .tooManyDigits => "Unable to parse input string as an integer, exceeded maximum size"
  | .fraction => "Input should be a valid integer, got a number with a fractional part"
  | .notWhole => "Input should be a valid integer"
  | .notFinite => "Input should be a finite number"
  | .below n => "Input should be greater than or equal to " ++ toString n
  | .above n => "Input should be less than or equal to " ++ toString n

end IssueKind

/-- An issue: its kind, the place as a tuple of names and positions, and the input shown with it. -/
structure Issue where
  kind : IssueKind
  place : List Value
  input : Value
  deriving Repr

mutual
/-- A value as a response shows it: records and lists item by item; texts, numbers, truth values and null
as they are, torn texts among them; everything else as its text. -/
def shownForm : Value → Value
  | .record fields => .record (shownFields fields)
  | .list items => .list (shownForms items)
  | .text s => .text s
  | .torn t => .torn t
  | .int n => .int n
  | .float x => .float x
  | .bool b => .bool b
  | .null => .null
  | v => .text v.toText

/-- Several values as a response shows them. -/
def shownForms : List Value → List Value
  | [] => []
  | v :: vs => shownForm v :: shownForms vs

/-- The fields of a record as a response shows them. -/
def shownFields : List (String × Value) → List (String × Value)
  | [] => []
  | (name, v) :: fs => (name, shownForm v) :: shownFields fs
end

mutual
/-- How deep a value has to be gone into to show it: one level for each list and each record. -/
def showingDepth : Value → Nat
  | .record fields => showingDepthFields fields + 1
  | .list items => showingDepths items + 1
  | _ => 0

/-- How deep several values have to be gone into. -/
def showingDepths : List Value → Nat
  | [] => 0
  | v :: vs => max (showingDepth v) (showingDepths vs)

/-- How deep the fields of a record have to be gone into. -/
def showingDepthFields : List (String × Value) → Nat
  | [] => 0
  | (_, v) :: fs => max (showingDepth v) (showingDepthFields fs)
end

/-- What the checks report of an issue. -/
def Issue.report (i : Issue) : Value :=
  .record
    [("type", .text i.kind.name), ("loc", .tuple i.place), ("msg", .text i.kind.message), ("input", i.input)]

/-- An issue as a response shows it. -/
def Issue.toValue (i : Issue) : Value :=
  shownForm i.report

/-- A checked input, or the issues it has. -/
inductive Checked (α : Type) where
  | ok (a : α)
  | refused (issues : List Issue)

namespace Checked

/-- The issues of a checked input. -/
def issues {α : Type} : Checked α → List Issue
  | .ok _ => []
  | .refused is => is

/-- Applies a checked function to a checked input; the issues of both are kept in order. -/
def ap {α β : Type} : Checked (α → β) → Checked α → Checked β
  | .ok f, .ok a => .ok (f a)
  | f, a => .refused (f.issues ++ a.issues)

/-- Applies a function to a checked input. -/
def map {α β : Type} (f : α → β) (a : Checked α) : Checked β :=
  ap (.ok f) a

instance : Functor Checked where
  map := map

instance : Seq Checked where
  seq f a := ap f (a ())

end Checked

end QueryCanvas.Http
