import QueryCanvas.Canvas.Basic
import QueryCanvas.Http.Issue

/-!
# Request bodies

The fields that each kind of request has in its body, and what the request asks for once they are
checked. Fields that are not asked for are ignored.
-/

namespace QueryCanvas.Http

open Numeral

/-! ## Whole numbers -/

/-- Whether a text starts with a numeral that is too long: a minus sign or none, and a run of digits that
starts with no zero. What follows the run does not matter. -/
def overruns (cs : List Char) : Bool :=
  let sign := if cs.head? = some '-' then 1 else 0
  let run := (cs.drop sign).takeWhile Char.isDigit
  run.head?.any (· != '0') && maxDigits < sign + run.length

/-- What is left behind zeros, and underscores between them, of which `last` was the last: digits or a minus
sign as they stand, and at the end or in front of a point `last` itself. -/
def behindZeros? (last : Char) : List Char → Option (List Char)
  | [] => some [last]
  | c :: cs =>
    if c = '0' ∨ c = '_' then behindZeros? c cs
    else if c = '.' then some (last :: c :: cs)
    else if c.isDigit ∨ c = '-' then some (c :: cs)
    else none

/-- A numeral without leading zeros. It has to start with a digit. -/
def withoutZeros? : List Char → Option (List Char)
  | [] => none
  | c :: cs => if c = '0' then behindZeros? c cs else if c.isDigit then some (c :: cs) else none

/-- A numeral without a fraction of zeros. -/
def withoutFraction (cs : List Char) : List Char :=
  let whole := cs.takeWhile (· ≠ '.')
  let fraction := cs.drop (whole.length + 1)
  if !fraction.isEmpty && fraction.all (· == '0') then whole else cs

/-- A numeral without the single underscores between two other characters. -/
def withoutUnderscores : List Char → List Char
  | c :: '_' :: d :: cs => if c ≠ '_' ∧ d ≠ '_' then c :: withoutUnderscores (d :: cs) else c :: '_' :: d :: cs
  | c :: cs => c :: withoutUnderscores cs
  | [] => []

/-- The whole number that digits spell behind a minus sign or none: there is no zero in front of other digits, and
there are not too many of them. -/
def plainWhole? (cs : List Char) : Option Int :=
  let (negative, ds) := match cs with
    | '-' :: ds => (true, ds)
    | ds => (false, ds)
  if ds.isEmpty || !ds.all Char.isDigit || (ds.head? == some '0' && ds.length != 1) || maxDigits < cs.length then none
  else some (signed negative (Text.digitsValue ds))

/-- The whole number that a text spells: blanks around it, one sign, leading zeros, a fraction of
zeros and single underscores are allowed. A minus sign may also stand behind leading zeros. -/
def wholeOfText (s : String) : Except IssueKind Int := do
  if overruns s.toList then throw .tooManyDigits
  let (negative, cs) := splitSign (unspaced s)
  let some cs := withoutZeros? cs | throw .notWholeText
  let cs := withoutUnderscores (withoutFraction cs)
  let some n := plainWhole? (if negative then '-' :: cs else cs) | throw .notWholeText
  return n

/-- The first magnitude that a double is not read as a whole number at. -/
def doubleBound : Nat := Nat.pow 2 63

/-- The whole number that a double is. -/
def wholeOfDouble : Binary64 → Except IssueKind Int
  | .finite negative m e =>
    if e < 0 ∧ m % Nat.pow 2 e.natAbs ≠ 0 then .error .fraction
    else
      let n := if e < 0 then m / Nat.pow 2 e.natAbs else m * Nat.pow 2 e.natAbs
      if doubleBound ≤ n then .error .tooManyDigits else .ok (signed negative n)
  | _ => .error .notFinite

/-- The whole number that a value gives. -/
def wholeOf : Value → Except IssueKind Int
  | .int n => .ok n
  | .bool b => .ok b.toNat
  | .float x => wholeOfDouble x
  | .text s => wholeOfText s
  | .torn _ => .error .notUnicode
  | _ => .error .notWhole

/-! ## Fields -/

/-- The fields of a body. -/
abbrev BodyFields := List (String × Value)

/-- The place of a field. -/
def fieldPlace (name : String) : List Value :=
  [.text "body", .text name]

/-- A field that has to be there, read by `read`. -/
def required {α : Type} (fs : BodyFields) (name : String) (read : Value → Except IssueKind α) : Checked α :=
  match Value.field? fs name with
  | none => .refused [⟨.missing, fieldPlace name, .record fs⟩]
  | some v =>
    match read v with
    | .ok a => .ok a
    | .error k => .refused [⟨k, fieldPlace name, v⟩]

/-- A field that may be absent, read by `read`. -/
def defaulted {α : Type} (fs : BodyFields) (name : String) (default : α) (read : Value → Except IssueKind α) :
    Checked α :=
  if (Value.field? fs name).isSome then required fs name read else .ok default

/-- Reads a value that may be null. -/
def orNull {α : Type} (read : Value → Except IssueKind α) : Value → Except IssueKind (Option α)
  | .null => .ok none
  | v => (read v).map some

/-- Reads a text, which may be torn. -/
def readText (v : Value) : Except IssueKind Value :=
  if v.isText then .ok v else .error .notText

/-- Reads a text that is not empty. To be measured it must not be torn. -/
def readFilledText : Value → Except IssueKind String
  | .text s => if s = "" then .error .textEmpty else .ok s
  | .torn _ => .error .notUnicode
  | _ => .error .notText

/-- Reads a member of a closed set, as its name. -/
def readOneOf (names : List String) : Value → Except IssueKind String
  | .text s => if names.contains s then .ok s else .error (.notOneOf names)
  | .torn _ => .error .notUnicode
  | _ => .error (.notOneOf names)

/-- A text field. -/
def textField (fs : BodyFields) (name : String) : Checked Value :=
  required fs name readText

/-- A text field that may be absent or null. -/
def optionalTextField (fs : BodyFields) (name : String) : Checked Value :=
  (fun v => v.getD .null) <$> defaulted fs name none (orNull readText)

/-! ## Requests -/

/-- What a request with a body asks for. -/
inductive Command where
  | edit (e : Edit)
  | reset (name : Option Value)

/-- The kinds of request that have a body. -/
inductive BodyKind where
  | reset | rename | table | column | join | filter | sort | group | aggregate | limit
  deriving DecidableEq, Repr

/-- What the fields of a body ask for. -/
def BodyKind.command (k : BodyKind) (fs : BodyFields) : Checked Command :=
  match k with
  | .reset => .reset <$> defaulted fs "name" none (orNull readText)
  | .rename => (fun s => .edit (.rename (.text s))) <$> required fs "name" readFilledText
  | .table => (fun t => .edit (.addTable t)) <$> textField fs "table"
  | .column =>
    (fun t c a => .edit (.toggleColumn t c a)) <$> textField fs "table" <*> textField fs "column"
      <*> optionalTextField fs "alias"
  | .join =>
    (fun lt lc rt rc k => .edit (.addJoin lt lc rt rc (.text k))) <$> textField fs "left_table"
      <*> textField fs "left_column" <*> textField fs "right_table" <*> textField fs "right_column"
      <*> defaulted fs "join_kind" JoinKind.inner.name (readOneOf (JoinKind.all.map JoinKind.name))
  | .filter =>
    (fun t c o k => .edit (.addFilter t c o (Value.fieldOr fs "value" .null) ((k.map Value.text).getD .null)))
      <$> textField fs "table" <*> textField fs "column" <*> textField fs "operator"
      <*> defaulted fs "logical_connective" none (orNull (readOneOf (Connective.all.map Connective.name)))
  | .sort =>
    (fun t c d => .edit (.addSort t c (.text d))) <$> textField fs "table" <*> textField fs "column"
      <*> defaulted fs "direction" Direction.asc.name (readOneOf (Direction.all.map Direction.name))
  | .group => (fun t c => .edit (.addGroup t c)) <$> textField fs "table" <*> textField fs "column"
  | .aggregate =>
    (fun f t c a => .edit (.addAggregate (.text f) t c a))
      <$> required fs "function" (readOneOf (Aggregation.all.map Aggregation.name))
      <*> textField fs "table" <*> textField fs "column" <*> optionalTextField fs "alias"
  | .limit =>
    (fun n => .edit (.setLimit ((n.map Value.int).getD .null))) <$> defaulted fs "limit" none (orNull wholeOf)

/-- What a body asks for: it has to be there and to be a record. -/
def BodyKind.check (k : BodyKind) (body : Option Value) : Checked Command :=
  match body with
  | none => .refused [⟨.missing, [.text "body"], .null⟩]
  | some (.record fs) => k.command fs
  | some v => .refused [⟨.notRecord, [.text "body"], v⟩]

end QueryCanvas.Http
