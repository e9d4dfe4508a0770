import QueryCanvas.Sql.Literal

/-!
# Numeric settings

A numeric setting is read from text and has to be positive. Blank text gives the default; text that
spells no number, or one that is not positive, gives the default with a warning. The warning shows the
default, so there is none for a default that has too many digits to be written. The console has four
numeric settings.
-/

namespace QueryCanvas

namespace Setting

open Numeral

/-- The two kinds of numbers a setting can have. -/
inductive NumberKind where
  | whole | real
  deriving DecidableEq, Repr

/-- The number that a text spells, as a value. -/
def NumberKind.read? (k : NumberKind) (raw : String) : Option Value :=
  match k with
  | .whole => (readInt? raw).map .int
  | .real => (Binary64.read? raw).map .float

/-- Whether a number is at most zero. -/
def isNonPositive : Value → Bool
  | .int n => n ≤ 0
  | .float x => x.nonPositive
  | _ => false

/-- What a setting is read as: its value, and a warning if its text was not used. -/
structure Reading where
  value : Value
  warning : Option String
  deriving Repr

/-- The default, with the warning that a text was not used and the reason in front. -/
def notUsed (reason raw name : String) (default : Value) : Except Sql.NumeralTooLong Reading := do
  let shown ← Sql.writable default
  return ⟨default,
    some (reason ++ " value " ++ Text.quoted raw ++ " for " ++ name ++ ", using default " ++ shown.toText)⟩

/-- Reads the setting of a name from its text, if there is any. -/
def read (name : String) (kind : NumberKind) (default : Value) (raw : Option String) :
    Except Sql.NumeralTooLong Reading :=
  match raw with
  | none => .ok ⟨default, none⟩
  | some raw =>
    if Text.allBlank raw then .ok ⟨default, none⟩
    else
      match kind.read? raw with
      | none => notUsed "Invalid" raw name default
      | some v => if isNonPositive v then notUsed "Non-positive" raw name default else .ok ⟨v, none⟩

end Setting

/-! ## The settings of the console -/

/-- The numeric settings: how many tables of a catalog are loaded at a time, the seconds between two such
batches, the seconds that a run may take, and how many sessions may be open. -/
inductive NumericSetting where
  | batchSize | batchDelay | executionTimeout | maxSessions
  deriving DecidableEq, Repr

namespace NumericSetting

open Setting Numeral

/-- The name under which a setting is looked up. -/
def name : NumericSetting → String
  | .batchSize => "QUERY_BUILDER_CATALOG_BATCH_SIZE"
  | .batchDelay => "QUERY_BUILDER_CATALOG_BATCH_DELAY"
  | .executionTimeout => "QUERY_BUILDER_EXECUTION_TIMEOUT"
  | .maxSessions => "QUERY_BUILDER_MAX_SESSIONS"

/-- The kind of number of a setting. -/
def kind : NumericSetting → NumberKind
  | .batchSize | .maxSessions => .whole
  | .batchDelay | .executionTimeout => .real

/-- The value of a setting that is not given. -/
def default : NumericSetting → Value
  | .batchSize => .int 10
  | .batchDelay => .float (.ofDecimal false 1 (-1))
  | .executionTimeout => .float (.ofInt 30)
  | .maxSessions => .int 100

/-- Reads a setting from the texts that names stand for. -/
def read (s : NumericSetting) (texts : String → Option String) : Except Sql.NumeralTooLong Reading :=
  Setting.read s.name s.kind s.default (texts s.name)

end NumericSetting

end QueryCanvas
