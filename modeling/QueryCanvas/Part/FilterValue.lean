import QueryCanvas.Part.EditError

/-!
# Filter values

The operand of a filter. Its shape follows from the operator: null checks take none, `in` takes a
list, `between` takes two bounds, every other operator takes one scalar. `FilterValue.ofRaw` shapes a
loose operand and refuses what does not fit.
-/

namespace QueryCanvas

/-- The operand of a filter. -/
inductive FilterValue where
  | scalar (v : Value)
  | list (vs : List Value)
  | range (min max : Value)
  | none
  deriving Repr

namespace FilterValue

/-- The shape of an operand. -/
def shape : FilterValue → FilterShape
  | .scalar _ => .scalar
  | .list _ => .list
  | .range .. => .range
  | .none => .none

/-- The operand as a loose value. -/
def toRaw : FilterValue → Value
  | .scalar v => v
  | .list vs => .list vs
  | .range lo hi => .record [("min", lo), ("max", hi)]
  | .none => .null

/-- How an operand is shown in a message. -/
def display : FilterValue → String
  | .scalar v => "ScalarValue(value=" ++ v.display ++ ")"
  | .list vs => "ListValue(values=" ++ (Value.tuple vs).display ++ ")"
  | .range lo hi => (Value.range lo hi).display
  | .none => "NoValue()"

/-- A single operand: neither missing nor a container. -/
def checkScalar (o : FilterOperator) : Value → Except EditError Value
  | .null => .error (.operandMissing o)
  | .list vs => .error (.operandNotSingle o (Value.list vs).typeName)
  | .tuple vs => .error (.operandNotSingle o (Value.tuple vs).typeName)
  | .record fs => .error (.operandNotSingle o (Value.record fs).typeName)
  | .unordered vs => .error (.operandNotSingle o (Value.unordered vs).typeName)
  | v => .ok v

/-- Whether a value stands for no operand: it is missing, an empty text, an empty list or an empty
record. -/
def isAbsent : Value → Bool
  | .null => true
  | .text s => s == ""
  | .list vs => vs.isEmpty
  | .record fs => fs.isEmpty
  | _ => false

/-- The operands of a list operator: the items of a list, no item for a missing value, and any other
value as the one item. -/
def items : Value → List Value
  | .list vs => vs
  | .tuple vs => vs
  | .null => []
  | v => [v]

/-- The operand that an operator makes of a loose value. Bounds that are already built are taken
unseen. -/
def ofRaw (o : FilterOperator) (raw : Value) : Except EditError FilterValue :=
  match o with
  | .isNull | .isNotNull => if isAbsent raw then .ok .none else .error (.operandRefused o)
  | .isIn => do
    if (items raw).isEmpty then throw .operandsMissing
    return .list (← (items raw).mapM (checkScalar o))
  | .between =>
    match raw with
    | .range lo hi => .ok (.range lo hi)
    | .record fs =>
      match Value.field? fs "min", Value.field? fs "max" with
      | some lo, some hi => do
        let lo ← checkScalar o lo
        return .range lo (← checkScalar o hi)
      | _, _ => .error .boundsMissing
    | _ => .error .boundsMissing
  | _ => do return .scalar (← checkScalar o raw)

/-- Accepts an operand for an operator only if shaping its loose form again gives that shape. -/
def check (o : FilterOperator) (v : FilterValue) : Except EditError Unit := do
  let expected := (← ofRaw o v.toRaw).shape
  if expected ≠ v.shape then throw (.shapeMismatch o expected v.shape)

end FilterValue

end QueryCanvas
