import QueryCanvas.Text.Letter
import QueryCanvas.Value

/-!
# Choices

The closed sets a user picks from: join kinds, filter operators, connectives, sort directions and
aggregation functions, each with its wire names. A filter operator may also be spelled in camel
case: `notEquals` is `not_equals`.
-/

namespace QueryCanvas

/-- How two tables are joined. -/
inductive JoinKind where
  | inner | left | right | full
  deriving DecidableEq, Repr

/-- How a filter compares a column. -/
inductive FilterOperator where
  | equals | notEquals | greaterThan | lessThan | like | isIn | between | isNull | isNotNull
  deriving DecidableEq, Repr

/-- How a filter is combined with the ones before it. -/
inductive Connective where
  | and | or
  deriving DecidableEq, Repr

/-- Which end of a sorted column comes first. -/
inductive Direction where
  | asc | desc
  deriving DecidableEq, Repr

/-- How the values of a column are summed up. -/
inductive Aggregation where
  | count | sum | avg | min | max
  deriving DecidableEq, Repr

namespace JoinKind

/-- The wire name. -/
def name : JoinKind → String
  | .inner => "INNER" | .left => "LEFT" | .right => "RIGHT" | .full => "FULL"

/-- All kinds, in the order messages list them. -/
def all : List JoinKind := [.inner, .left, .right, .full]

end JoinKind

namespace Connective

/-- The wire name. -/
def name : Connective → String
  | .and => "AND" | .or => "OR"

/-- Both connectives, in the order messages list them. -/
def all : List Connective := [.and, .or]

end Connective

namespace Direction

/-- The wire name. -/
def name : Direction → String
  | .asc => "ASC" | .desc => "DESC"

/-- Both directions, in the order messages list them. -/
def all : List Direction := [.asc, .desc]

end Direction

namespace Aggregation

/-- The wire name. -/
def name : Aggregation → String
  | .count => "COUNT" | .sum => "SUM" | .avg => "AVG" | .min => "MIN" | .max => "MAX"

/-- All functions, in the order messages list them. -/
def all : List Aggregation := [.count, .sum, .avg, .min, .max]

end Aggregation

namespace FilterOperator

/-- The wire name. -/
def name : FilterOperator → String
  | .equals => "equals"
  | .notEquals => "not_equals"
  | .greaterThan => "greater_than"
  | .lessThan => "less_than"
  | .like => "like"
  | .isIn => "in"
  | .between => "between"
  | .isNull => "is_null"
  | .isNotNull => "is_not_null"

/-- All operators, in the order messages list them. -/
def all : List FilterOperator :=
  [.equals, .notEquals, .greaterThan, .lessThan, .like, .isIn, .between, .isNull, .isNotNull]

/-- Whether an operator compares by size. -/
def isNumericComparison (o : FilterOperator) : Bool :=
  o = .greaterThan || o = .lessThan

/-- Whether an operator takes no operand. -/
def isNullCheck (o : FilterOperator) : Bool :=
  o = .isNull || o = .isNotNull

/-- Puts an underscore before every plain capital. -/
def markCapitals (cs : List Char) : List Char :=
  cs.flatMap fun c => if c.isUpper then ['_', c] else [c]

/-- The wire spelling that a camel-case spelling stands for. -/
def normalize (s : String) : String :=
  match s.toList with
  | [] => ""
  | c :: cs => Text.lower (String.ofList (c :: markCapitals cs))

/-- The operator a text spells: its wire name or a camel-case form of it. -/
def ofText? (s : String) : Option FilterOperator :=
  match all.find? fun o => o.name == s with
  | some o => some o
  | none => all.find? fun o => o.name == normalize s

end FilterOperator

/-- The member of a closed set that a value names exactly. -/
def chosen? {α : Type} (all : List α) (name : α → String) (v : Value) : Option α :=
  v.text?.bind fun s => all.find? fun a => name a == s

/-- Finding by name gives back the member, where no two members share a name. -/
theorem chosen?_name {α : Type} {all : List α} {name : α → String} (hname : Function.Injective name)
    {a : α} (h : a ∈ all) : chosen? all name (.text (name a)) = some a := by
  simp only [chosen?, Value.text?, Option.bind_some]
  induction all with
  | nil => cases h
  | cons b bs ih =>
    by_cases hb : name b = name a
    · rw [List.find?_cons_of_pos (by simpa using hb), hname hb]
    · have hne : a ≠ b := fun hab => hb (by rw [hab])
      rw [List.find?_cons_of_neg (by simpa using hb)]
      exact ih ((List.mem_cons.1 h).resolve_left hne)

end QueryCanvas
