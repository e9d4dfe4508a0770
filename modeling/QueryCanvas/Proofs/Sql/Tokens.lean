import QueryCanvas.Proofs.Sql.Lexer
import QueryCanvas.Sql.Statement

/-!
# The tokens a canvas stands for

What the statement of a canvas has to say, token by token and apart from how it is written:
`canvasTokens` lists the clauses in their fixed order, with the parts of the canvas in stored order. Every
table, column and alias is one name, and every text one text.

A word of the grammar that the dialect does not reserve is read as a name (`Token.ofWord`); its place
tells it apart. `IsOverlong` describes the canvases without a statement: those with a whole number of
more than `maxDigits` digits.
-/

namespace QueryCanvas

/-- The single values of an operand. -/
def FilterValue.operands : FilterValue → List Value
  | .scalar v => [v]
  | .list vs => vs
  | .range lo hi => [lo, hi]
  | .none => []

namespace Sql

open Numeral

/-- Truth values, finite numbers, texts, dates and times: the values with a literal of their own. -/
def IsPlain : Value → Prop
  | .bool _ | .int _ | .text _ | .date _ | .moment _ | .time _ => True
  | .float (.finite ..) | .decimal (.finite ..) => True
  | _ => False

/-- Every operand of a filter is plain. -/
def HasPlainOperands (c : Canvas) : Prop :=
  ∀ f ∈ c.filters, ∀ v ∈ f.value.operands, IsPlain v

/-- A name without a line break at its end. -/
def IsName (n : String) : Prop :=
  n.toList.getLast? ≠ some '\n'

/-- The tables and columns of a catalog have names without a line break at their end. -/
def IsNamed (cat : Catalog) : Prop :=
  ∀ t ∈ cat.tables, IsName t.name ∧ ∀ col ∈ t.columns, IsName col.name

/-! ## Tokens -/

/-- The tokens of a qualified column. -/
def columnTokens (table column : String) : List Token :=
  [.name table, .sign ".", .name column]

/-- The tokens of an alias, if there is one. -/
def aliasTokens (d : Dialect) : Option String → List Token
  | some a => [.ofWord d "AS", .name a]
  | none => []

/-- The tokens of a value. SQLite has no truth values and takes numbers for them. -/
def literalTokens (d : Dialect) : Value → List Token
  | .bool b =>
    match d, b with
    | .sqlite, true => [.numeral "1"]
    | .sqlite, false => [.numeral "0"]
    | _, true => [.ofWord d "true"]
    | _, false => [.ofWord d "false"]
  | .int n => [.numeral (toString n)]
  | .float x => [.numeral x.text]
  | .decimal x => [.numeral x.text]
  | .date x => [.text (String.ofList (Calendar.dateChars x))]
  | .moment m => [.text (String.ofList (Calendar.dateChars m.date ++ ' ' :: timeChars d m.time))]
  | .time t => [.text (String.ofList (timeChars d t))]
  | v => [.text v.toText]

/-- What a filter that compares by size compares with: text is taken as the number that it looks like if
the column is numeric. -/
def comparand (cat : Catalog) (f : Filter) (v : Value) : Value :=
  match numericIfPossible (isNumericIn cat f) v with
  | .ok w => w
  | .error _ => v

/-- The tokens of a condition. -/
def conditionTokens (d : Dialect) (cat : Catalog) (f : Filter) : List Token :=
  columnTokens f.table f.column ++
    match f.operator, f.value with
    | .equals, .scalar v => .sign "=" :: literalTokens d v
    | .notEquals, .scalar v => .sign "!=" :: literalTokens d v
    | .greaterThan, .scalar v => .sign ">" :: literalTokens d (comparand cat f v)
    | .lessThan, .scalar v => .sign "<" :: literalTokens d (comparand cat f v)
    | .like, .scalar v => [.ofWord d "ILIKE", .text ("%" ++ v.toText ++ "%")]
    | .isIn, .list vs =>
      .ofWord d "IN" :: .sign "(" :: ([.sign ","].intercalate (vs.map (literalTokens d)) ++ [.sign ")"])
    | .between, .range lo hi =>
      .ofWord d "BETWEEN" :: (literalTokens d lo ++ .ofWord d "AND" :: literalTokens d hi)
    | .isNull, _ => [.ofWord d "IS", .ofWord d "NULL"]
    | .isNotNull, _ => [.ofWord d "IS", .ofWord d "NOT", .ofWord d "NULL"]
    | _, _ => []

/-- The tokens of a filter: its connective, if it has one, and its condition. -/
def filterTokens (d : Dialect) (cat : Catalog) (f : Filter) : List Token :=
  (f.connective.map fun k => Token.ofWord d k.name).toList ++ conditionTokens d cat f

/-- The tokens of the entries of the select list: the columns, then the aggregates. -/
def selectTokens (d : Dialect) (c : Canvas) : List (List Token) :=
  c.columns.map (fun s => columnTokens s.table s.column ++ aliasTokens d s.aliasName)
    ++ c.aggregates.map fun a =>
      .ofWord d a.function.name :: .sign "(" :: (columnTokens a.table a.column
        ++ .sign ")" :: aliasTokens d a.aliasName)

/-- The tokens of a join. -/
def joinTokens (d : Dialect) (j : Join) : List Token :=
  .ofWord d j.kind.name :: .ofWord d "JOIN" :: .name j.rightTable :: .ofWord d "ON" ::
    (columnTokens j.leftTable j.leftColumn ++ .sign "=" :: columnTokens j.rightTable j.rightColumn)

/-- The tokens of a clause that is there only if it has entries. -/
def clauseTokens (opening separator : List Token) (entries : List (List Token)) : List (List Token) :=
  if entries.isEmpty then [] else [opening ++ separator.intercalate entries]

/-- The tokens of the clauses of a canvas, in the fixed order of clauses. -/
def canvasClauses (d : Dialect) (cat : Catalog) (c : Canvas) : List (List Token) :=
  [.ofWord d "SELECT" ::
      (if (selectTokens d c).isEmpty then [.sign "*"] else [.sign ","].intercalate (selectTokens d c)),
    .ofWord d "FROM" :: (c.tables.head?.map Token.name).toList]
  ++ c.joins.map (joinTokens d)
  ++ clauseTokens [.ofWord d "WHERE"] [] (c.filters.map (filterTokens d cat))
  ++ clauseTokens [.ofWord d "GROUP", .ofWord d "BY"] [.sign ","]
    (c.groups.map fun g => columnTokens g.table g.column)
  ++ clauseTokens [.ofWord d "ORDER", .ofWord d "BY"] [.sign ","]
    (c.sorts.map fun s => columnTokens s.table s.column ++ [.ofWord d s.direction.name])
  ++ (c.limit.map fun n => [.ofWord d "LIMIT", .numeral (toString n)]).toList

/-- **What the statement of a canvas says.** -/
def canvasTokens (d : Dialect) (cat : Catalog) (c : Canvas) : List Token :=
  (canvasClauses d cat c).flatten

/-! ## Numbers without a statement -/

/-- A whole number has more digits than are written. -/
def IsTooLong : Value → Prop
  | .int n => maxDigits < (Nat.toDigits 10 n.natAbs).length
  | _ => False

/-- A text spells a whole number, blanks around it allowed, with more digits than are read. -/
def SpellsTooLong (s : String) : Prop :=
  ∃ sign ds, Text.trimChars s.toList = sign ++ ds ∧ sign ∈ [[], ['-'], ['+']] ∧
    (∀ c ∈ ds, Text.isDigit c = true) ∧ maxDigits < ds.length

/-- A filter has an operand that is too long, or compares a numeric column by size with a text that spells
such a number. -/
def IsOverlongFilter (cat : Catalog) (f : Filter) : Prop :=
  (∃ v ∈ f.value.operands, IsTooLong v) ∨
    f.operator.isNumericComparison = true ∧ isNumericIn cat f = true ∧
      ∃ s, f.value = .scalar (.text s) ∧ SpellsTooLong s

/-- **A canvas without a statement**: a filter or the limit has a number that is too long. -/
def IsOverlong (cat : Catalog) (c : Canvas) : Prop :=
  (∃ f ∈ c.filters, IsOverlongFilter cat f) ∨ ∃ n, c.limit = some n ∧ IsTooLong (.int n)

end Sql

end QueryCanvas
