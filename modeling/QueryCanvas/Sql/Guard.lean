import QueryCanvas.Sql.Lexeme

/-!
# The read-only guard

What may run against the warehouse: a text of exactly one statement, and that statement a SELECT,
possibly behind common table expressions. Everything else is refused before it is run.
-/

namespace QueryCanvas.Sql

/-- Why a text may not run. -/
inductive ReadOnlyViolation where
  | notSingle
  | notSelect (found : String)
  deriving DecidableEq, Repr

/-- The wording of a violation. -/
def ReadOnlyViolation.message : ReadOnlyViolation → String
  | .notSingle => "Only a single SELECT statement can be executed"
  | .notSelect found => "Only SELECT statements can be executed, got " ++ found

namespace Guard

/-! ## Statements of a text -/

/-- The lexemes of the statement under way, in reverse; how deep its parentheses are nested; and
whether its semicolon has come. -/
structure Open where
  lexemes : List Lexeme
  depth : Int
  ended : Bool

/-- A statement of which nothing has been seen. -/
def Open.none : Open := ⟨[], 0, false⟩

/-- The depth behind a lexeme. -/
def depthAfter (depth : Int) (l : Lexeme) : Int :=
  match l.kind with
  | .opening => depth + 1
  | .closing => depth - 1
  | _ => depth

/-- Adds a lexeme to the statement under way. -/
def Open.push (o : Open) (l : Lexeme) : Open :=
  let depth := depthAfter o.depth l
  ⟨l :: o.lexemes, depth, o.ended || (l.kind = .semicolon && depth ≤ 0)⟩

/-- Whether a lexeme still belongs to a statement whose semicolon has come. -/
def trails (l : Lexeme) : Bool :=
  l.kind = .space || l.kind = .lineComment

/-- The statements that lexemes make up, after the one under way. -/
def statementsFrom (o : Open) : List Lexeme → List (List Lexeme)
  | [] => if o.lexemes.isEmpty then [] else [o.lexemes.reverse]
  | l :: ls =>
    if o.ended && !trails l then o.lexemes.reverse :: statementsFrom (Open.none.push l) ls
    else statementsFrom (o.push l) ls

/-- Whether a statement is written with blanks alone. -/
def isBlankStatement (ls : List Lexeme) : Bool :=
  ls.all fun l => l.text.all Text.isBlank

/-- The statements of a text, those of blanks alone left out. -/
def statements (sql : String) : List (List Lexeme) :=
  (statementsFrom .none (Lexeme.scan sql.toList)).filter (!isBlankStatement ·)

/-! ## The type of a statement -/

/-- The type of a statement that starts with no known word. -/
def unknownType : String := "UNKNOWN"

/-- The words that work on rows or on transactions. -/
def dataWords : List String :=
  ["SELECT", "INSERT", "DELETE", "UPDATE", "UPSERT", "REPLACE", "MERGE", "COMMIT", "ROLLBACK", "START"]

/-- The words that work on the schema. -/
def schemaWords : List String :=
  ["DROP", "CREATE", "ALTER", "TRUNCATE"]

/-- The lexemes behind the parenthesis that closes the `depth + 1`-th one opened. -/
def behindClosing? : Nat → List Lexeme → Option (List Lexeme)
  | _, [] => none
  | depth, l :: ls =>
    match l.kind, depth with
    | .opening, d => behindClosing? (d + 1) ls
    | .closing, 0 => some ls
    | .closing, d + 1 => behindClosing? d ls
    | _, d => behindClosing? d ls

/-- The lexemes behind a parenthesized group, or all of them if they start with none. -/
def behindGroup? : List Lexeme → Option (List Lexeme)
  | [] => some []
  | l :: ls => if l.kind = .opening then behindClosing? 0 ls else some (l :: ls)

/-- Whether a lexeme is a given keyword. -/
def isKeyword (word : String) (l : Lexeme) : Bool :=
  l.kind = .word && l.capitals == word

/-- Whether a lexeme can name a common table expression. -/
def namesExpression (l : Lexeme) : Bool :=
  l.kind = .name || (l.kind = .word && !(dataWords ++ schemaWords ++ ["AS", "WITH"]).contains l.capitals)

/-- The lexemes behind what a common table expression stands for: a parenthesized query, or a
name. -/
def behindDefinition? : List Lexeme → Option (List Lexeme)
  | [] => none
  | l :: ls =>
    if l.kind = .opening then behindClosing? 0 ls else if namesExpression l then some ls else none

/-- The lexemes behind one common table expression: a name, its columns if it lists any, and what it
stands for. -/
def behindExpression? : List Lexeme → Option (List Lexeme)
  | [] => none
  | l :: ls =>
    if namesExpression l then do
      match ← behindGroup? ls with
      | [] => return []
      | k :: ks => if isKeyword "AS" k then behindDefinition? ks else return k :: ks
    else none

/-- The lexemes behind all common table expressions, commas between. -/
def behindExpressions? : Nat → List Lexeme → Option (List Lexeme)
  | 0, _ => none
  | fuel + 1, ls => do
    match ← behindExpression? ls with
    | [] => return []
    | l :: ls => if l.kind = .comma then behindExpressions? fuel ls else return l :: ls

/-- The type that the lexemes behind the word WITH give a statement. -/
def typeBehindWith (ls : List Lexeme) : String :=
  let ls := match ls with
    | l :: rest => if isKeyword "RECURSIVE" l then rest else ls
    | [] => []
  match behindExpressions? (ls.length + 1) ls with
  | some (l :: _) => if l.kind = .word && dataWords.contains l.capitals then l.capitals else unknownType
  | _ => unknownType

/-- The blanks and the words `OR REPLACE` behind `CREATE`, as they are written. -/
def orReplace (ls : List Lexeme) : String :=
  let blank (l : Lexeme) := l.kind = .space || l.kind = .lineBreak
  let first := ls.takeWhile blank
  match ls.drop first.length with
  | o :: rest =>
    let second := rest.takeWhile blank
    match rest.drop second.length with
    | r :: _ =>
      if isKeyword "OR" o && isKeyword "REPLACE" r && !first.isEmpty && !second.isEmpty then
        Text.upper (String.ofList ((first ++ o :: second ++ [r]).flatMap Lexeme.text))
      else ""
    | [] => ""
  | [] => ""

/-- The type of a statement: the word it starts with, fillers apart, if that is one that gives a
type; behind common table expressions, the word that follows them. -/
def statementType (ls : List Lexeme) : String :=
  match ls.dropWhile Lexeme.isFiller with
  | [] => unknownType
  | l :: rest =>
    if l.kind ≠ .word then unknownType
    else if l.capitals = "CREATE" then l.capitals ++ orReplace rest
    else if (dataWords ++ schemaWords).contains l.capitals then l.capitals
    else if l.capitals = "WITH" then typeBehindWith (rest.filter (!·.isFiller))
    else unknownType

/-- Lets a text pass only if it is a single SELECT statement. -/
def check (sql : String) : Except ReadOnlyViolation Unit :=
  match statements sql with
  | [s] => if statementType s = "SELECT" then .ok () else .error (.notSelect (statementType s))
  | _ => .error .notSingle

end Guard

end QueryCanvas.Sql
