import QueryCanvas.Text.Blank
import QueryCanvas.Text.Digit
import QueryCanvas.Text.Letter
import QueryCanvas.Text.Word

/-!
# Lexemes

How SQL text of any dialect falls into lexemes, as far as it matters for telling statements apart:
quoted texts, quoted names, comments and dollar-quoted texts are one lexeme each, so that what they
hold is never taken for a parenthesis, a semicolon or a keyword. A quote that is never closed is a
lexeme of its own. The lexemes of a text make up the whole text.
-/

namespace QueryCanvas.Sql

/-- What a lexeme is. A `word` may be a keyword; a `name` is quoted, or is written so that it cannot
be one. -/
inductive LexemeKind where
  | space | lineBreak | lineComment | blockComment | word | name | opening | closing | semicolon | comma | other
  deriving DecidableEq, Repr

/-- A piece of SQL text. -/
structure Lexeme where
  kind : LexemeKind
  text : List Char
  deriving DecidableEq, Repr

namespace Lexeme

/-- The length of a text up to the quote that closes it, that quote included. A doubled quote is
part of the text, a quote behind a backslash too if `escapes`; if the text would then never be
closed, the last quote passed over closes it after all. -/
def closingLength? (quote : Char) (escapes : Bool) : List Char → Option Nat
  | [] => none
  | [c] => if c = quote then some 1 else none
  | c :: d :: cs =>
    if c = quote then
      if d = quote then ((closingLength? quote escapes cs).map (· + 2)).or (some 1) else some 1
    else if escapes ∧ c = '\\' ∧ d = quote then ((closingLength? quote escapes cs).map (· + 2)).or (some 2)
    else (closingLength? quote escapes (d :: cs)).map (· + 1)

/-- The length of a text up to the end of a mark that it holds. -/
def lengthThrough? (mark : List Char) : List Char → Option Nat
  | [] => if mark = [] then some 0 else none
  | c :: cs => if mark.isPrefixOf (c :: cs) then some mark.length else (lengthThrough? mark cs).map (· + 1)

/-- The length of a line, its line break included. -/
def lineLength : List Char → Nat
  | [] => 0
  | '\r' :: '\n' :: _ => 2
  | c :: cs => if c = '\r' ∨ c = '\n' then 1 else lineLength cs + 1

/-- Whether a character may start a keyword: a plain or western letter. -/
def isLetter (c : Char) : Bool :=
  c.isAlpha || (192 ≤ c.toNat && c.toNat ≤ 220) || (224 ≤ c.toNat && c.toNat ≤ 252) || c.toNat == 383
    || c.toNat == 8490

/-- The mark that a dollar quote opens with, given what follows its first dollar. -/
def dollarMark? (cs : List Char) : Option (List Char) :=
  let tag := cs.takeWhile Text.isWord
  if (cs.drop tag.length).head? = some '$' ∧ tag.head?.all (fun c => isLetter c || c == '_') then
    some ('$' :: tag ++ ['$'])
  else none

/-- The length of a dollar-quoted text behind its first dollar. -/
def dollarLength? (cs : List Char) : Option Nat := do
  let mark ← dollarMark? cs
  let inner ← lengthThrough? mark (cs.drop (mark.length - 1))
  return mark.length - 1 + inner

/-- The length of a bracketed name behind its opening bracket. -/
def bracketLength? (cs : List Char) : Option Nat :=
  let body := cs.takeWhile fun c => c != '[' && c != ']'
  if body.isEmpty then none
  else if (cs.drop body.length).head? = some ']' then some (body.length + 1) else none

/-- Whether a character may stand in a word behind its first one. -/
def continuesWord (c : Char) : Bool :=
  Text.isWord c || c == '$' || c == '#'

/-- Whether a character may be one of several that make up an operator. -/
def isOperatorSign (c : Char) : Bool :=
  ['+', '/', '@', '#', '%', '^', '&', '|', '-'].contains c

/-- Whether what follows a word makes it a name: a parenthesis, or blanks and a point. -/
def makesName (rest : List Char) : Bool :=
  rest.head? == some '(' || (rest.dropWhile Text.isBlank).head? == some '.'

/-- A lexeme that starts with a letter or an underscore: its kind and how much of `cs` belongs to
it. -/
def wordKind (cs : List Char) : LexemeKind × Nat :=
  let plain := cs.takeWhile Text.isWord
  if makesName (cs.drop plain.length) then (.name, plain.length)
  else (.word, (cs.takeWhile continuesWord).length)

/-- A quoted lexeme, or the quote alone if nothing closes it. -/
def quotedKind (kind : LexemeKind) (quote : Char) (escapes : Bool) (cs : List Char) : LexemeKind × Nat :=
  match closingLength? quote escapes cs with
  | some n => (kind, n)
  | none => (.other, 0)

/-- The kind of the lexeme that starts with `c`, and how much of what follows belongs to it;
`before` is the character in front of it. -/
def kindAt (before : Option Char) (c : Char) (cs : List Char) : LexemeKind × Nat :=
  if (c = '-' ∧ cs.head? = some '-') ∨ (c = '#' ∧ cs.head? = some ' ') then (.lineComment, 1 + lineLength (cs.drop 1))
  else if c = '/' ∧ cs.head? = some '*' ∧ (lengthThrough? ['*', '/'] (cs.drop 1)).isSome then
    (.blockComment, 1 + ((lengthThrough? ['*', '/'] (cs.drop 1)).getD 0))
  else if c = '\r' then (.lineBreak, if cs.head? = some '\n' then 1 else 0)
  else if c = '\n' then (.lineBreak, 0)
  else if Text.isBlank c then (.space, 0)
  else if c = '\x27' then quotedKind .other c true cs
  else if c = '"' then quotedKind .name c true cs
  else if c = '\x60' ∨ c = '´' then quotedKind .name c false cs
  else if c = '$' ∧ before.all Text.isBlank then (.other, (dollarLength? cs).getD 0)
  else if c = '[' ∧ !(before.any fun b => Text.isWord b || b == ']' || b == ')') then
    match bracketLength? cs with
    | some n => (.name, n)
    | none => (.other, 0)
  else if c = '(' then (.opening, 0)
  else if c = ')' then (.closing, 0)
  else if c = ';' then (.semicolon, 0)
  else if c = ',' then (.comma, 0)
  else if Text.isDigit c then (.other, (cs.takeWhile Text.isDigit).length)
  else if Text.isWord c then wordKind cs
  else if c ≠ '-' ∧ isOperatorSign c then (.other, (cs.takeWhile isOperatorSign).length)
  else (.other, 0)

/-- The lexemes of a text behind the character `before`. -/
def scanFrom (before : Option Char) : List Char → List Lexeme
  | [] => []
  | c :: cs =>
    let (kind, n) := kindAt before c cs
    ⟨kind, c :: cs.take n⟩ :: scanFrom ((c :: cs.take n).getLast?) (cs.drop n)
termination_by cs => cs.length
decreasing_by simp only [List.length_drop, List.length_cons]; omega

/-- The lexemes of a text. -/
def scan (cs : List Char) : List Lexeme :=
  scanFrom none cs

/-- The text of a lexeme in capitals. -/
def capitals (l : Lexeme) : String :=
  Text.upper (String.ofList l.text)

/-- Whether a lexeme separates others without meaning anything. -/
def isFiller (l : Lexeme) : Bool :=
  l.kind = .space || l.kind = .lineBreak || l.kind = .lineComment || l.kind = .blockComment

/-- Scanning loses nothing: the texts of the lexemes make up the text. -/
theorem flatMap_text_scanFrom (before : Option Char) (cs : List Char) :
    (scanFrom before cs).flatMap Lexeme.text = cs := by
  fun_induction scanFrom before cs with
  | case1 => rfl
  | case2 before c cs kind n h ih => simp [ih]

end Lexeme

end QueryCanvas.Sql
