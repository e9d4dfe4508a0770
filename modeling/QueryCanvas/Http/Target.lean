import QueryCanvas.Text.Hexadecimal
import QueryCanvas.Text.Utf8

/-!
# Request targets

A request names what it asks for by a path and a query, both percent-encoded. The path is decoded
before it is routed, so an encoded slash separates segments like any other.
-/

namespace QueryCanvas.Http

/-- The bytes of a percent-encoded text. A percent sign without two digits stands for itself. -/
def percentBytes : List Char → List Nat
  | '%' :: a :: b :: cs =>
    match Text.hexValue? a, Text.hexValue? b with
    | some h, some l => (16 * h + l) :: percentBytes cs
    | _, _ => Text.utf8Bytes '%' ++ percentBytes (a :: b :: cs)
  | c :: cs => Text.utf8Bytes c ++ percentBytes cs
  | [] => []

/-- The text that a percent-encoded text stands for. -/
def percentDecode (cs : List Char) : List Char :=
  Text.utf8Decode (percentBytes cs)

/-- The parts of a text between the separators. -/
def splitAtChar (separator : Char) : List Char → List (List Char)
  | [] => [[]]
  | c :: cs =>
    match splitAtChar separator cs with
    | part :: parts => if c = separator then [] :: part :: parts else (c :: part) :: parts
    | [] => []

/-- Drops the segments that stand for the same place, and with each that goes back one the segment
before it; the segments so far are in reverse. -/
def withoutDots : List (List Char) → List (List Char) → List (List Char)
  | done, [] => done.reverse
  | done, ['.'] :: rest => withoutDots done rest
  | done, ['.', '.'] :: rest => withoutDots (if done = [] ∨ done = [[]] then done else done.tail) rest
  | done, s :: rest => withoutDots (s :: done) rest

/-- What a request asks for: the decoded path, and the query as it was written. -/
structure Target where
  path : List Char
  query : List Char
  deriving DecidableEq, Repr

/-- The target that a text names; a fragment is not part of it. -/
def Target.ofText (s : String) : Target :=
  let cs := s.toList.takeWhile (· ≠ '#')
  let path := cs.takeWhile (· ≠ '?')
  ⟨percentDecode (['/'].intercalate (withoutDots [] (splitAtChar '/' path))), cs.drop (path.length + 1)⟩

/-- The name and the value that a part of a query gives. -/
def parameterOf (part : List Char) : String × String :=
  let spaced := part.map fun c => if c = '+' then ' ' else c
  let name := spaced.takeWhile (· ≠ '=')
  (String.ofList (percentDecode name), String.ofList (percentDecode (spaced.drop (name.length + 1))))

/-- The parameters of a query in order. -/
def Target.parameters (t : Target) : List (String × String) :=
  ((splitAtChar '&' t.query).filter (!·.isEmpty)).map parameterOf

/-- The value of a parameter; of several of one name the last counts. -/
def Target.parameter? (t : Target) (name : String) : Option String :=
  (t.parameters.reverse.find? (·.1 == name)).map (·.2)

end QueryCanvas.Http
