import QueryCanvas.Text.LetterTable

/-!
# Letter case

Lower-casing over all scripts, with the two rules that are not one to one: a capital I with a dot
becomes two characters, and a capital sigma at the end of a word becomes the final small sigma.
Upper-casing is needed only to compare with plain words, so it covers the characters whose capital
form is plain.
-/

namespace QueryCanvas.Text

/-- The lower-case form of one character, where it is one character. -/
def lowerChar (c : Char) : Char :=
  if c.toNat < 128 then c.toLower
  else
    match caseRuns.find? fun r => r.first ≤ c.toNat && c.toNat ≤ r.last && (c.toNat - r.first) % r.step == 0 with
    | some r => Char.ofNat (c.toNat + r.shift).toNat
    | none => c

/-- Whether the first character that is not skipped has a case. -/
def casedNext (cs : List Char) : Bool :=
  match cs.dropWhile (inRanges caseIgnorableRanges) with
  | c :: _ => inRanges casedRanges c
  | [] => false

/-- The lower-case form of the rest of a text, given what stands before it, nearest first. -/
def lowerFrom : List Char → List Char → List Char
  | _, [] => []
  | before, c :: rest =>
    let tail := lowerFrom (c :: before) rest
    if c.toNat = 304 then 'i' :: Char.ofNat 775 :: tail
    else if c = 'Σ' then (if casedNext before && !casedNext rest then 'ς' else 'σ') :: tail
    else lowerChar c :: tail

/-- The lower-case form of a text. -/
def lower (s : String) : String :=
  String.ofList (lowerFrom [] s.toList)

/-- The capital form of a character as far as that form is plain; other characters are kept. -/
def upperPlain (c : Char) : List Char :=
  match c.toNat with
  | 223 => ['S', 'S']
  | 305 => ['I']
  | 383 => ['S']
  | 64256 => ['F', 'F']
  | 64257 => ['F', 'I']
  | 64258 => ['F', 'L']
  | 64259 => ['F', 'F', 'I']
  | 64260 => ['F', 'F', 'L']
  | 64261 => ['S', 'T']
  | 64262 => ['S', 'T']
  | _ => [c.toUpper]

/-- A text with every letter capital that has a plain capital form. -/
def upper (s : String) : String :=
  String.ofList (s.toList.flatMap upperPlain)

end QueryCanvas.Text
