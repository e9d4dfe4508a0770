import QueryCanvas.Text.Blank
import QueryCanvas.Text.Quoted

/-!
# Torn texts

UTF-16 writes the characters beyond the first 65536 as pairs of units, and an escape may spell one
unit of a pair without the other. A text with such a unit is no sequence of characters: it can be
kept, trimmed and displayed, but no encoding carries it.
-/

namespace QueryCanvas.Text

/-- Whether a code point is a unit of a pair. -/
def isUnit (n : Nat) : Bool :=
  55296 ≤ n && n < 57344

/-- A text by its code points, of which one at least is a unit without its partner. -/
structure Torn where
  points : List Nat
  isTorn : points.any isUnit = true
  deriving DecidableEq, Repr

namespace Torn

/-- The character that is shown in the place of a code point: the replacement character for a unit. -/
def shownChar (n : Nat) : Char :=
  if isUnit n then '\uFFFD' else Char.ofNat n

/-- The text as far as characters can show it. -/
def text (t : Torn) : String :=
  String.ofList (t.points.map shownChar)

/-- The displayed form of a code point between quotes `quote`. -/
def displayPoint (quote : Char) (n : Nat) : List Char :=
  if isUnit n then '\\' :: 'u' :: hexDigits 4 n else displayChar quote (Char.ofNat n)

/-- The quoted display form of a torn text. It shows every unit by an escape. -/
def quoted (t : Torn) : String :=
  let q := displayQuote (t.points.map shownChar)
  String.ofList (q :: t.points.flatMap (displayPoint q) ++ [q])

/-- Whether a code point is that of a blank. -/
def isBlankPoint (n : Nat) : Bool :=
  !isUnit n && isBlank (Char.ofNat n)

/-- No unit is dropped with the blanks in front of a text. -/
theorem any_dropWhile_isBlankPoint (ns : List Nat) : (ns.dropWhile isBlankPoint).any isUnit = ns.any isUnit := by
  induction ns with
  | nil => rfl
  | cons n ns ih =>
    cases hn : isUnit n with
    | true => simp [isBlankPoint, hn]
    | false =>
      rw [List.dropWhile_cons]
      split
      · rw [ih, List.any_cons, hn, Bool.false_or]
      · rfl

/-- A torn text without the blanks at its ends. -/
def trim (t : Torn) : Torn where
  points := trimWhere isBlankPoint t.points
  isTorn := by
    rw [trimWhere, List.any_reverse, any_dropWhile_isBlankPoint, List.any_reverse, any_dropWhile_isBlankPoint,
      t.isTorn]

end Torn

end QueryCanvas.Text
