/-!
# Shortened texts

Long texts are cut to a limit before they are stored, with three points in place of what was cut. A
cut at a negative place counts from the end of the text.
-/

namespace QueryCanvas.Text

/-- The characters of a text up to a place; a negative place counts from the end. -/
def cutAt (place : Int) (cs : List Char) : List Char :=
  if 0 ≤ place then cs.take place.toNat else cs.take (cs.length - place.natAbs)

/-- What stands for the part that was cut. -/
def ellipsis : List Char := ['.', '.', '.']

/-- A text, cut and marked if it is not empty and longer than a limit. -/
def shortened (limit : Int) (s : String) : String :=
  let cs := s.toList
  if !cs.isEmpty && limit < cs.length then String.ofList (cutAt (limit - ellipsis.length) cs ++ ellipsis)
  else s

end QueryCanvas.Text
