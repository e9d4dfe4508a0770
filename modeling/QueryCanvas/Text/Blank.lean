import QueryCanvas.Text.Range

/-!
# Blanks

The characters that surround a value without belonging to it, and `trim`, which drops them at both
ends.
-/

namespace QueryCanvas.Text

/-- The blank characters, as closed ranges: tab to carriage return, the four separators before the
space, the space, next line, and the wide and narrow spaces. -/
def blankRanges : List (Nat × Nat) :=
  [(9, 13), (28, 32), (133, 133), (160, 160), (5760, 5760), (8192, 8202), (8232, 8233), (8239, 8239),
   (8287, 8287), (12288, 12288)]

/-- Whether a character is blank. -/
def isBlank (c : Char) : Bool :=
  inRanges blankRanges c

/-- Whether a character is one of the four separators before the space. -/
def isSeparator (c : Char) : Bool :=
  28 ≤ c.toNat && c.toNat ≤ 31

/-- The elements of a list without those of a kind at both ends. -/
def trimWhere {α : Type} (p : α → Bool) (xs : List α) : List α :=
  ((xs.dropWhile p).reverse.dropWhile p).reverse

/-- The characters of a text without the blanks at both ends. -/
def trimChars (cs : List Char) : List Char :=
  trimWhere isBlank cs

/-- A text without the blanks at both ends. -/
def trim (s : String) : String :=
  String.ofList (trimChars s.toList)

/-- Whether a text holds nothing but blanks. -/
def allBlank (s : String) : Bool :=
  s.toList.all isBlank

@[simp] theorem trimChars_nil : trimChars [] = [] := rfl

end QueryCanvas.Text
