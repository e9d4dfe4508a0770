import QueryCanvas.Text.Hexadecimal
import QueryCanvas.Text.Printable

/-!
# Quoted display form

How a text is shown inside a message or inside a displayed container: in single quotes, unless it
holds a single quote and no double quote; the backslash, the quote in use and everything that is not
printable is escaped.
-/

namespace QueryCanvas.Text

/-- The displayed form of one character between quotes `quote`. -/
def displayChar (quote c : Char) : List Char :=
  if c = '\\' || c = quote then ['\\', c]
  else if c = '\n' then ['\\', 'n']
  else if c = '\r' then ['\\', 'r']
  else if c = '\t' then ['\\', 't']
  else if isPrintable c then [c]
  else if c.toNat < 256 then '\\' :: 'x' :: hexDigits 2 c.toNat
  else if c.toNat < 65536 then '\\' :: 'u' :: hexDigits 4 c.toNat
  else '\\' :: 'U' :: hexDigits 8 c.toNat

/-- The quote a display form uses: the double one only if the text has single quotes and no double
ones. -/
def displayQuote (cs : List Char) : Char :=
  if cs.contains '\x27' && !cs.contains '"' then '"' else '\x27'

/-- The quoted display form of a text. -/
def quoted (s : String) : String :=
  let cs := s.toList
  let q := displayQuote cs
  String.ofList (q :: cs.flatMap (displayChar q) ++ [q])

end QueryCanvas.Text
