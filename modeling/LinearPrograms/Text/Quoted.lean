import LinearPrograms.Text.Printable

/-!
# Quoted texts

A text that a message shows stands between single quotes, or between double quotes when it holds a
single quote and no double one. The quote in use and the backslash are escaped, tab, newline and
carriage return have short escapes, and every other character that is not printable is written with
two, four or eight hexadecimal digits.
-/

namespace LinearPrograms.Text

def hexDigit (n : Nat) : Char := Char.ofNat (if n < 10 then 0x30 + n else 0x57 + n)

/-- The lowest `width` hexadecimal digits of a number. -/
def hex : (width : Nat) → Nat → List Char
  | 0, _ => []
  | width + 1, n => hex width (n / 16) ++ [hexDigit (n % 16)]

/-- The quote around a text: double only if a single quote occurs and no double one. -/
def quoteFor (t : Text) : Char :=
  if t.points.contains 0x27 && !t.points.contains 0x22 then '"' else '\''

/-- One code point inside a text between quotes `quote`. -/
def quotedPoint (quote : Char) (c : Nat) : List Char :=
  if c = quote.toNat || c = 0x5c then ['\\', character c]
  else if c = 0x09 then ['\\', 't']
  else if c = 0x0a then ['\\', 'n']
  else if c = 0x0d then ['\\', 'r']
  else if isPrintable c then [character c]
  else if c < 0x100 then '\\' :: 'x' :: hex 2 c
  else if c < 0x10000 then '\\' :: 'u' :: hex 4 c
  else '\\' :: 'U' :: hex 8 c

def quoted (t : Text) : String :=
  let quote := quoteFor t
  String.ofList (quote :: t.points.flatMap (quotedPoint quote) ++ [quote])

end LinearPrograms.Text
