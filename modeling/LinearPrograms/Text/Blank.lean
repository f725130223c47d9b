import LinearPrograms.Text.Basic

/-!
# Blank characters

`isBlank` holds of the code points that a trimmed text loses at its ends: the separators of the
Unicode standard and the control characters that act as white space.
-/

namespace LinearPrograms.Text

/-- First and last code point of each run of blank characters. -/
def blankRanges : List (Nat × Nat) :=
  [(0x9, 0xd), (0x1c, 0x20), (0x85, 0x85), (0xa0, 0xa0), (0x1680, 0x1680), (0x2000, 0x200a),
  (0x2028, 0x2029), (0x202f, 0x202f), (0x205f, 0x205f), (0x3000, 0x3000)]

def isBlank (c : Nat) : Bool := blankRanges.any fun r => r.1 ≤ c && c ≤ r.2

def strip (t : Text) : Text :=
  ⟨((t.points.dropWhile isBlank).reverse.dropWhile isBlank).reverse⟩

end LinearPrograms.Text
