/-!
# Texts

A `Text` is a sequence of code points, the unit in which texts are counted, compared and quoted. A
surrogate that stands alone is a code point too, since an escape in a document can name one; a
`String` cannot hold it and shows the replacement character in its place.
-/

namespace LinearPrograms

/-- A sequence of code points. -/
structure Text where
  points : List Nat
  deriving DecidableEq, Inhabited

namespace Text

def ofString (s : String) : Text := ⟨s.toList.map Char.toNat⟩

def character (c : Nat) : Char := if c.isValidChar then Char.ofNat c else Char.ofNat 0xfffd

def toString (t : Text) : String := String.ofList (t.points.map character)

instance : ToString Text := ⟨Text.toString⟩

instance : Append Text := ⟨fun a b => ⟨a.points ++ b.points⟩⟩

theorem character_toNat (c : Char) : character c.toNat = c := by
  have h : c.toNat.isValidChar := c.valid
  rw [character, if_pos (by simpa using h)]
  exact Char.ofNat_toNat c

/-- A string is shown as itself. -/
theorem toString_ofString (s : String) : (ofString s).toString = s := by
  have h : character ∘ Char.toNat = id := funext character_toNat
  simp only [toString, ofString, List.map_map, h, List.map_id, String.ofList_toList]

def length (t : Text) : Nat := t.points.length

def isEmpty (t : Text) : Bool := t.points.isEmpty

def pieces (t : Text) : List Text := t.points.map fun c => ⟨[c]⟩

/-- The order of texts: the first differing code point decides, and a proper beginning is less. -/
def lePoints : List Nat → List Nat → Bool
  | [], _ => true
  | _ :: _, [] => false
  | a :: as, b :: bs => if a = b then lePoints as bs else decide (a < b)

/-- Is the first text at most the second in the order of code points? -/
def le (a b : Text) : Bool := lePoints a.points b.points

/-- The texts one after the other, with `separator` between two neighbours. -/
def join (separator : String) (ts : List Text) : Text :=
  ⟨(ts.map Text.points).intersperse (ofString separator).points |>.flatten⟩

end Text

end LinearPrograms
