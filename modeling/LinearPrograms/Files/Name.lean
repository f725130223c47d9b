import LinearPrograms.Text.Utf8

/-!
# Names of files

The name of a file is a sequence of octets. A text stands for the octets of its characters, where a
surrogate from U+DC80 to U+DCFF stands for one octet that is part of no character; any other
surrogate stands for nothing. Two texts may stand for the same octets, and `FileName.settled` is the
one by which a file system lists them.
-/

namespace LinearPrograms.FileName

def isSurrogate (c : Nat) : Bool := 0xd800 ≤ c && c ≤ 0xdfff

/-- Is the code point a surrogate that stands for an octet? -/
def isEscape (c : Nat) : Bool := 0xdc80 ≤ c && c ≤ 0xdcff

def octets (t : Text) : List Nat :=
  t.points.flatMap fun c => if isEscape c then [c - 0xdc00] else Utf8.encodePoint c

/-- The code points of octets, of which `fuel` bounds the number. -/
def pointsOf : (fuel : Nat) → List Nat → List Nat
  | _, [] => []
  | 0, _ => []
  | fuel + 1, a :: rest =>
    match Utf8.next a rest with
    | .ok (c, after) => c :: pointsOf fuel after
    | .error _ => (0xdc00 + a) :: pointsOf fuel rest

def settled (t : Text) : Text :=
  if t.points.any isEscape then ⟨pointsOf (octets t).length (octets t)⟩ else t

/-- The first code point that stands for nothing, if there is one, with its position and the last
position of the surrogates that it begins. -/
def unencodable? (position : Nat) : List Nat → Option (Nat × Nat × Nat)
  | [] => none
  | c :: rest =>
    if isSurrogate c && !isEscape c then
      some (c, position, position + (rest.takeWhile isSurrogate).length)
    else unencodable? (position + 1) rest

end LinearPrograms.FileName
