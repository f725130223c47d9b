import LinearPrograms.Text.Basic

/-!
# UTF-8

`Utf8.decode` reads octets as the code points they encode. It refuses overlong forms, surrogates and
code points above the last one, and tells where the first refused sequence stands and why: an octet
that begins none, an octet that does not continue one, or the end of the input inside one.
-/

namespace LinearPrograms.Utf8

/-- Why a sequence of octets is refused, and how many octets of it were looked at. -/
inductive Refusal where
  | start
  | continuation (seen : Nat)
  | truncated
  deriving DecidableEq

def isTail (b : Nat) : Bool := 0x80 ≤ b && b ≤ 0xbf

/-- May the octet `b` follow the first octet `a` of a sequence of three or four? -/
def isSecond (a b : Nat) : Bool :=
  isTail b && (a != 0xe0 || 0xa0 ≤ b) && (a != 0xed || b < 0xa0) && (a != 0xf0 || 0x90 ≤ b) &&
    (a != 0xf4 || b < 0x90)

def join (high tail : Nat) : Nat := high * 64 + tail % 64

/-- The first code point of a sequence of octets, and the octets after it. -/
def next (a : Nat) (rest : List Nat) : Except Refusal (Nat × List Nat) :=
  if a < 0x80 then .ok (a, rest)
  else if a < 0xc2 || 0xf4 < a then .error .start
  else if a < 0xe0 then
    match rest with
    | [] => .error .truncated
    | b :: rest => if isTail b then .ok (join (a % 32) b, rest) else .error (.continuation 1)
  else
    match rest with
    | [] => .error .truncated
    | b :: rest =>
      if !isSecond a b then .error (.continuation 1)
      else
        match rest with
        | [] => .error .truncated
        | c :: rest =>
          if !isTail c then .error (.continuation 2)
          else if a < 0xf0 then .ok (join (join (a % 16) b) c, rest)
          else
            match rest with
            | [] => .error .truncated
            | d :: rest =>
              if isTail d then .ok (join (join (join (a % 8) b) c) d, rest)
              else .error (.continuation 3)

/-- What is wrong with octets: the octet if it is a single one, the first and last position of the
refused sequence, and the reason. -/
structure Flaw where
  octet : Option Nat
  first : Nat
  last : Nat
  reason : String

/-- The flaw of a refused sequence at an offset that begins with `a` and goes on with `rest`. -/
def flawAt (offset a : Nat) (rest : List Nat) : Refusal → Flaw
  | .start => ⟨some a, offset, offset, "invalid start byte"⟩
  | .continuation seen =>
    ⟨if seen = 1 then some a else none, offset, offset + seen - 1, "invalid continuation byte"⟩
  | .truncated =>
    ⟨if rest.isEmpty then some a else none, offset, offset + rest.length, "unexpected end of data"⟩

/-- The code points of octets that stand at an offset; `fuel` bounds their number. -/
def decodeFrom (offset : Nat) : (fuel : Nat) → List Nat → Except Flaw (List Nat)
  | _, [] => .ok []
  | 0, _ => .ok []
  | fuel + 1, a :: rest =>
    match next a rest with
    | .error refusal => .error (flawAt offset a rest refusal)
    | .ok (c, after) =>
      (decodeFrom (offset + 1 + rest.length - after.length) fuel after).map (c :: ·)

def decode (octets : List Nat) : Except Flaw (List Nat) := decodeFrom 0 octets.length octets

def encodePoint (c : Nat) : List Nat :=
  if c < 0x80 then [c]
  else if c < 0x800 then [0xc0 + c / 64, 0x80 + c % 64]
  else if c < 0x10000 then [0xe0 + c / 4096, 0x80 + c / 64 % 64, 0x80 + c % 64]
  else [0xf0 + c / 262144, 0x80 + c / 4096 % 64, 0x80 + c / 64 % 64, 0x80 + c % 64]

def encode (t : Text) : List Nat := t.points.flatMap encodePoint

/-- The code points with one newline for each line end, be it a newline, a carriage return, or a
carriage return with a newline behind it. -/
def unifyLines : List Nat → List Nat
  | 0x0d :: 0x0a :: rest => 0x0a :: unifyLines rest
  | 0x0d :: rest => 0x0a :: unifyLines rest
  | c :: rest => c :: unifyLines rest
  | [] => []

end LinearPrograms.Utf8
