import LinearPrograms.Scalar.Basic

/-!
# Rounding to the nearest double

`Rounding.nearest` represents a rational by the nearest number with a significand of 53 binary
digits and a quantum of at least 2^-1074; of two equally near ones it takes the one with the even
significand. A magnitude that rounds to 2^1024 or beyond becomes an infinity, and one that rounds to
zero keeps its sign.
-/

namespace LinearPrograms

def powerOf (base : Nat) (k : Int) : Rat :=
  if 0 ≤ k then ((Nat.pow base k.toNat : Nat) : Rat) else mkRat 1 (Nat.pow base (-k).toNat)

/-- The nearest integer; of two equally near ones the even one. -/
def roundHalfEven (q : Rat) : Int :=
  let low := q.floor
  let part := q - low
  if part < 1 / 2 then low
  else if 1 / 2 < part then low + 1
  else if low % 2 = 0 then low
  else low + 1

/-- The exponent `e` with `2^e ≤ q < 2^(e + 1)`, for a positive rational. -/
def binaryExponent (q : Rat) : Int :=
  let e : Int := (q.num.natAbs.log2 : Int) - (q.den.log2 : Int)
  if q < powerOf 2 e then e - 1 else e

/-- The exponent of the last binary digit that a double near the positive rational `q` has. -/
def quantumExponent (q : Rat) : Int := max (binaryExponent q - 52) (-1074)

/-- The least magnitude that no double has. -/
def overflowBound : Rat := powerOf 2 1024

def largestDouble : Rat := (powerOf 2 53 - 1) * powerOf 2 971

def Rounding.nearest : Rounding := fun q =>
  if q = 0 then .zero
  else
    let negative := decide (q < 0)
    let magnitude := if negative then -q else q
    let quantum := powerOf 2 (quantumExponent magnitude)
    let rounded := roundHalfEven (magnitude / quantum) * quantum
    if rounded = 0 then Scalar.signedZero negative
    else if overflowBound ≤ rounded then Scalar.signedInf negative
    else .finite (if negative then -rounded else rounded)

/-- The scalar with zero for an indeterminate value and the greatest finite numbers for infinities.
-/
def Scalar.clamped : Scalar → Scalar
  | .nan => .zero
  | .posInf => .finite largestDouble
  | .negInf => .finite (-largestDouble)
  | x => x

end LinearPrograms
