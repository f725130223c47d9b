import LinearPrograms.Scalar.Rounding

/-!
# Decimal expansions

A `Decimal` is a significand times a power of ten. `Decimal.significant` rounds a positive rational
to a number of digits, half to even, and `fixedDigits` rounds it to a number of places.
-/

namespace LinearPrograms

/-- The number `significand · 10^exponent`. -/
structure Decimal where
  significand : Nat
  exponent : Int

namespace Decimal

def digits (n : Nat) : List Char := Nat.toDigits 10 n

def toRat (d : Decimal) : Rat := d.significand * powerOf 10 d.exponent

def leading (d : Decimal) : Int := d.exponent + ((digits d.significand).length - 1 : Nat)

def trimmed (d : Decimal) : List Char :=
  ((digits d.significand).reverse.dropWhile (· == '0')).reverse

/-- The exponent `e` with `10^e ≤ q < 10^(e + 1)`, for a positive rational. -/
def exponentOf (q : Rat) : Int :=
  let e : Int := ((digits q.num.natAbs).length : Int) - ((digits q.den).length : Int)
  if q < powerOf 10 e then e - 1 else e

/-- A positive rational rounded to `count` digits, half to even. -/
def significant (count : Nat) (q : Rat) : Decimal :=
  let scale : Int := (count : Int) - 1 - exponentOf q
  ⟨(roundHalfEven (q * powerOf 10 scale)).toNat, -scale⟩

/-- The digits before and after the point of a non-negative rational rounded to `places` places. -/
def fixedDigits (places : Nat) (q : Rat) : List Char × List Char :=
  let all := digits (roundHalfEven (q * powerOf 10 places)).toNat
  let padded := List.replicate (places + 1 - all.length) '0' ++ all
  padded.splitAt (padded.length - places)

end Decimal

end LinearPrograms
