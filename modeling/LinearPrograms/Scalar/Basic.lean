/-!
# Scalars

A `Scalar` is what a coefficient, a bound or a result can be: a rational number, one of the two
infinities, an indeterminate value, or a zero that remembers a negative sign. Negation and
comparison are exact. A sum or a product takes a `Rounding`, which says how an exact rational is
represented; under the identity rounding (`Rounding.exact`) the rational scalars are a field.
-/

namespace LinearPrograms

/-- A number, an infinity, an indeterminate value or the negative zero. -/
inductive Scalar where
  | nan
  | posInf
  | negInf
  | finite (value : Rat)
  | negZero
  deriving DecidableEq, Inhabited

/-- How a rational number is represented; zero must be represented by `Scalar.finite 0`. -/
abbrev Rounding := Rat → Scalar

namespace Scalar

def zero : Scalar := finite 0

def one : Scalar := finite 1

/-- The rational that a scalar stands for, and zero if it stands for none. -/
def toRat : Scalar → Rat
  | finite q => q
  | _ => 0

def isFinite : Scalar → Bool
  | finite _ | negZero => true
  | _ => false

def isNan : Scalar → Bool
  | nan => true
  | _ => false

def isNegative : Scalar → Bool
  | negInf | negZero => true
  | finite q => decide (q < 0)
  | _ => false

def isZero (x : Scalar) : Bool := x.isFinite && decide (x.toRat = 0)

def signedZero (negative : Bool) : Scalar := if negative then negZero else zero

def signedInf (negative : Bool) : Scalar := if negative then negInf else posInf

def neg : Scalar → Scalar
  | nan => nan
  | posInf => negInf
  | negInf => posInf
  | finite q => if q = 0 then negZero else finite (-q)
  | negZero => zero

instance : Neg Scalar := ⟨neg⟩

def negateIf (negative : Bool) (x : Scalar) : Scalar := if negative then -x else x

/-- Is the first scalar at most the second? An indeterminate value compares with nothing. -/
def le : Scalar → Scalar → Bool
  | nan, _ | _, nan => false
  | negInf, _ | _, posInf => true
  | posInf, _ | _, negInf => false
  | x, y => decide (x.toRat ≤ y.toRat)

/-- Do two scalars stand for the same number? The two zeros do; an indeterminate value never does.
-/
def equals (x y : Scalar) : Bool := x.le y && y.le x

def plusZero : Scalar → Scalar
  | negZero => zero
  | x => x

def add (round : Rounding) : Scalar → Scalar → Scalar
  | nan, _ | _, nan => nan
  | posInf, negInf | negInf, posInf => nan
  | posInf, _ | _, posInf => posInf
  | negInf, _ | _, negInf => negInf
  | negZero, negZero => negZero
  | x, y => round (x.toRat + y.toRat)

/-- The product of two scalars; a zero product takes the product of the signs. -/
def mul (round : Rounding) (x y : Scalar) : Scalar :=
  let negative := x.isNegative != y.isNegative
  if x.isNan || y.isNan then nan
  else if x.isFinite && y.isFinite then
    if x.isZero || y.isZero then signedZero negative else round (x.toRat * y.toRat)
  else if x.isZero || y.isZero then nan
  else signedInf negative

/-- The sum of the products of entries at the same position, added up from the left. Each product
goes into the sum as it is, and only the sum is rounded. -/
def dot (round : Rounding) (xs ys : List Scalar) : Scalar :=
  (xs.zip ys).foldl (fun sum p => add round sum (mul finite p.1 p.2)) zero

end Scalar

def Rounding.exact : Rounding := Scalar.finite

end LinearPrograms
