import LinearPrograms.Decimal.Shortest

/-!
# Scalars as texts

Three written forms: `render` has the fewest digits that read back and always shows a point or an
exponent, `fixed` has a given number of places, and `general` has at most a given number of digits
with no zeros at the end. `render` is positional for exponents from -4 to 15 and `general` from -4
up to its number of digits; beyond that an exponent of at least two digits with its sign follows.
-/

namespace LinearPrograms.Scalar

def exponentDigits (e : Int) : List Char :=
  let ds := Decimal.digits e.natAbs
  (if e < 0 then '-' else '+') :: (List.replicate (2 - ds.length) '0' ++ ds)

/-- Digits with an exponent: one digit, a point if more follow, and the exponent. -/
def scientific (ds : List Char) (leading : Int) : List Char :=
  let body :=
    match ds with
    | [] => ['0']
    | [d] => [d]
    | d :: rest => d :: '.' :: rest
  body ++ 'e' :: exponentDigits leading

/-- Digits around a point; `whole` follows a number without a fraction. -/
def positional (ds : List Char) (leading : Int) (whole : List Char) : List Char :=
  if leading < 0 then
    '0' :: '.' :: (List.replicate (-leading - 1).toNat '0' ++ ds)
  else
    let n := leading.toNat + 1
    let before := ds.take n ++ List.replicate (n - ds.length) '0'
    match ds.drop n with
    | [] => before ++ whole
    | fraction => before ++ '.' :: fraction

/-- The sign and, unless the scalar stands for none, the magnitude as `write` gives it. -/
def written (zeroText : List Char) (write : Rat → List Char) (x : Scalar) : String :=
  let body :=
    match x with
    | nan => ['n', 'a', 'n']
    | posInf | negInf => ['i', 'n', 'f']
    | negZero => zeroText
    | finite q => if q = 0 then zeroText else write (if q < 0 then -q else q)
  String.ofList (if x.isNegative then '-' :: body else body)

def render (x : Scalar) : String :=
  written ['0', '.', '0'] (fun q =>
    let d := Decimal.shortest q
    if -4 ≤ d.leading && d.leading < 16 then positional d.trimmed d.leading ['.', '0']
    else scientific d.trimmed d.leading) x

/-- The magnitude rounded to `places` places, half to even. -/
def fixedMagnitude (places : Nat) (q : Rat) : List Char :=
  let parts := Decimal.fixedDigits places q
  if places = 0 then parts.1 else parts.1 ++ '.' :: parts.2

/-- The scalar rounded to `places` places, half to even. -/
def fixed (places : Nat) (x : Scalar) : String :=
  written (fixedMagnitude places 0) (fixedMagnitude places) x

/-- The scalar rounded to `count` digits, without zeros at the end. -/
def general (count : Nat) (x : Scalar) : String :=
  written ['0'] (fun q =>
    let d := Decimal.significant count q
    if -4 ≤ d.leading && d.leading < count then positional d.trimmed d.leading []
    else scientific d.trimmed d.leading) x

end LinearPrograms.Scalar
