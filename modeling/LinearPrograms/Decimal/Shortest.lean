import LinearPrograms.Decimal.Basic

/-!
# The shortest decimal of a double

`Decimal.shortest` gives the decimal with the fewest digits among those that round to a double, and
of these the nearest. A decimal with a given last place lies in the double's interval only if one of
the two neighbours of the double with that last place does, so only they are tried.
-/

namespace LinearPrograms.Decimal

/-- The rationals that round to one double. -/
structure Interval where
  low : Rat
  high : Rat
  closed : Bool

def Interval.contains (i : Interval) (q : Rat) : Bool :=
  if i.closed then decide (i.low ≤ q) && decide (q ≤ i.high)
  else decide (i.low < q) && decide (q < i.high)

/-- The interval of a positive double: half a quantum up, and down half a quantum or, below a power
of two, a quarter; with its ends exactly if the significand is even. -/
def intervalOf (q : Rat) : Interval :=
  let exponent := quantumExponent q
  let quantum := powerOf 2 exponent
  let significand := (q / quantum).floor
  let below :=
    if significand = (Nat.pow 2 52 : Nat) ∧ -1074 < exponent then quantum / 4 else quantum / 2
  ⟨q - below, q + quantum / 2, significand % 2 == 0⟩

/-- The nearest decimal with `count` digits that the interval of the double `q` holds. -/
def withDigits? (q : Rat) (count : Nat) : Option Decimal :=
  let scale : Int := (count : Int) - 1 - exponentOf q
  let scaled := q * powerOf 10 scale
  let nearest := (roundHalfEven scaled).toNat
  let other := if (nearest : Rat) ≤ scaled then nearest + 1 else nearest - 1
  let interval := intervalOf q
  ([⟨nearest, -scale⟩, ⟨other, -scale⟩] : List Decimal).find? fun d => interval.contains d.toRat

/-- The shortest decimal that rounds to the positive double `q`, seventeen digits at most. -/
def shortest (q : Rat) : Decimal :=
  ((List.range' 1 17).findSome? (withDigits? q)).getD (significant 17 q)

end LinearPrograms.Decimal
