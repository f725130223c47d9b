import LinearPrograms.Relation

/-!
# Linear programs over the rationals

A `Program` minimizes a linear cost over points within bounds that satisfy rows, some of whose
columns may be limited to integers. What it allows and what it costs is stated by `Program.allows`
and `Program.costAt`.
-/

namespace LinearPrograms

/-- A row `coefficients · x  relation  rhs`. -/
structure Row where
  coefficients : List Rat
  relation : Relation
  rhs : Rat
  deriving DecidableEq, Inhabited

/-- The least and the greatest value of a column, if it has one. -/
structure Bounds where
  lower : Option Rat
  upper : Option Rat
  deriving DecidableEq, Inhabited

/-- The minimization of a cost over columns with bounds and rows. -/
structure Program where
  cost : List Rat
  rows : List Row
  bounds : List Bounds
  integer : List Bool
  deriving Inhabited

def product (xs ys : List Rat) : Rat := (List.zipWith (· * ·) xs ys).foldl (· + ·) 0

namespace Row

def holds (r : Row) (x : List Rat) : Bool :=
  match r.relation with
  | .le => decide (product r.coefficients x ≤ r.rhs)
  | .ge => decide (r.rhs ≤ product r.coefficients x)
  | .eq => decide (product r.coefficients x = r.rhs)

end Row

namespace Bounds

def holds (b : Bounds) (q : Rat) : Bool :=
  b.lower.all (fun low => decide (low ≤ q)) && b.upper.all (fun high => decide (q ≤ high))

def isEmpty (b : Bounds) : Bool :=
  match b.lower, b.upper with
  | some low, some high => decide (high < low)
  | _, _ => false

end Bounds

namespace Program

def columns (p : Program) : Nat := p.cost.length

def costAt (p : Program) (x : List Rat) : Rat := product p.cost x

/-- Is a point within the bounds, on all rows, and integer where it has to be? -/
def allows (p : Program) (x : List Rat) : Bool :=
  x.length == p.columns && p.rows.all (fun r => r.holds x) &&
    (p.bounds.zip x).all (fun b => b.1.holds b.2) &&
    (p.integer.zip x).all (fun f => !f.1 || f.2.den == 1)

end Program

end LinearPrograms
