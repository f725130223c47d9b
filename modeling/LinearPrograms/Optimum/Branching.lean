import LinearPrograms.Optimum.Simplex

/-!
# Branch and bound

`Program.integerMinimum` solves a program with its integer flags. A node is a part of the program
with tighter bounds and the optimum of its relaxation; the node of least cost comes first, so the
first one whose point is integer where it has to be is an optimum. Any other node is split at the
first column that is not integer.
-/

namespace LinearPrograms

namespace Branching

/-- A part of a program: its bounds, and the cost and the point of its relaxation. -/
structure Node where
  bounds : List Bounds
  cost : Rat
  point : List Rat
  deriving Inhabited

/-- How a search ends. -/
inductive Answer where
  | infeasible
  | unbounded
  | optimal (point : List Rat)
  | unknown
  deriving DecidableEq, Inhabited

/-- The number of nodes after which a search is given up. -/
def nodeLimit : Nat := 4000

/-- The bounds of a column with an upper bound of at most `high`. -/
def capped (high : Rat) (b : Bounds) : Bounds :=
  { b with upper := some (b.upper.elim high fun u => if u < high then u else high) }

/-- The bounds of a column with a lower bound of at least `low`. -/
def raised (low : Rat) (b : Bounds) : Bounds :=
  { b with lower := some (b.lower.elim low fun l => if low < l then l else low) }

def tightened (b : Bounds) : Bounds :=
  ⟨b.lower.map fun q => (q.ceil : Rat), b.upper.map fun q => (q.floor : Rat)⟩

/-- The first column that has to be integer and is not, with its value. -/
def fractional? (integer : List Bool) (point : List Rat) : Option (Nat × Rat) :=
  ((integer.zip point).zipIdx.find? fun p => p.1.1 && p.1.2.den != 1).map fun p => (p.2, p.1.2)

def node? (p : Program) (bounds : List Bounds) : Option Node :=
  match { p with bounds := bounds }.minimum with
  | .optimal point _ => some ⟨bounds, p.costAt point, point⟩
  | _ => none

def insert (n : Node) : List Node → List Node
  | [] => [n]
  | m :: rest => if n.cost < m.cost then n :: m :: rest else m :: insert n rest

def halves (p : Program) (n : Node) (j : Nat) (value : Rat) : List Node :=
  let floor : Rat := (value.floor : Rat)
  [n.bounds.modify j (capped floor), n.bounds.modify j (raised (floor + 1))].filterMap (node? p)

def search (p : Program) : (fuel : Nat) → List Node → Answer
  | _, [] => .infeasible
  | 0, _ => .unknown
  | fuel + 1, n :: rest =>
    match fractional? p.integer n.point with
    | none => .optimal n.point
    | some (j, value) => search p fuel ((halves p n j value).foldr insert rest)

end Branching

open Branching in
def Program.integerMinimum (p : Program) : Branching.Answer :=
  let bounds := (p.bounds.zip p.integer).map fun b => if b.2 then tightened b.1 else b.1
  match { p with bounds := bounds }.minimum with
  | .infeasible => .infeasible
  | .unbounded => .unbounded
  | .unknown => .unknown
  | .optimal point _ => search p nodeLimit [⟨bounds, p.costAt point, point⟩]

end LinearPrograms
