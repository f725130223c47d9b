import LinearPrograms.Optimum.Program

/-!
# The simplex method

`Program.minimum` solves a program without its integer flags in exact arithmetic. Every column is
shifted or reflected to begin at zero, or split into two if it has no bound; an upper bound becomes
a row. Each row gets an artificial column, phase one drives these out, and phase two minimizes the
cost; both take the first column that improves and the first row that limits it, so that no basis
comes twice. The duals of the rows stand below the artificial columns at the end.
-/

namespace LinearPrograms.Simplex

/-- Rows in basis form: each is a constant followed by one entry per column, and its basic column
has a one here and zeros elsewhere. The cost row has the same form. -/
structure Tableau where
  rows : List (List Rat)
  basis : List Nat
  cost : List Rat
  deriving Inhabited

/-- An entry of a row; the constant is entry zero. -/
def entry (row : List Rat) (c : Nat) : Rat := row.getD c 0

def scaled (q : Rat) (row : List Rat) : List Rat := row.map (q * ·)

def reduced (row : List Rat) (q : Rat) (other : List Rat) : List Rat :=
  if q = 0 then row else List.zipWith (fun a b => a - q * b) row other

namespace Tableau

/-- Makes column `c` the basic column of row `r`. -/
def pivot (t : Tableau) (r c : Nat) : Tableau :=
  let row := t.rows.getD r []
  let unit := scaled (1 / entry row c) row
  { rows := t.rows.mapIdx fun i other => if i = r then unit else reduced other (entry other c) unit
    basis := t.basis.set r c
    cost := reduced t.cost (entry t.cost c) unit }

/-- The first column up to `last` whose cost is negative. -/
def entering? (t : Tableau) (last : Nat) : Option Nat :=
  (List.range' 1 last).find? fun c => decide (entry t.cost c < 0)

/-- The limit that a row sets to a column, with its basic column and its position. -/
structure Limit where
  ratio : Rat
  basic : Nat
  position : Nat

/-- Does the first limit come before the second? The lower one does, and of two equal ones the one
with the lower basic column. -/
def Limit.before (a b : Limit) : Bool :=
  decide (a.ratio < b.ratio) || (decide (a.ratio = b.ratio) && decide (a.basic < b.basic))

def limits (t : Tableau) (c : Nat) : List Limit :=
  (t.rows.zip t.basis).zipIdx.filterMap fun p =>
    let a := entry p.1.1 c
    if 0 < a then some ⟨entry p.1.1 0 / a, p.1.2, p.2⟩ else none

def leaving? (t : Tableau) (c : Nat) : Option Nat :=
  ((t.limits c).foldl (fun best l =>
    match best with
    | some b => if l.before b then some l else some b
    | none => some l) none).map Limit.position

/-- How a run of pivots ends. -/
inductive End where
  | optimal
  | unbounded
  | exhausted
  deriving DecidableEq

/-- Pivots on the columns up to `last` until no cost is negative, no row limits a column, or the
fuel is used up. -/
def improve (last : Nat) : (fuel : Nat) → Tableau → End × Tableau
  | 0, t => (.exhausted, t)
  | fuel + 1, t =>
    match t.entering? last with
    | none => (.optimal, t)
    | some c =>
      match t.leaving? c with
      | none => (.unbounded, t)
      | some r => improve last fuel (t.pivot r c)

/-- The tableau with a cost row for the given costs, one per column after the constant. -/
def withCost (t : Tableau) (costs : List Rat) : Tableau :=
  { t with
    cost := (t.rows.zip t.basis).foldl
      (fun row p => reduced row (entry costs p.2) p.1) costs }

/-- Makes a column up to `last` basic in row `r` if its basic column is a later one. -/
def expel (last : Nat) (t : Tableau) (r : Nat) : Tableau :=
  if t.basis.getD r 0 ≤ last then t
  else
    let row := t.rows.getD r []
    match (List.range' 1 last).find? fun c => decide (entry row c ≠ 0) with
    | some c => t.pivot r c
    | none => t

end Tableau

/-! ## Standard form -/

/-- How a column of a program is made of columns that begin at zero. -/
inductive Substitution where
  | shifted (low : Rat)
  | reflected (high : Rat)
  | split

def substitution (b : Bounds) : Substitution :=
  match b.lower, b.upper with
  | some low, _ => .shifted low
  | none, some high => .reflected high
  | none, none => .split

def Substitution.origin : Substitution → Rat
  | shifted q | reflected q => q
  | split => 0

/-- The coefficients of the columns that stand for one with coefficient `a`. -/
def Substitution.coefficients (a : Rat) : Substitution → List Rat
  | shifted _ => [a]
  | reflected _ => [-a]
  | split => [a, -a]

def substituted (ss : List Substitution) (as : List Rat) : List Rat :=
  (List.zipWith (fun s a => s.coefficients a) ss as).flatten

def restored : List Substitution → List Rat → List Rat
  | [], _ => []
  | .shifted q :: ss, x :: xs => (q + x) :: restored ss xs
  | .reflected q :: ss, x :: xs => (q - x) :: restored ss xs
  | .split :: ss, x :: y :: xs => (x - y) :: restored ss xs
  | _ :: ss, xs => 0 :: restored ss xs

/-- The row that an upper bound of column `j` of `n` stands for, if the column is shifted. -/
def boundRow (n : Nat) (j : Nat) (b : Bounds) : Option Row :=
  match b.lower, b.upper with
  | some _, some high => some ⟨(List.replicate n 0).set j 1, .le, high⟩
  | _, _ => none

/-- A row over the substituted columns whose constant is not negative, and whether it was negated.
-/
def standardRow (ss : List Substitution) (r : Row) : Row × Bool :=
  let rhs := r.rhs - product r.coefficients (ss.map Substitution.origin)
  let coefficients := substituted ss r.coefficients
  if rhs < 0 then
    let relation := match r.relation with
      | .le => Relation.ge
      | .ge => .le
      | .eq => .eq
    (⟨coefficients.map (- ·), relation, -rhs⟩, true)
  else (⟨coefficients, r.relation, rhs⟩, false)

def slack : Relation → Option Rat
  | .le => some 1
  | .ge => some (-1)
  | .eq => none

/-- Entries for the slacks of all rows, those of row `i` not zero. -/
def slackEntries (rows : List Row) (i : Nat) : List Rat :=
  rows.zipIdx.filterMap fun p => (slack p.1.relation).map fun q => if p.2 = i then q else 0

/-- Entries for the artificial columns of `m` rows, that of row `i` not zero. -/
def artificialEntries (m i : Nat) : List Rat := (List.replicate m 0).set i 1

/-- The number of pivots after which a run is given up. -/
def pivotLimit : Nat := 20000

/-- What the simplex method finds: no point, no least cost, or a point of least cost and the duals
of the rows; or nothing within the limit. -/
inductive Answer where
  | infeasible
  | unbounded
  | optimal (point duals : List Rat)
  | unknown
  deriving DecidableEq, Inhabited

/-- The point of a tableau over `n` substituted columns. -/
def pointOf (t : Tableau) (n : Nat) : List Rat :=
  (List.range' 1 n).map fun c =>
    match (t.rows.zip t.basis).find? fun p => p.2 = c with
    | some p => entry p.1 0
    | none => 0

end Simplex

open Simplex in
/-- The least cost of a program without its integer flags, where it is reached, and the duals of its
rows. -/
def Program.minimum (p : Program) : Simplex.Answer :=
  if p.bounds.any Bounds.isEmpty then .infeasible
  else
    let ss := p.bounds.map substitution
    let boundRows := (p.bounds.mapIdx (boundRow p.columns)).filterMap id
    let standard := (p.rows ++ boundRows).map (standardRow ss)
    let rows := standard.map Prod.fst
    let m := rows.length
    let cost := substituted ss p.cost
    let slacks := (rows.filterMap fun r => slack r.relation).length
    let structural := cost.length + slacks
    let start : Tableau :=
      { rows := rows.mapIdx fun i r =>
          r.rhs :: r.coefficients ++ slackEntries rows i ++ artificialEntries m i
        basis := (List.range m).map (structural + 1 + ·)
        cost := [] }
    let phaseOne := start.withCost (List.replicate (structural + 1) 0 ++ List.replicate m 1)
    match phaseOne.improve structural pivotLimit with
    | (.optimal, t) =>
      if entry t.cost 0 ≠ 0 then .infeasible
      else
        let feasible := (List.range m).foldl (fun t r => t.expel structural r) t
        let costs := 0 :: cost ++ List.replicate (slacks + m) 0
        match (feasible.withCost costs).improve structural pivotLimit with
        | (.optimal, t) =>
          let duals := (standard.take p.rows.length).mapIdx fun i r =>
            let y := -entry t.cost (structural + 1 + i)
            if r.2 then -y else y
          .optimal (restored ss (pointOf t cost.length)) duals
        | (.unbounded, _) => .unbounded
        | (.exhausted, _) => .unknown
    | _ => .unknown

end LinearPrograms
