import LinearPrograms.Engine.Basic

/-!
# Split models

A `SplitModel` is a formulation as a minimization with inequalities on one side only and equations
apart: the objective changes its sign when it is maximized, and a row `≥` is negated and follows the
rows `≤`. The answer's sensitivities come back in that layout, as the change of the minimum, and
`SplitModel.duals` puts them into the order of the rows and the sense of the formulation. Integer
columns leave no sensitivities.
-/

namespace LinearPrograms

/-- A minimization of `cost` over columns within bounds, rows `≤`, and rows `=`. -/
structure SplitModel where
  cost : List Scalar
  upperRows : List (List Scalar)
  upperRhs : List Scalar
  equalRows : List (List Scalar)
  equalRhs : List Scalar
  bounds : List (Option Scalar × Option Scalar)
  integrality : Option (List Bool)
  display : Bool
  presolve : Bool
  deriving Inhabited

/-- The answer to a split model. A part that is missing was not given at all. -/
structure SplitAnswer where
  status : Document
  message : Document := .null
  point : Option Document := none
  upperMarginals : Document := .null
  equalMarginals : Document := .null
  lowMarginals : Document := .null
  highMarginals : Document := .null
  deriving Inhabited

namespace SplitModel

def source : String := "lpsolver.highs_engine"

def bound? (x : Scalar) : Option Scalar := if x.isFinite then some x else none

def positions (relation : Relation) (relations : List Relation) : List Nat :=
  (relations.zipIdx.filter fun p => p.1 = relation).map Prod.snd

def pick (xs : List Scalar) (is : List Nat) : Except Fault (List Scalar) :=
  is.mapM fun i =>
    match xs[i]? with
    | some x => .ok x
    | none => .error (.shape (.outOfAxis i xs.length))

def rowsOf (f : Formulation) (relation : Relation) : List (List Scalar) :=
  (f.rows.zip f.relations).filterMap fun p => if p.2 = relation then some p.1 else none

def ofFormulation (f : Formulation) : Except Fault SplitModel := do
  let leRhs ← pick f.rhs (positions .le f.relations)
  let geRhs ← pick f.rhs (positions .ge f.relations)
  let eqRhs ← pick f.rhs (positions .eq f.relations)
  return {
    cost := f.objective.map (Scalar.negateIf f.maximize)
    upperRows := rowsOf f .le ++ (rowsOf f .ge).map (List.map Scalar.neg)
    upperRhs := leRhs ++ geRhs.map Scalar.neg
    equalRows := rowsOf f .eq
    equalRhs := eqRhs
    bounds := (f.lower.zip f.upper).map fun b => (bound? b.1, bound? b.2)
    integrality := if f.hasInteger then some f.integer else none
    display := f.reports
    presolve := !f.scalingDisabled }

def count (relation : Relation) (relations : List Relation) : Nat :=
  (positions relation relations).length

def flag (b : Bool) : String := (Document.bool b).quoted

def announcement (f : Formulation) (m : SplitModel) : LogEntry :=
  ⟨.debug, source,
    s!"HiGHS run: {f.columns} columns, {count .le f.relations} LE / " ++
    s!"{count .ge f.relations} GE / {count .eq f.relations} EQ rows, " ++
    s!"mip={flag f.hasInteger}, presolve={flag m.presolve}"⟩

def statusOf (status : Document) (point : Option Document) : Int :=
  if status.isInteger 0 then Status.optimal
  else if status.isInteger 1 then
    if (point.getD .null).isPresent then Status.suboptimal else Status.timeout
  else if status.isInteger 2 then Status.infeasible
  else if status.isInteger 3 then Status.unbounded
  else if status.isInteger 4 then Status.numericalFailure
  else Status.failed

/-- The sensitivities of a block of `size` rows or columns: zeros if they are missing or of another
number, and finite numbers in any case. -/
def marginals (size : Nat) (block : Document) : Except Fault (List Scalar) :=
  if block.isPresent then do
    let t ← Tensor.ofDocument block
    if t.shape = [size] then return t.entries.map Scalar.clamped
    else return List.replicate size .zero
  else .ok (List.replicate size .zero)

/-- The sensitivities of the rows in their order, each taken from the front of the list of its
relation. -/
def scatter : List Relation → (le ge eq : List Scalar) → List Scalar
  | [], _, _, _ => []
  | .le :: rs, le, ge, eq => le.headD .zero :: scatter rs le.tail ge eq
  | .ge :: rs, le, ge, eq => ge.headD .zero :: scatter rs le ge.tail eq
  | .eq :: rs, le, ge, eq => eq.headD .zero :: scatter rs le ge eq.tail

/-- The duals that an answer gives to a formulation: a zero, one dual per row and one per column. -/
def duals (round : Rounding) (f : Formulation) (a : SplitAnswer) : Except Fault (List Scalar) := do
  let les := count .le f.relations
  let ges := count .ge f.relations
  let eqs := count .eq f.relations
  if f.hasInteger then return List.replicate (1 + f.rows.length + f.columns) .zero
  let upper ← marginals (les + ges) a.upperMarginals
  let equal ← marginals eqs a.equalMarginals
  let low ← marginals f.columns a.lowMarginals
  let high ← marginals f.columns a.highMarginals
  let sense := Scalar.negateIf f.maximize
  let rows := scatter f.relations ((upper.take les).map sense)
    ((upper.drop les).map fun x => -sense x) (equal.map sense)
  let columns := (List.zipWith (Scalar.add round) low high).map sense
  return (.zero :: rows ++ columns).map Scalar.plusZero

def objectiveAt (round : Rounding) (f : Formulation) (point : Tensor) : Except Fault Scalar :=
  let n := f.objective.length
  let size := fun k => Except.error (Fault.shape (.productLength n k))
  match point.shape.reverse with
  | [] => .error (.shape .scalarProduct)
  | [k] => if k = n then .ok (Scalar.dot round f.objective point.entries) else size k
  | _ :: k :: _ => if k = n then .error (.shape .notScalar) else size k

def solution (round : Rounding) (f : Formulation) (a : SplitAnswer) : Action β Solution := do
  let status := statusOf a.status a.point
  if status != Status.optimal && status != Status.suboptimal then
    Action.write ⟨.debug, source,
      s!"HiGHS finished with status {a.status.shown}: {a.message.shown}"⟩
    return { status := .int status }
  match a.point with
  | none => Action.fail (.engine (.missingField "x"))
  | some d =>
    let point ← Action.ofExcept (Tensor.ofDocument d)
    let objective ← Action.ofExcept (objectiveAt round f point)
    let ds ← Action.ofExcept (duals round f a)
    return {
      status := .int status
      objective := .float objective
      values := point.toDocument
      duals := .ofScalars ds }

def runner (round : Rounding) (backend : SplitModel → Action β SplitAnswer) : Runner β where
  name := "HighsEngine"
  run := fun f => do
    let m ← Action.ofExcept (ofFormulation f)
    Action.write (announcement f m)
    let a ← backend m
    solution round f a

end SplitModel

end LinearPrograms
