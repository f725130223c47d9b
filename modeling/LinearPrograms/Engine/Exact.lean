import LinearPrograms.Engine.Catalogue
import LinearPrograms.Optimum.Branching

/-!
# Exact backends

Backends that solve handed-over models in exact rational arithmetic. A number counts as the decimal
with `significantDigits` digits next to it. Sensitivities are those of the optimum found: the duals
of the rows, and for each column what its cost leaves over them.
-/

namespace LinearPrograms

namespace Exact

/-- The number of decimal digits of a number that count. -/
def significantDigits : Nat := 12

def value (x : Scalar) : Rat :=
  let q := x.toRat
  if q = 0 then 0
  else if q < 0 then -(Decimal.significant significantDigits (-q)).toRat
  else (Decimal.significant significantDigits q).toRat

def boundsOf (b : Option Scalar × Option Scalar) : Bounds := ⟨b.1.map value, b.2.map value⟩

def reducedCosts (p : Program) (duals : List Rat) : List Rat :=
  (List.zip duals p.rows).foldl
    (fun left d => List.zipWith (fun a b => a - d.1 * b) left d.2.coefficients) p.cost

def scalarsOf (qs : List Rat) : Document := .ofScalars (qs.map Rounding.nearest)

def allFinite (xs : List Scalar) : Bool := xs.all Scalar.isFinite

/-! ## Split models -/

def splitProgram (m : SplitModel) : Program where
  cost := m.cost.map value
  rows :=
    (m.upperRows.zip m.upperRhs).map (fun r => ⟨r.1.map value, .le, value r.2⟩) ++
      (m.equalRows.zip m.equalRhs).map fun r => ⟨r.1.map value, .eq, value r.2⟩
  bounds := m.bounds.map boundsOf
  integer := m.integrality.getD (m.cost.map fun _ => false)

def invalidBlock? (m : SplitModel) : Option String :=
  let blocks : List (String × List Scalar) :=
    [("c", m.cost), ("A_ub", m.upperRows.flatten), ("b_ub", m.upperRhs),
     ("A_eq", m.equalRows.flatten), ("b_eq", m.equalRhs)]
  (blocks.find? fun b => !allFinite b.2).map Prod.fst

def splitFailure (status : Int) : SplitAnswer := { status := .int status, message := .ofString "" }

def splitAnswer (m : SplitModel) : SplitAnswer :=
  let p := splitProgram m
  if m.integrality.isSome then
    match p.integerMinimum with
    | .optimal point => { status := .int 0, point := some (scalarsOf point) }
    | .infeasible => splitFailure 2
    | .unbounded => splitFailure 3
    | .unknown => splitFailure 4
  else
    match p.minimum with
    | .optimal point duals =>
      let rest := reducedCosts p duals
      { status := .int 0
        point := some (scalarsOf point)
        upperMarginals := scalarsOf (duals.take m.upperRows.length)
        equalMarginals := scalarsOf (duals.drop m.upperRows.length)
        lowMarginals := scalarsOf (rest.map fun r => if 0 < r then r else 0)
        highMarginals := scalarsOf (rest.map fun r => if r < 0 then r else 0) }
    | .infeasible => splitFailure 2
    | .unbounded => splitFailure 3
    | .unknown => splitFailure 4

/-- The backend for split models; it refuses a model without columns, and one that holds something
other than numbers. -/
def split (m : SplitModel) : Action Unit SplitAnswer :=
  if m.cost.isEmpty then Action.fail (.backend .noColumns)
  else
    match invalidBlock? m with
    | some block => Action.fail (.backend (.invalidData block))
    | none => Action.give (splitAnswer m)

/-! ## Named models -/

/-- The program that a named model states; a maximization has its objective negated. -/
def namedProgram (m : NamedModel) : Program where
  cost := m.objective.map fun t => value (t.2.negateIf m.maximize)
  rows := m.rows.map fun r => ⟨r.terms.map fun t => value t.2, r.relation, value r.rhs⟩
  bounds := m.columns.map fun c => boundsOf (c.lower, c.upper)
  integer := m.columns.map NamedColumn.integer

def namedAnswer (m : NamedModel) : NamedAnswer :=
  let p := namedProgram m
  let own := fun qs : List Rat => qs.map fun q =>
    Document.float (Rounding.nearest (if m.maximize then -q else q))
  if p.integer.any id then
    match p.integerMinimum with
    | .optimal point =>
      { status := .optimal, values := point.map fun q => .float (Rounding.nearest q) }
    | .infeasible => { status := .infeasible }
    | .unbounded => { status := .unbounded }
    | .unknown => { status := .undefined }
  else
    match p.minimum with
    | .optimal point duals =>
      { status := .optimal
        values := point.map fun q => .float (Rounding.nearest q)
        rowDuals := own duals
        columnDuals := own (reducedCosts p duals) }
    | .infeasible => { status := .infeasible }
    | .unbounded => { status := .unbounded }
    | .unknown => { status := .undefined }

/-- Does a named model hold numbers only, and bounds that leave each column a value? -/
def isSound (m : NamedModel) : Bool :=
  allFinite (m.objective.map Prod.snd) &&
    m.rows.all (fun r => allFinite (r.terms.map Prod.snd) && r.rhs.isFinite) &&
    !m.columns.any fun c => (boundsOf (c.lower, c.upper)).isEmpty

/-- The backend for named models; it refuses a model that is not sound. -/
def named (m : NamedModel) : Action Unit NamedAnswer :=
  if isSound m then Action.give (namedAnswer m) else Action.fail (.backend .modelRefused)

def backends : Backends Unit := ⟨split, named⟩

end Exact

end LinearPrograms
