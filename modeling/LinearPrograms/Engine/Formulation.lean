import LinearPrograms.Relation
import LinearPrograms.Status
import LinearPrograms.Tensor

/-!
# Formulations

A `Formulation` is the model that an engine keeps: columns with bounds and integer flags, an
objective, and rows with a relation and a right-hand side. Columns are numbered from one, and every
row that is handed over has an ignored entry in front. A bound of `unboundedFrom` or more in
magnitude is no bound. `Formulation.edit` applies one edit to a formulation.
-/

namespace LinearPrograms

/-- A call that changes a formulation, with its arguments as they were handed over. -/
inductive Edit where
  | verbosity (level : Document)
  | maximize
  | minimize
  | objective (row : Document)
  | lower (column value : Document)
  | upper (column value : Document)
  | integer (column flag : Document)
  | constraint (row relation rhs : Document)
  | scaling (mode : Document)
  deriving Inhabited

/-- The model that an engine keeps. -/
structure Formulation where
  columns : Nat
  maximize : Bool
  verbosity : Document
  scaling : Int
  objective : List Scalar
  lower : List Scalar
  upper : List Scalar
  integer : List Bool
  rows : List (List Scalar)
  relations : List Relation
  rhs : List Scalar
  deriving Inhabited

namespace Formulation

/-- The scaling mode of a new formulation: geometric, with equilibration and integer columns. -/
def defaultScaling : Int := 4 + 64 + 128

/-- The magnitude from which on a bound is none: the double next to 10^30, which is a little above
it. -/
def unboundedFrom : Rat := 1000000000000000019884624838656

/-- The verbosity from which on an engine reports its runs. -/
def reportingLevel : Int := 4

def fullLevel : Int := 6

/-- A new formulation: `rows` empty rows `0 ≤ 0`, and columns that may be any number from zero on.
-/
def ofSize (rows columns : Nat) : Formulation where
  columns := columns
  maximize := false
  verbosity := .int 0
  scaling := defaultScaling
  objective := List.replicate columns .zero
  lower := List.replicate columns .zero
  upper := List.replicate columns .posInf
  integer := List.replicate columns false
  rows := List.replicate rows (List.replicate columns .zero)
  relations := List.replicate rows .le
  rhs := List.replicate rows .zero

/-- Does the scaling mode, whose base is in its three lowest bits, turn scaling off? -/
def scalingDisabled (f : Formulation) : Bool := f.scaling % 8 == 0

def reports (f : Formulation) : Bool :=
  match f.verbosity.number? with
  | some level => Scalar.le (.finite reportingLevel) level
  | none => false

def hasInteger (f : Formulation) : Bool := f.integer.any id

def position (f : Formulation) (column : Document) : Except Fault Nat := do
  let atLeast ← (Document.atMost "<=" (.int 1) column).mapError .conversion
  let below ←
    if atLeast then (Document.atMost "<=" column (.int f.columns)).mapError .conversion
    else pure false
  if !below then throw (.engine (.column column f.columns))
  match column with
  | .float _ => throw (.shape .badIndex)
  | d =>
    let i ← d.toInt.mapError .conversion
    return (i - 1).toNat

/-- A lower bound; far enough down it is none. -/
def lowerBound (value : Document) : Except ConversionFault Scalar := do
  let isNone ← Document.atMost "<=" value (.float (.finite (-unboundedFrom)))
  if isNone then return .negInf else value.toScalar

/-- Is `left` at least `right`, where both must be numbers? -/
def atLeast (left right : Document) : Except ConversionFault Bool :=
  match left.number?, right.number? with
  | some x, some y => .ok (y.le x)
  | _, _ => .error (.notOrdered ">=" left.kindName right.kindName)

/-- An upper bound; far enough up it is none. -/
def upperBound (value : Document) : Except ConversionFault Scalar := do
  let isNone ← atLeast value (.float (.finite unboundedFrom))
  if isNone then return .posInf else value.toScalar

def verbosityLevel (level : Document) : Except Fault Document := do
  let low ← (Document.atMost "<=" (.int 0) level).mapError .conversion
  let high ←
    if low then (Document.atMost "<=" level (.int fullLevel)).mapError .conversion
    else pure false
  if high then return level else throw (.engine (.verbosity level))

/-- The coefficients of a row that is handed over with an ignored entry in front. -/
def unpadded (f : Formulation) (row : Document) : Except Fault (List Scalar) := do
  let t ← Tensor.ofDocument row
  (t.unpadded f.columns).mapError .shape

def relationOf (value : Document) : Except Fault Relation :=
  (Relation.all.find? fun r => value.isInteger r.code).elim
    (.error (.engine (.relationCode value))) .ok

/-- Adds a row; its right-hand side is read last, after the row and the relation are in place. -/
def addConstraint (f : Formulation) (row relation rhs : Document) :
    Except Fault Unit × Formulation :=
  match relationOf relation with
  | .error e => (.error e, f)
  | .ok r =>
    match f.unpadded row with
    | .error e => (.error e, f)
    | .ok coefficients =>
      let g := { f with rows := f.rows ++ [coefficients], relations := f.relations ++ [r] }
      match rhs.toScalar with
      | .error e => (.error (.conversion e), g)
      | .ok b => (.ok (), { g with rhs := g.rhs ++ [b] })

def revised (f : Formulation) : Edit → Except Fault Formulation
  | .verbosity level => do return { f with verbosity := ← verbosityLevel level }
  | .maximize => .ok { f with maximize := true }
  | .minimize => .ok { f with maximize := false }
  | .objective row => do return { f with objective := ← f.unpadded row }
  | .lower column value => do
    let bound ← (lowerBound value).mapError .conversion
    let j ← f.position column
    return { f with lower := f.lower.set j bound }
  | .upper column value => do
    let bound ← (upperBound value).mapError .conversion
    let j ← f.position column
    return { f with upper := f.upper.set j bound }
  | .integer column flag => do
    let j ← f.position column
    return { f with integer := f.integer.set j flag.isTrue }
  | .scaling mode => do
    let m ← mode.toInt.mapError .conversion
    return { f with scaling := m }
  | .constraint _ _ _ => .ok f

/-- Applies an edit: the answer, and the formulation afterwards. -/
def edit (f : Formulation) : Edit → Except Fault Unit × Formulation
  | .constraint row relation rhs => f.addConstraint row relation rhs
  | e =>
    match f.revised e with
    | .ok g => (.ok (), g)
    | .error fault => (.error fault, f)

def cleared (f : Formulation) : Formulation := { f with rows := [], relations := [], rhs := [] }

end Formulation

end LinearPrograms
