import LinearPrograms.Tensor

/-!
# Outcomes

An `Outcome` is the result of a solve: the objective value, a value for each variable, and an array
of duals. The duals begin with an entry that means nothing; the duals of the constraints follow in
the order of the rows, and the reduced costs of the variables come last.
-/

namespace LinearPrograms

/-- The result of a solve; the objective value is empty until it is known. -/
structure Outcome where
  values : List Scalar
  duals : List Scalar
  objective : Document := .null
  deriving Inhabited

namespace Outcome

def size (n : Int) : Except Fault Nat :=
  if n < 0 then .error (.shape .negativeDimension) else .ok n.toNat

/-- The result of a problem with some numbers of variables and constraints before it is solved. -/
def blank (columns constraints : Int) : Except Fault Outcome := do
  let n ← size columns
  let k ← size (columns + constraints + 1)
  return ⟨List.replicate n .zero, List.replicate k .zero, .null⟩

def row (d : Document) : Except Fault (List Scalar) := do
  let t ← Tensor.ofDocument d
  if t.shape = [] then throw (.shape .unsized)
  return t.entries

def ofDocuments (values duals objective : Document) : Except Fault Outcome := do
  let xs ← row values
  let ds ← row duals
  return ⟨xs, ds, objective⟩

def constraintCount (o : Outcome) : Int := (o.duals.length : Int) - o.values.length - 1

/-- A position in a list of `size` entries; a negative one counts from the end. -/
def bounded (size : Nat) (i : Int) : Nat := if i < 0 then (size + i).toNat else min i.toNat size

/-- The entries from position `first` up to `last`; negative positions count from the end. -/
def between (xs : List Scalar) (first last : Int) : List Scalar :=
  (xs.take (bounded xs.length last)).drop (bounded xs.length first)

/-- The entries from position `first` on; a negative one counts from the end. -/
def since (xs : List Scalar) (first : Int) : List Scalar := xs.drop (bounded xs.length first)

def constraintDuals (o : Outcome) : List Scalar := between o.duals 1 (1 + o.constraintCount)

def reducedCosts (o : Outcome) : List Scalar := since o.duals (1 + o.constraintCount)

def formatted (code : String) (d : Document) : Except ConversionFault Scalar :=
  match d with
  | .bool _ | .int _ | .float _ => d.toScalar
  | .text _ => .error (.unknownFormat code d.kindName)
  | _ => .error (.noFormat d.kindName)

def objectiveText (o : Outcome) : Except ConversionFault String :=
  if o.objective.isPresent then (formatted "g" o.objective).map (Scalar.general 6 ·)
  else .ok "unset"

def render (o : Outcome) : Except ConversionFault String := do
  let value ← objectiveText o
  return s!"LPResult(obj={value}, variables={o.values.length}, " ++
    s!"constraints={o.constraintCount})"

def toDocument (o : Outcome) : Document :=
  .object
    [(Text.ofString "objective_value", o.objective),
     (Text.ofString "variable_values", .ofScalars o.values),
     (Text.ofString "dual_solution", .ofScalars o.duals)]

end Outcome

end LinearPrograms
