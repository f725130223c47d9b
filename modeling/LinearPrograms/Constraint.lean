import LinearPrograms.Relation

/-!
# Constraints

A `Constraint` says how a linear form with one coefficient per variable relates to a constant. It is
read from three values in the order coefficients, relation, constant, and the first that is refused
decides the fault.
-/

namespace LinearPrograms

/-- The constraint `body · x  relation  rhs`. -/
structure Constraint where
  body : List Scalar
  relation : Relation
  rhs : Scalar
  deriving DecidableEq, Inhabited

namespace Constraint

/-- The constraint with the coefficients, the relation and the constant that three values hold. -/
def ofDocuments (body relation rhs : Document) : Except Fault Constraint := do
  let items ← body.parts.mapError .conversion
  let coefficients ← (Document.toScalars items).mapError .conversion
  let r ← Relation.parse relation
  let constant ← rhs.toScalar.mapError .conversion
  return ⟨coefficients, r, constant⟩

def sameNumbers : List Scalar → List Scalar → Bool
  | [], [] => true
  | x :: xs, y :: ys => x.equals y && sameNumbers xs ys
  | _, _ => false

def same (a b : Constraint) : Bool :=
  sameNumbers a.body b.body && decide (a.relation = b.relation) && a.rhs.equals b.rhs

def term (index : Nat) (coefficient : Scalar) : String := coefficient.general 6 ++ s!"*x{index}"

def render (c : Constraint) : String :=
  let terms := " + ".intercalate (c.body.mapIdx term)
  "LPConstraint(" ++ terms ++ " " ++ c.relation.symbol ++ " " ++ c.rhs.general 6 ++ ")"

end Constraint

end LinearPrograms
