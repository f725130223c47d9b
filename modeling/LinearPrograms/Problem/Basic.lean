import LinearPrograms.Solve

/-!
# Problems

A `Problem` is a maximization problem as a problem document describes it, with all numbers read.
-/

namespace LinearPrograms

/-- A maximization problem with optional bounds, integer flags and scaling mode. -/
structure Problem where
  objective : List Scalar
  constraints : List Constraint
  lowerBounds : Option (List Scalar) := none
  upperBounds : Option (List Scalar) := none
  integerVariables : Option (List Bool) := none
  scalingMode : Option Int := none
  deriving Inhabited

namespace Problem

def scalarsDocument (xs : Option (List Scalar)) : Document := xs.elim .null .ofScalars

def flagsDocument (flags : Option (List Bool)) : Document :=
  flags.elim .null fun bs => .list (bs.map .bool)

def scalingDocument (mode : Option Int) : Document := mode.elim .null .int

def toRequest (p : Problem) : Request where
  objective := .ofScalars p.objective
  constraints := p.constraints.map .constraint
  lowerBounds := scalarsDocument p.lowerBounds
  upperBounds := scalarsDocument p.upperBounds
  integerVariables := flagsDocument p.integerVariables
  scalingMode := scalingDocument p.scalingMode

def render (p : Problem) : String :=
  s!"LPProblem(variables={p.objective.length}, constraints={p.constraints.length}, " ++
    s!"scaling={(scalingDocument p.scalingMode).quoted})"

end Problem

end LinearPrograms
