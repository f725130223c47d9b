import LinearPrograms.Outcome

/-!
# Reports

A `Report` tells a result to a reader: the size of the problem, the objective value, a line for each
variable with its reduced cost, and a line for each constraint with its dual.
-/

namespace LinearPrograms.Report

/-- The number of places of every number in a report. -/
def places : Nat := 6

def rule : String := "".pushn '=' 60

def variableLine (j : Nat) (entry : Scalar × Scalar) : String :=
  s!"  x{j} = {entry.1.fixed places}  (reduced cost {entry.2.fixed places})"

def dualLine (i : Nat) (dual : Scalar) : String := s!"  R{i + 1}: {dual.fixed places}"

def variableLines (o : Outcome) : List String := (o.values.zip o.reducedCosts).mapIdx variableLine

/-- The lines of the constraints; a problem without constraints has none, not even a title. -/
def dualLines (constraints : Nat) (o : Outcome) : List String :=
  if constraints = 0 then [] else "" :: "Constraint duals:" :: o.constraintDuals.mapIdx dualLine

/-- The lines of a report on a problem with some numbers of variables and constraints. -/
def lines (engine : String) (columns constraints : Nat) (o : Outcome) :
    Except ConversionFault (List String) := do
  let value ← Outcome.formatted "f" o.objective
  return [rule, s!"LP Solver ({engine})", rule,
      s!"Variables: {columns}, constraints: {constraints}",
      s!"Objective value: {value.fixed places}", "", "Variables:"] ++
    variableLines o ++ dualLines constraints o ++ [rule]

def joined (ls : List String) : String := String.join (ls.map (· ++ "\n"))

end LinearPrograms.Report
