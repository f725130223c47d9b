import LinearPrograms.Document.Number

/-!
# Statuses

The codes with which an engine answers, their texts, and what they mean to the caller. Two tables
speak of usability: `usableCodes` decides whether an engine keeps its solution, and
`StatusKind.ofCode` whether the caller reads it.
-/

namespace LinearPrograms

/-- What a status code means to the caller. -/
inductive StatusKind where
  | optimal
  | suboptimal
  | procbreak
  | feasfound
  | failure
  deriving DecidableEq, Inhabited

namespace StatusKind

def name : StatusKind → String
  | optimal => "optimal"
  | suboptimal => "suboptimal"
  | procbreak => "procbreak"
  | feasfound => "feasfound"
  | failure => "failure"

def ofCode (code : Int) : StatusKind :=
  if code = 0 then optimal
  else if code = 1 then suboptimal
  else if code = 11 then procbreak
  else if code = 12 then feasfound
  else failure

def usable : StatusKind → Bool
  | failure => false
  | _ => true

end StatusKind

namespace Status

/-- The codes of the runs that leave a solution. -/
def usableCodes : List Int := [0, 1, 11, 12]

def optimal : Int := 0

/-- A run found a solution that need not be optimal. -/
def suboptimal : Int := 1

def infeasible : Int := 2

/-- The objective has no bound on the points that satisfy the model. -/
def unbounded : Int := 3

def numericalFailure : Int := 5

def timeout : Int := 7

/-- A run failed for another reason. -/
def failed : Int := 10

/-- The model has not been run. -/
def notRun : Int := -1

/-- The codes that have a text. -/
def texts : List (Int × String) :=
  [(-2, "Out of memory"),
   (-1, "Model has not been optimized"),
   (0, "OPTIMAL solution"),
   (1, "SUBOPTIMAL solution"),
   (2, "This problem is infeasible"),
   (3, "This problem is unbounded"),
   (4, "DEGENERATE situation"),
   (5, "NUMERICAL FAILURE encountered"),
   (6, "User aborted"),
   (7, "Timeout"),
   (9, "The model could be solved by presolve"),
   (10, "The B&B routine failed"),
   (11, "The B&B was stopped because of a break-at-first or break-at-value"),
   (12, "A feasible B&B solution was found"),
   (13, "No feasible B&B solution found")]

/-- The text of a code, which any value that can be a key may stand for. -/
def textOf (code : Document) : Except ConversionFault Text := do
  let key ← code.asKey
  match texts.find? fun entry => key.isInteger entry.1 with
  | some entry => return Text.ofString entry.2
  | none =>
    match key with
    | .text t => return Text.ofString "Undefined internal error (" ++ t ++ Text.ofString ")"
    | d => return Text.ofString ("Undefined internal error (" ++ d.shown ++ ")")

def textOfCode (code : Int) : String :=
  match texts.find? fun entry => entry.1 = code with
  | some entry => entry.2
  | none => s!"Undefined internal error ({code})"

def isUsable (code : Document) : Bool := usableCodes.any fun c => code.isInteger c

end Status

end LinearPrograms
