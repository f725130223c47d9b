import LinearPrograms.Action
import LinearPrograms.Engine.Formulation

/-!
# Engines

An `Engine` holds one problem: it is created with a number of rows and columns, edited, solved,
asked for its answer, and released. Any of these may fail. `Engine.ofRunner` is the engine that
keeps a formulation and leaves the solving to a `Runner`: it keeps the solution of the last run if
that run's status is usable, and nothing of earlier ones.
-/

namespace LinearPrograms

/-- The calls by which a caller drives one problem. -/
structure Engine (σ : Type) where
  create : Int → Int → Except Fault σ
  edit : Edit → Action σ Unit
  solve : Action σ Document
  scaling : Action σ Int
  statusText : Document → Action σ Text
  objective : Action σ Scalar
  values : Action σ Tensor
  duals : Action σ Tensor
  release : Action σ Unit

/-- What a run answers; all but the status count only if the status is usable. -/
structure Solution where
  status : Document
  objective : Document := .null
  values : Document := .null
  duals : Document := .null
  deriving Inhabited

/-- A way to solve formulations, under the name that reports give. -/
structure Runner (β : Type) where
  name : String
  run : Formulation → Action β Solution

/-- An engine's problem: the formulation, the solution of the last run, whether the problem was
released, and the backend. -/
structure LoadedProblem (β : Type) where
  formulation : Formulation
  solution : Option Solution := none
  released : Bool := false
  backend : β

namespace LoadedProblem

variable {β : Type}

def create (backend : β) (rows columns : Int) : Except Fault (LoadedProblem β) :=
  if rows < 0 || columns < 0 then .error (.engine (.negativeSize rows columns))
  else .ok { formulation := .ofSize rows.toNat columns.toNat, backend := backend }

def checkAlive : Action (LoadedProblem β) Unit := fun p =>
  ⟨if p.released then .error (.engine .deleted) else .ok (), p, []⟩

def edit (e : Edit) : Action (LoadedProblem β) Unit := do
  checkAlive
  fun p =>
    let (answer, f) := p.formulation.edit e
    ⟨answer, { p with formulation := f }, []⟩

def usable (status : Document) : Except Fault Bool :=
  match status.asKey with
  | .ok key => .ok (Status.isUsable key)
  | .error e => .error (.conversion e)

def solve (runner : Runner β) : Action (LoadedProblem β) Document := do
  checkAlive
  Action.change fun p => { p with solution := none }
  let p ← Action.read
  let s ← Action.onPart LoadedProblem.backend (fun b p => { p with backend := b })
    (runner.run p.formulation)
  let keep ← Action.ofExcept (usable s.status)
  if keep then Action.change fun p => { p with solution := some s }
  if p.formulation.reports then
    let text ← Action.ofExcept ((Status.textOf s.status).mapError .conversion)
    Action.write ⟨.info, "lpsolver.engine", s!"{runner.name}: {text}"⟩
  return s.status

def currentSolution : Action (LoadedProblem β) Solution := do
  checkAlive
  let p ← Action.read
  match p.solution with
  | some s => return s
  | none => Action.fail (.engine .noSolution)

def objective : Action (LoadedProblem β) Scalar := do
  let s ← currentSolution
  Action.ofExcept (s.objective.toScalar.mapError .conversion)

def values : Action (LoadedProblem β) Tensor := do
  let s ← currentSolution
  Action.ofExcept (Tensor.ofDocument s.values)

/-- The duals of the last run; a run that gives none has zeros. -/
def duals : Action (LoadedProblem β) Tensor := do
  let s ← currentSolution
  let p ← Action.read
  if s.duals.isPresent then Action.ofExcept (Tensor.ofDocument s.duals)
  else
    return Tensor.ofScalars
      (List.replicate (1 + p.formulation.rows.length + p.formulation.columns) .zero)

/-- Releases the problem: its rows and its solution are gone. -/
def release : Action (LoadedProblem β) Unit :=
  Action.change fun p =>
    { p with formulation := p.formulation.cleared, solution := none, released := true }

end LoadedProblem

namespace Engine

variable {σ β : Type}

def ofRunner (runner : Runner β) (backend : β) : Engine (LoadedProblem β) where
  create := LoadedProblem.create backend
  edit := LoadedProblem.edit
  solve := LoadedProblem.solve runner
  scaling := do return (← Action.read).formulation.scaling
  statusText := fun d => Action.ofExcept ((Status.textOf d).mapError .conversion)
  objective := LoadedProblem.objective
  values := LoadedProblem.values
  duals := LoadedProblem.duals
  release := LoadedProblem.release

end Engine

end LinearPrograms
