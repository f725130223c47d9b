import LinearPrograms.Constraint
import LinearPrograms.Engine.Basic
import LinearPrograms.Outcome

/-!
# Solving a problem

`Request.solve` hands a maximization problem to an engine: it checks the shapes, creates one
problem, formulates it column by column and row by row, runs it, and runs it once more with scaling
turned off if the first run leaves no solution. The engine's problem is released in any case, and
last. An array of bounds or flags counts only if it has one entry per variable.
-/

namespace LinearPrograms

/-- A call that an engine receives, as a record of a session lists it. -/
inductive Event where
  | created (rows columns : Int)
  | edited (edit : Edit)
  | solved
  | released
  deriving Inhabited

/-- What a call is answered with: a run with a status, other calls with nothing. -/
abbrev Event.Answer : Event → Type
  | solved => Document
  | _ => Unit

/-- What an engine does at a call; a problem that is created is not there yet. -/
def Engine.answer {σ : Type} (engine : Engine σ) : (event : Event) → Action σ event.Answer
  | .created _ _ => Action.give ()
  | .edited edit => engine.edit edit
  | .solved => engine.solve
  | .released => engine.release

/-- An entry of a list of constraints, which may be something else. -/
inductive Entry where
  | constraint (c : Constraint)
  | other (d : Document)
  deriving Inhabited

/-- A maximization problem as the caller hands it over. An empty value stands for a missing array or
scaling mode. -/
structure Request where
  objective : Document
  constraints : List Entry
  lowerBounds : Document := .null
  upperBounds : Document := .null
  integerVariables : Document := .null
  scalingMode : Document := .null
  deriving Inhabited

/-- The engine of a solve: a name in a table, or an engine itself. -/
inductive EngineChoice (σ : Type) where
  | named (table : List (String × Engine σ)) (name : Document)
  | given (engine : Engine σ)

def EngineChoice.resolve {σ : Type} : EngineChoice σ → Except Fault (Engine σ)
  | given engine => .ok engine
  | named table name =>
    match name.asKey with
    | .error e => .error (.conversion e)
    | .ok (.text t) =>
      match table.find? fun entry => Text.ofString entry.1 = t with
      | some entry => .ok entry.2
      | none => .error (.unknownEngine name)
    | .ok _ => .error (.unknownEngine name)

/-- An engine's state with the record of the calls it received. -/
structure Session (σ : Type) where
  state : σ
  events : List Event

/-- What a solve leaves: a result or a fault, the calls that the engine received and its last state,
if there was one, and the log. -/
structure Solved (σ : Type) where
  result : Except Fault Outcome
  events : List Event := []
  final : Option σ := none
  log : List LogEntry := []

namespace Session

variable {σ α : Type}

def ask (x : Action σ α) : Action (Session σ) α :=
  Action.onPart Session.state (fun state s => { s with state := state }) x

/-- The call is recorded, and the engine answers it. -/
def call (engine : Engine σ) (event : Event) : Action (Session σ) event.Answer := do
  Action.change fun s => { s with events := s.events ++ [event] }
  ask (engine.answer event)

def edit (engine : Engine σ) (e : Edit) : Action (Session σ) Unit := call engine (.edited e)

end Session

namespace Request

variable {σ : Type}

def source : String := "lpsolver.solver"

def checkEntry (n : Nat) (entry : Entry × Nat) : Except Fault Constraint :=
  match entry with
  | (.other d, i) => .error (.input (.notConstraint i d.kindName))
  | (.constraint c, i) =>
    if c.body.length = n then .ok c else .error (.input (.bodyLength i c.body.length n))

def check (r : Request) : Except Fault (Nat × List Constraint) := do
  let n ← r.objective.length.mapError .conversion
  if n = 0 then throw (.input .emptyObjective)
  let constraints ← r.constraints.zipIdx.mapM (checkEntry n)
  return (n, constraints)

/-- A row of coefficients as an engine takes it, with an entry in front. -/
def paddedRow (d : Document) : Except Fault Document := do
  let t ← Tensor.ofDocument d
  let row ← t.padded.mapError .shape
  return .ofScalars row

def hasLength (d : Document) (n : Nat) : Except Fault Bool :=
  if d.isPresent then (d.length.map (· == n)).mapError .conversion else .ok false

def part (d : Document) (i : Nat) : Except Fault Document :=
  match d with
  | .text t => (t.pieces[i]?).elim (.error (.missingPosition i)) fun p => .ok (.text p)
  | .list xs => (xs[i]?).elim (.error (.missingPosition i)) .ok
  | _ => .error (.missingPosition i)

/-- The log entry on an array that is ignored. -/
def ignored (name : String) (length n : Nat) : LogEntry :=
  ⟨.debug, source, s!"Ignoring {name}: {length} entries for {n} variables"⟩

def noteLength (name : String) (d : Document) (n : Nat) : Action σ Unit :=
  if d.isPresent then do
    let length ← Action.ofExcept (d.length.mapError .conversion)
    if length ≠ n then Action.write (ignored name length n)
  else Action.give ()

/-- An edit for each position from `i` on, with the part of the value there. -/
def editEach (engine : Engine σ) (d : Document) (toEdit : Document → Document → Edit) :
    (count i : Nat) → Action (Session σ) Unit
  | 0, _ => Action.give ()
  | count + 1, i => do
    let value ← Action.ofExcept (part d i)
    Session.edit engine (toEdit (.int (i + 1)) value)
    editEach engine d toEdit count (i + 1)

def editColumns (engine : Engine σ) (d : Document) (n : Nat)
    (toEdit : Document → Document → Edit) : Action (Session σ) Unit := do
  let counts ← Action.ofExcept (hasLength d n)
  if counts then editEach engine d toEdit n 0

def integerEdit (column value : Document) : Edit := .integer column (.bool value.isTrue)

def addRow (engine : Engine σ) (c : Constraint) : Action (Session σ) Unit := do
  let row ← Action.ofExcept (paddedRow (.ofScalars c.body))
  Session.edit engine (.constraint row (.int c.relation.code) (.float c.rhs))

def addRows (engine : Engine σ) : List Constraint → Action (Session σ) Unit
  | [] => Action.give ()
  | c :: rest => do
    addRow engine c
    addRows engine rest

/-- Formulates the problem: sense, objective, scaling, bounds, flags, rows. -/
def formulate (engine : Engine σ) (r : Request) (n : Nat) (constraints : List Constraint) :
    Action (Session σ) Unit := do
  Session.edit engine (.verbosity (.int 0))
  Session.edit engine .maximize
  let row ← Action.ofExcept (paddedRow r.objective)
  Session.edit engine (.objective row)
  if r.scalingMode.isPresent then Session.edit engine (.scaling r.scalingMode)
  noteLength "lower_bounds" r.lowerBounds n
  noteLength "upper_bounds" r.upperBounds n
  noteLength "integer_variables" r.integerVariables n
  editColumns engine r.lowerBounds n .lower
  editColumns engine r.upperBounds n .upper
  editColumns engine r.integerVariables n integerEdit
  addRows engine constraints
  let scaling ← Session.ask engine.scaling
  Action.write ⟨.debug, source,
    s!"Formulated LP: {n} variables, {constraints.length} constraints, scaling={scaling}"⟩

/-- Runs the engine: the status code of the run. -/
def attempt (engine : Engine σ) : Action (Session σ) Int := do
  let status ← Session.call engine .solved
  Action.ofExcept (status.toInt.mapError .conversion)

/-- Runs the engine, and again without scaling if the first run leaves no solution. -/
def run (engine : Engine σ) : Action (Session σ) StatusKind := do
  let first ← attempt engine
  if (StatusKind.ofCode first).usable then return .ofCode first
  let text ← Session.ask (engine.statusText (.int first))
  Action.write ⟨.warning, source,
    s!"Solve failed with status {first} ({text}), retrying without scaling"⟩
  Session.edit engine (.scaling (.int 0))
  let second ← attempt engine
  if (StatusKind.ofCode second).usable then return .ofCode second
  let text ← Session.ask (engine.statusText (.int second))
  Action.write ⟨.error, source, s!"Solve failed again with status {second} ({text})"⟩
  Action.fail (.unsolved second text.toString)

/-- The engine's answer as an outcome with `n` variables and `m` constraints. -/
def collect (engine : Engine σ) (n m : Nat) : Action (Session σ) Outcome := do
  let objective ← Session.ask engine.objective
  let point ← Session.ask engine.values
  let values ← Action.ofExcept ((point.spread n).mapError .shape)
  let sensitivities ← Session.ask engine.duals
  let duals ← Action.ofExcept ((sensitivities.spread (n + m + 1)).mapError .shape)
  return ⟨values, duals, .float objective⟩

def session (engine : Engine σ) (r : Request) (n : Nat) (constraints : List Constraint) :
    Action (Session σ) (StatusKind × Outcome) := do
  formulate engine r n constraints
  let kind ← run engine
  let outcome ← collect engine n constraints.length
  return (kind, outcome)

def solvedEntry (kind : StatusKind) (o : Outcome) : LogEntry :=
  ⟨.debug, source, s!"Solved LP ({kind.name}): objective={o.objective.shown}"⟩

/-- The session on a problem that was created, with its release at the end. -/
def drive (engine : Engine σ) (r : Request) (n : Nat) (constraints : List Constraint) :
    Action (Session σ) Outcome := do
  let (kind, outcome) ← Action.finallyDo (session engine r n constraints)
    (Session.call engine .released)
  Action.write (solvedEntry kind outcome)
  return outcome

def solve (r : Request) (choice : EngineChoice σ) : Solved σ :=
  match r.check with
  | .error e => { result := .error e }
  | .ok (n, constraints) =>
    match choice.resolve with
    | .error e => { result := .error e }
    | .ok engine =>
      let created := Event.created 0 n
      match engine.create 0 n with
      | .error e => { result := .error e, events := [created] }
      | .ok state =>
        let reply := drive engine r n constraints ⟨state, [created]⟩
        { result := reply.result
          events := reply.state.events
          final := some reply.state.state
          log := reply.log }

end Request

end LinearPrograms
