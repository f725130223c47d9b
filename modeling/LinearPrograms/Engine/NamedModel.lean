import LinearPrograms.Engine.Basic

/-!
# Named models

A `NamedModel` is a formulation as a problem over named columns `C1, C2, …` with named rows
`R1, R2, …`, in the formulation's own sense and with its relations. The answer gives values to the
columns and sensitivities to rows and columns in that order. A column without a value stands at its
lower bound, or at zero if it has none.
-/

namespace LinearPrograms

/-- A column with its name, its bounds and whether it takes integers only. -/
structure NamedColumn where
  name : String
  lower : Option Scalar
  upper : Option Scalar
  integer : Bool
  deriving DecidableEq, Inhabited

/-- A row with its name, its coefficients by column name, its relation and right-hand side. -/
structure NamedRow where
  name : String
  terms : List (String × Scalar)
  relation : Relation
  rhs : Scalar
  deriving DecidableEq, Inhabited

/-- A problem over named columns, with the options that its run takes. -/
structure NamedModel where
  maximize : Bool
  columns : List NamedColumn
  objective : List (String × Scalar)
  rows : List NamedRow
  display : Bool
  options : List String
  deriving DecidableEq, Inhabited

/-- What a run of a named model came to. -/
inductive NamedStatus where
  | optimal
  | notSolved
  | infeasible
  | unbounded
  | undefined
  deriving DecidableEq, Inhabited

/-- The answer to a named model; a value or sensitivity that is missing was not given. -/
structure NamedAnswer where
  status : NamedStatus
  integerFeasible : Bool := false
  values : List Document := []
  rowDuals : List Document := []
  columnDuals : List Document := []
  deriving Inhabited

namespace NamedStatus

def all : List NamedStatus := [optimal, notSolved, infeasible, unbounded, undefined]

def code : NamedStatus → Int
  | optimal => 1
  | notSolved => 0
  | infeasible => -1
  | unbounded => -2
  | undefined => -3

def name : NamedStatus → String
  | optimal => "Optimal"
  | notSolved => "Not Solved"
  | infeasible => "Infeasible"
  | unbounded => "Unbounded"
  | undefined => "Undefined"

def ofCode? (code : Document) : Option NamedStatus := all.find? fun s => code.isInteger s.code

end NamedStatus

namespace NamedAnswer

/-- The codes that say what is known of a point: nothing, optimal, feasible, infeasible, unbounded.
-/
def pointCodes : List Int := [0, 1, 2, -1, -2]

/-- The code that says that a point is known to be feasible only. -/
def feasibleCode : Int := 2

/-- The values of a list; an empty value is a list without any. -/
def listed : Document → List Document
  | .list ds => ds
  | _ => []

/-- The answer that a backend reports in its codes; unknown codes are refused. What is known of the
point may be left out. -/
def ofReport (status point values rowDuals columnDuals : Document) : Except Fault NamedAnswer :=
  match NamedStatus.ofCode? status with
  | none => .error (.backend .statusRefused)
  | some s =>
    if point.isPresent && !pointCodes.any (fun c => point.isInteger c) then
      .error (.backend .statusRefused)
    else
      .ok {
        status := s
        integerFeasible := point.isInteger feasibleCode
        values := listed values
        rowDuals := listed rowDuals
        columnDuals := listed columnDuals }

end NamedAnswer

namespace NamedModel

def source : String := "lpsolver.cbc_engine"

/-- The keyword of a scaling mode, whose base is in its three lowest bits and whose bit 8 asks for
dynamic updates; a mode without keyword leaves the choice to the backend. -/
def scalingKeyword? (mode : Int) : Option String :=
  let base := mode % 8
  if base = 0 then some "off"
  else if (mode / 256) % 2 = 1 then some "dynamic"
  else if base = 4 then some "geometric"
  else if base = 7 then some "automatic"
  else if base < 4 then some "equilibrium"
  else none

def scalingKeywordOf (mode : Document) : Except ConversionFault (Option String) :=
  match mode with
  | .bool b => .ok (scalingKeyword? (if b then 1 else 0))
  | .int i => .ok (scalingKeyword? i)
  | d => .error (.noBits "&" d.kindName "int")

def scalingOptions (mode : Int) : List String :=
  match scalingKeyword? mode with
  | some keyword => ["scaling " ++ keyword]
  | none => []

def columnName (j : Nat) : String := s!"C{j + 1}"

def rowName (i : Nat) : String := s!"R{i + 1}"

def terms (coefficients : List Scalar) : List (String × Scalar) :=
  coefficients.mapIdx fun j c => (columnName j, c)

def bound? (x : Scalar) : Option Scalar := if x.isFinite then some x else none

def columnsOf (f : Formulation) : List NamedColumn :=
  (f.lower.zip (f.upper.zip f.integer)).mapIdx fun j c =>
    ⟨columnName j, bound? c.1, bound? c.2.1, c.2.2⟩

def rowOf (f : Formulation) (i : Nat) (row : List Scalar × Relation) : Except Fault NamedRow :=
  match f.rhs[i]? with
  | some b => .ok ⟨rowName i, terms row.1, row.2, b.plusZero⟩
  | none => .error (.shape (.outOfAxis i f.rhs.length))

def ofFormulation (f : Formulation) : Except Fault NamedModel := do
  let rows ← (f.rows.zip f.relations).zipIdx.mapM fun p => rowOf f p.2 p.1
  return {
    maximize := f.maximize
    columns := columnsOf f
    objective := terms f.objective
    rows := rows
    display := f.reports
    options := scalingOptions f.scaling }

def announcement (f : Formulation) (m : NamedModel) : LogEntry :=
  let options := Document.list (m.options.map Document.ofString)
  ⟨.debug, source,
    s!"CBC run: {f.columns} columns, {f.rows.length} rows, options={options.quoted}"⟩

/-- The status code of a run; `integerFeasible` says that its point is known to be feasible only. -/
def statusOf (status : Option NamedStatus) (integerFeasible : Bool) : Int :=
  match status with
  | some .optimal => if integerFeasible then Status.suboptimal else Status.optimal
  | some .infeasible => Status.infeasible
  | some .unbounded => Status.unbounded
  | some .notSolved => Status.notRun
  | _ => Status.numericalFailure

/-- The value of a column: the one that was given, or else its lower bound, or else zero. -/
def valueOf (lower : Scalar) (given : Document) : Except ConversionFault Scalar :=
  if given.isPresent then given.toScalar
  else .ok (if lower.isFinite then lower else .zero)

def dualOf (given : Document) : Except ConversionFault Scalar :=
  if given.isPresent then given.toScalar else .ok .zero

/-- The first `n` values, the empty value for each that is missing. -/
def firstOf (n : Nat) (ds : List Document) : List Document :=
  (ds ++ List.replicate n Document.null).take n

/-- The duals that an answer gives to a formulation: a zero, one dual per row and one per column. -/
def duals (f : Formulation) (a : NamedAnswer) : Except ConversionFault (List Scalar) := do
  if f.hasInteger then return List.replicate (1 + f.rows.length + f.columns) .zero
  let rows ← (firstOf f.rows.length a.rowDuals).mapM dualOf
  let columns ← (firstOf f.columns a.columnDuals).mapM dualOf
  return .zero :: rows ++ columns

def solution (round : Rounding) (f : Formulation) (a : NamedAnswer) : Action β Solution := do
  let status := statusOf (some a.status) a.integerFeasible
  if status != Status.optimal && status != Status.suboptimal then
    Action.write ⟨.debug, source, s!"CBC finished with status {a.status.name}"⟩
    return { status := .int status }
  let given := firstOf f.columns a.values
  let point ← Action.ofExcept
    (((f.lower.zip given).mapM fun p => valueOf p.1 p.2).mapError .conversion)
  let ds ← Action.ofExcept ((duals f a).mapError .conversion)
  return {
    status := .int status
    objective := .float (Scalar.dot round f.objective point)
    values := .ofScalars point
    duals := .ofScalars ds }

def runner (round : Rounding) (backend : NamedModel → Action β NamedAnswer) : Runner β where
  name := "CbcEngine"
  run := fun f => do
    let m ← Action.ofExcept (ofFormulation f)
    Action.write (announcement f m)
    let a ← backend m
    solution round f a

end NamedModel

end LinearPrograms
