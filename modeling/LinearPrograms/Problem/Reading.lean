import LinearPrograms.Problem.Basic

/-!
# Reading problem documents

A problem document is an object with the fields `objective`, `constraints`, `lower_bounds`,
`upper_bounds`, `integer` and `scaling_mode`; all but the first may be missing or empty, and any
other field is ignored. `Problem.ofDocument` reads the fields in a fixed order, and the first one
that is refused decides the fault.
-/

namespace LinearPrograms.Problem

/-- The scalars of a list; a value that is no number is the fault of the whole field. -/
def scalars (key : String) (items : List Document) : Except Fault (List Scalar) :=
  match Document.toScalars items with
  | .ok xs => .ok xs
  | .error e => .error (if e.isOverflow then .conversion e else .format (.notNumbers key))

def optionalScalars (data : Document) (key : String) : Except Fault (Option (List Scalar)) :=
  match data.fieldOrNull key with
  | .null => .ok none
  | .list items => (scalars key items).map some
  | _ => .error (.format (.notList key))

def requiredScalars (data : Document) (key : String) : Except Fault (List Scalar) := do
  match ← optionalScalars data key with
  | some xs => return xs
  | none => throw (.format (.missing key))

def missingKeys (entry : Document) : List String :=
  ["body", "relation", "rhs"].filter fun key => (entry.field? key).isNone

def rightHandSide (index : Nat) (value : Document) : Except Fault Scalar :=
  match value.toScalar with
  | .ok x => .ok x
  | .error e => .error (if e.isOverflow then .conversion e else .format (.constraintRhs index))

def relationOf (index : Nat) (value : Document) : Except Fault Relation :=
  match Relation.parse value with
  | .ok r => .ok r
  | .error (.input (.unknownRelation d)) => .error (.format (.constraintRelation index d))
  | .error (.conversion e) =>
    .error (if e.isOverflow then .conversion e else .format (.constraintRhs index))
  | .error e => .error e

def constraintOf (index : Nat) (entry : Document) : Except Fault Constraint :=
  match entry with
  | .object _ => do
    let missing := missingKeys entry
    if !missing.isEmpty then throw (.format (.constraintMissing index missing))
    let body ← requiredScalars entry "body"
    let rhs ← rightHandSide index (entry.fieldOrNull "rhs")
    let r ← relationOf index (entry.fieldOrNull "relation")
    return ⟨body, r, rhs⟩
  | _ => .error (.format (.constraintNotObject index))

/-- The constraints of the document; there are none if the field is missing. -/
def constraintsOf (data : Document) : Except Fault (List Constraint) :=
  match data.fieldOrNull "constraints" with
  | .null => .ok []
  | .list entries => entries.zipIdx.mapM fun p => constraintOf p.2 p.1
  | _ => .error (.format (.notList "constraints"))

def flag? : Document → Option Bool
  | .bool b => some b
  | _ => none

def flagsOf (data : Document) : Except Fault (Option (List Bool)) :=
  match data.fieldOrNull "integer" with
  | .null => .ok none
  | .list items => (items.mapM flag?).elim (.error (.format .integerFlags)) fun bs => .ok (some bs)
  | _ => .error (.format .integerFlags)

def scalingOf (data : Document) : Except Fault (Option Int) :=
  match data.fieldOrNull "scaling_mode" with
  | .null => .ok none
  | .int i => .ok (some i)
  | _ => .error (.format .scalingMode)

def ofDocument (data : Document) : Except Fault Problem :=
  match data with
  | .object _ => do
    let objective ← requiredScalars data "objective"
    if objective.isEmpty then throw (.format .emptyObjective)
    let rows ← constraintsOf data
    let flags ← flagsOf data
    let mode ← scalingOf data
    let lower ← optionalScalars data "lower_bounds"
    let upper ← optionalScalars data "upper_bounds"
    return ⟨objective, rows, lower, upper, flags, mode⟩
  | _ => .error (.format .notObject)

end LinearPrograms.Problem
