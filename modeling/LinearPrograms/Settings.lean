import LinearPrograms.Document.Number
import LinearPrograms.Text.LowerCase

/-!
# Settings

The settings of a run: the engine's name, the scaling mode of the first attempt, and whether to log
everything. They come from named values or from two environment variables; an empty variable is the
same as none.
-/

namespace LinearPrograms

/-- The engine, the scaling mode if one is set, and whether to log everything. -/
structure Settings where
  engine : Document := .ofString "highs"
  scalingMode : Document := .null
  verbose : Document := .bool false
  deriving Inhabited

namespace Settings

def engineVariable : String := "LPSOLVER_ENGINE"

def scalingVariable : String := "LPSOLVER_SCALING"

def names : List Text := ["engine", "scaling_mode", "verbose"].map Text.ofString

/-- The settings that named values set; a scaling mode becomes an integer. -/
def ofFields (fields : List (Text × Document)) : Except Fault Settings := do
  let unknown := (fields.map Prod.fst).filter fun key => !names.contains key
  if !unknown.isEmpty then throw (.settings (.unknown (unknown.mergeSort Text.le)))
  let value := fun (key : String) (standard : Document) =>
    (Document.lookup (Text.ofString key) fields).getD standard
  let mode := value "scaling_mode" .null
  let scalingMode ←
    if mode.isPresent then (mode.toInt.map Document.int).mapError .conversion else pure .null
  return {
    engine := value "engine" (.ofString "highs")
    scalingMode := scalingMode
    verbose := value "verbose" (.bool false) }

/-- A variable of the environment, unless it is empty. -/
def setting? (environment : List (Text × Text)) (name : String) : Option Text :=
  ((environment.find? fun entry => entry.1 = Text.ofString name).map Prod.snd).filter
    fun value => !value.isEmpty

def scalingOf (environment : List (Text × Text)) : Except Fault Document :=
  match setting? environment scalingVariable with
  | none => .ok .null
  | some value =>
    match Numeral.integer value with
    | .ok i => .ok (.int i)
    | .error _ => .error (.settings (.scaling scalingVariable value))

def ofEnvironment (environment : List (Text × Text)) : Except Fault Settings := do
  let engine := (setting? environment engineVariable).elim (Document.ofString "highs")
    fun name => .text name.strip.lower
  let mode ← scalingOf environment
  return { engine := engine, scalingMode := mode }

end Settings

end LinearPrograms
