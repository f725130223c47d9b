import LinearPrograms.CommandLine.Usage
import LinearPrograms.Files.System
import LinearPrograms.Json.Writer
import LinearPrograms.Problem.File
import LinearPrograms.Report
import LinearPrograms.Settings

/-!
# Running the command line

`CommandLine.run` reads the arguments and the environment, reads the problem file, solves the
problem, and reports. It answers what was written and how the run ended: with an exit code, before
it began because of its arguments, or by a fault that nothing on the way takes care of. An option
counts before the environment, and both before the problem file.
-/

namespace LinearPrograms

namespace CommandLine

/-- Something written for the reader besides the result: a text, or an entry of the log. -/
inductive Notice where
  | text (s : String)
  | entry (e : LogEntry)

/-- How a run ends. -/
inductive Ending where
  | exit (code : Nat)
  | stopped (code : Nat)
  | escaped (fault : Fault)

/-- What a run wrote and how it ended, with the last state of the engine, if there was one. -/
structure Run (σ : Type) where
  ending : Ending
  output : String := ""
  notices : List Notice := []
  final : Option σ := none

variable {σ : Type}

def source : String := "lpsolver.main"

def shownEntries (verbose : Bool) (log : List LogEntry) : List Notice :=
  (log.filter fun e => verbose || e.severity != .debug).map .entry

def refusal (notices : List Notice) (message : String) (final : Option σ) : Run σ :=
  { ending := .exit 1, notices := notices ++ [.text (message ++ "\n")], final := final }

def combined (a : Arguments) (s : Settings) : Settings :=
  { engine := a.engine.elim s.engine .text
    scalingMode := a.scaling.elim s.scalingMode .int
    verbose := .bool (s.verbose.isTrue || a.verbose) }

def withScaling (p : Problem) (s : Settings) : Problem :=
  match s.scalingMode with
  | .int mode => { p with scalingMode := some mode }
  | _ => p

/-- The message about a solve that failed, if it is one that a run tells. -/
def failureMessage? : Fault → Option String
  | .unsolved status statusText => some s!"No solution: {statusText} (status {status})"
  | .input cause => some s!"Error: {cause.message}"
  | .unknownEngine name => some s!"Error: {(Fault.unknownEngine name).message}"
  | _ => none

def rendered (a : Arguments) (s : Settings) (p : Problem) (o : Outcome) : Except Fault String :=
  if a.json then .ok (Json.writeIndented o.toDocument ++ "\n")
  else
    ((Report.lines s.engine.shown p.objective.length p.constraints.length o).map
      Report.joined).mapError .conversion

def solveAndReport (table : List (String × Engine σ)) (a : Arguments) (s : Settings) (path : Path)
    (p : Problem) : Run σ :=
  let announced := ⟨.info, source, s!"Solving {path.lastName}: {p.render}"⟩
  let solved := p.toRequest.solve (.named table s.engine)
  let verbose := s.verbose.isTrue
  let notices := shownEntries verbose (announced :: solved.log)
  match solved.result with
  | .ok o =>
    match rendered a s p o with
    | .ok text => { ending := .exit 0, output := text, notices := notices, final := solved.final }
    | .error fault => { ending := .escaped fault, notices := notices, final := solved.final }
  | .error fault =>
    match failureMessage? fault with
    | some message => refusal notices message solved.final
    | none => { ending := .escaped fault, notices := notices, final := solved.final }

/-- Reads the problem from the contents of its file and goes on with it. -/
def readAndSolve (table : List (String × Engine σ)) (a : Arguments) (s : Settings) (path : Path)
    (octets : List Nat) : Run σ :=
  match Problem.ofFile path.toText.toString octets with
  | .ok p =>
    let parsed := shownEntries s.verbose.isTrue [Problem.parsedEntry path.toText.toString p]
    let run := solveAndReport table a s path (withScaling p s)
    { run with notices := parsed ++ run.notices }
  | .error (.format cause) => refusal [] s!"Error parsing file: {cause.message}" none
  | .error fault => { ending := .escaped fault }

/-- What stands at a path: nothing, the contents of a file, or a fault that keeps it from being
read. -/
abbrev Look := Path → Except Fault (Option (List Nat))

def runWith (table : List (String × Engine σ)) (environment : List (Text × Text)) (look : Look)
    (a : Arguments) : Run σ :=
  match Settings.ofEnvironment environment with
  | .error fault => refusal [] s!"Error: {fault.message}" none
  | .ok fromEnvironment =>
    let s := combined a fromEnvironment
    let path := Path.ofText a.problem
    match look path with
    | .error fault => { ending := .escaped fault }
    | .ok none => refusal [] s!"Error: Problem file not found: {a.problem}" none
    | .ok (some octets) => readAndSolve table a s path octets

def run (table : List (String × Engine σ)) (environment : List (Text × Text)) (look : Look)
    (texts : List Text) : Run σ :=
  match Arguments.parse texts with
  | .error .help => { ending := .stopped 0, output := Usage.help }
  | .error (.misuse cause) => { ending := .stopped 2, notices := [.text (Usage.complaint cause)] }
  | .ok a => runWith table environment look a

end CommandLine

def FileSystem.look (s : FileSystem (List Nat)) : CommandLine.Look := fun path => do
  if ← s.isThere path then return some (← s.read path) else return none

end LinearPrograms
