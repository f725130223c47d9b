import LinearPrograms.CommandLine.Run
import LinearPrograms.Engine.Exact
import Std.Time.Format

/-!
# The command

The outer layer of the command line: it reads the environment, the problem file and the clock,
leaves the run itself to `CommandLine.run` with the exact backends, and prints what that wrote.
-/

namespace LinearPrograms.Command

def environment : IO (List (Text × Text)) := do
  let read := fun (name : String) => do
    return (← IO.getEnv name).map fun value => (Text.ofString name, Text.ofString value)
  return [← read Settings.engineVariable, ← read Settings.scalingVariable].filterMap id

def folderCode : UInt32 := 21

/-- What stands at a path: a fault if it is a folder or cannot be asked for. -/
def lookAt (path : Path) : IO (Except Fault (Option (List Nat))) := do
  if path.toText.points.contains 0 then return .ok none
  try
    let octets ← IO.FS.readBinFile path.toText.toString
    return .ok (some (octets.toList.map UInt8.toNat))
  catch e =>
    match e with
    | .noFileOrDirectory .. => return .ok none
    | .inappropriateType _ code _ =>
      if code = folderCode then return .error (.file (.isDirectory path.toText)) else return .ok none
    | .invalidArgument .. => return .error (.file (.nameTooLong path.toText))
    | _ => throw e

/-- What the arguments need to have read: the problem file, if they name one. -/
def lookFor (texts : List Text) : IO CommandLine.Look := do
  match Arguments.parse texts with
  | .ok a =>
    let seen ← lookAt (Path.ofText a.problem)
    return fun _ => seen
  | .error _ => return fun _ => .ok none

/-- A notice as it is printed, an entry of the log with the current time in front. -/
def printed : CommandLine.Notice → IO String
  | .text s => return s
  | .entry e => do
    let time := (← Std.Time.PlainDateTime.now).format "uuuu-MM-dd HH:mm:ss"
    return s!"{time} - {e.source} - {e.severity.name} - {e.message}\n"

def report {σ : Type} (run : CommandLine.Run σ) : IO UInt32 := do
  IO.print run.output
  for notice in run.notices do
    IO.eprint (← printed notice)
  match run.ending with
  | .exit code | .stopped code => return code.toUInt32
  | .escaped fault =>
    IO.eprintln fault.message.toString
    return 1

end LinearPrograms.Command

open LinearPrograms in
def main (arguments : List String) : IO UInt32 := do
  let texts := arguments.map Text.ofString
  let table := Exact.backends.catalogue .nearest ()
  let run := CommandLine.run table (← Command.environment) (← Command.lookFor texts) texts
  Command.report run
