import LinearPrograms.Action
import LinearPrograms.Json.Reader
import LinearPrograms.Problem.Reading
import LinearPrograms.Text.Utf8

/-!
# Problem files

A problem file holds a problem document as JSON in UTF-8, with line ends of any kind.
-/

namespace LinearPrograms.Problem

def source : String := "lpsolver.parser"

def contents (octets : List Nat) : Except Fault (List Nat) :=
  match Utf8.decode octets with
  | .ok points => .ok (Utf8.unifyLines points)
  | .error flaw =>
    .error (.file (.undecodable flaw.octet flaw.first flaw.last flaw.reason))

def jsonFault (path : String) (points : List Nat) : Json.Flaw → Fault
  | .malformed problem offset =>
    let (line, column) := Json.position points offset
    .format (.json path problem line column offset)
  | .tooManyDigits count => .conversion (.tooManyDigits count)
  | .tooNested kind => .tooNested kind

def document (path : String) (octets : List Nat) : Except Fault Document := do
  let points ← contents octets
  (Json.read points).mapError (jsonFault path points)

/-- The problem that a file describes; `path` is its name in messages. -/
def ofFile (path : String) (octets : List Nat) : Except Fault Problem := do
  ofDocument (← document path octets)

def parsedEntry (path : String) (p : Problem) : LogEntry :=
  ⟨.debug, source, s!"Parsed {path}: {p.render}"⟩

end LinearPrograms.Problem
