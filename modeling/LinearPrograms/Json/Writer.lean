import LinearPrograms.Document.Basic

/-!
# Writing JSON

`Json.write` puts a document on one line and `Json.writeIndented` gives each item and field a line
of its own. Both use printable ASCII only: other characters are escaped, those beyond the first
65536 as a surrogate pair. Numbers that JSON lacks are written `NaN`, `Infinity` and `-Infinity`.
-/

namespace LinearPrograms.Json

def escapeUnit (u : Nat) : List Char := '\\' :: 'u' :: Text.hex 4 u

def stringPoint (c : Nat) : List Char :=
  if c = 0x22 || c = 0x5c then ['\\', Text.character c]
  else if c = 0x08 then ['\\', 'b']
  else if c = 0x0c then ['\\', 'f']
  else if c = 0x0a then ['\\', 'n']
  else if c = 0x0d then ['\\', 'r']
  else if c = 0x09 then ['\\', 't']
  else if 0x20 ≤ c && c < 0x7f then [Text.character c]
  else if c < 0x10000 then escapeUnit c
  else
    escapeUnit (0xd800 + (c - 0x10000) / 1024) ++ escapeUnit (0xdc00 + (c - 0x10000) % 1024)

def stringText (t : Text) : String :=
  String.ofList ('"' :: t.points.flatMap stringPoint ++ ['"'])

def scalarText : Scalar → String
  | .nan => "NaN"
  | .posInf => "Infinity"
  | .negInf => "-Infinity"
  | x => x.render

/-- How the parts of a list or object are set apart: after the opening bracket, between two parts,
and before the closing bracket, `depth` levels in. -/
structure Layout where
  opened : Nat → String
  between : Nat → String
  closed : Nat → String

def Layout.line : Layout := ⟨fun _ => "", fun _ => ", ", fun _ => ""⟩

def newLine (depth : Nat) : String := "\n" ++ "".pushn ' ' (2 * depth)

def Layout.indented : Layout :=
  ⟨fun depth => newLine (depth + 1), fun depth => "," ++ newLine (depth + 1), newLine⟩

def bracketed (layout : Layout) (depth : Nat) (left right : String) (parts : List String) :
    String :=
  if parts.isEmpty then left ++ right
  else
    left ++ layout.opened depth ++ (layout.between depth).intercalate parts ++
      layout.closed depth ++ right

mutual

/-- A document, `depth` levels in. -/
def text (layout : Layout) (depth : Nat) : Document → String
  | .null => "null"
  | .bool b => if b then "true" else "false"
  | .int i => toString i
  | .float x => scalarText x
  | .text t => stringText t
  | .list xs => bracketed layout depth "[" "]" (itemTexts layout (depth + 1) xs)
  | .object fs => bracketed layout depth "\x7b" "\x7d" (fieldTexts layout (depth + 1) fs)

def itemTexts (layout : Layout) (depth : Nat) : List Document → List String
  | [] => []
  | x :: rest => text layout depth x :: itemTexts layout depth rest

def fieldTexts (layout : Layout) (depth : Nat) : List (Text × Document) → List String
  | [] => []
  | (k, v) :: rest =>
    (stringText k ++ ": " ++ text layout depth v) :: fieldTexts layout depth rest

end

def write (d : Document) : String := text .line 0 d

def writeIndented (d : Document) : String := text .indented 0 d

end LinearPrograms.Json
