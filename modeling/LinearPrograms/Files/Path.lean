import LinearPrograms.Text.Basic

/-!
# Paths

A `Path` is a root, if it has one, and the names on the way. Empty names and single dots are dropped
when a path is read; double dots stay, since what they mean depends on the files.
-/

namespace LinearPrograms

/-- The names on the way to a file, from the root or from the current folder. -/
structure Path where
  root : Text
  names : List Text
  deriving DecidableEq, Inhabited

namespace Path

/-- The code point between two names. -/
def separator : Nat := 0x2f

def dot : Text := ⟨[0x2e]⟩

def dots : Text := ⟨[0x2e, 0x2e]⟩

/-- The runs of code points between separators; `current` is the run so far, last one first. -/
def segments (current : List Nat) : List Nat → List Text
  | [] => [⟨current.reverse⟩]
  | c :: rest =>
    if c = separator then ⟨current.reverse⟩ :: segments [] rest else segments (c :: current) rest

/-- The root of a written path; exactly two separators in front are a root of their own. -/
def rootOf (t : Text) : Text :=
  match t.points.takeWhile (· == separator) with
  | [] => ⟨[]⟩
  | [_, _] => ⟨[separator, separator]⟩
  | _ => ⟨[separator]⟩

def ofText (t : Text) : Path :=
  ⟨rootOf t, (segments [] t.points).filter fun name => !name.isEmpty && name != dot⟩

/-- A path that starts where another one ends, unless it has a root. -/
def append (p q : Path) : Path := if q.root.isEmpty then ⟨p.root, p.names ++ q.names⟩ else q

def toText (p : Path) : Text :=
  if p.root.isEmpty && p.names.isEmpty then dot else p.root ++ Text.join "/" p.names

def lastName (p : Path) : Text := p.names.getLastD ⟨[]⟩

end Path

end LinearPrograms
