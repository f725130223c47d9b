import LinearPrograms.Action
import LinearPrograms.Files.Name
import LinearPrograms.Files.Path

/-!
# File systems

A `FileSystem` knows the nodes by the names that lead to them from the root: folders, and files with
their contents. A path must stand for octets, without the octet zero. It is followed name by name:
each name but the last must lead to a folder, two dots lead to the folder above, and a name has a
greatest length in octets. `FileSystem.locate` says where a path leads, or why it leads nowhere.
-/

namespace LinearPrograms

/-- What stands at a place: a folder, or a file with its contents. -/
inductive Node (α : Type) where
  | folder
  | file (contents : α)
  deriving DecidableEq, Inhabited

/-- The nodes by place, and the place of the current folder. The root is a folder without being
listed. -/
structure FileSystem (α : Type) where
  nodes : List (List Text × Node α)
  here : List Text
  deriving Inhabited

/-- Why a path leads nowhere. -/
inductive PathFlaw where
  | missing
  | notFolder
  | nameTooLong
  | nullByte
  | unencodable (point first last : Nat)
  deriving DecidableEq, Inhabited

namespace FileSystem

variable {α : Type}

/-- The greatest number of octets of a name. -/
def nameLimit : Nat := 255

/-- The number of octets from which on a path is too long. -/
def pathLimit : Nat := 4096

/-- What is wrong with a path as it is written, wherever it may lead. -/
def spellingFlaw? (t : Text) : Option PathFlaw :=
  match FileName.unencodable? 0 t.points with
  | some (point, first, last) => some (.unencodable point first last)
  | none =>
    if t.points.contains 0 then some .nullByte
    else if pathLimit ≤ (FileName.octets t).length then some .nameTooLong
    else none

def empty (here : List Text) : FileSystem α :=
  ⟨(List.range here.length).map fun i => (here.take (i + 1), .folder), here⟩

def node? (s : FileSystem α) (place : List Text) : Option (Node α) :=
  if place.isEmpty then some .folder
  else (s.nodes.find? fun entry => entry.1 = place).map Prod.snd

def put (s : FileSystem α) (place : List Text) (n : Node α) : FileSystem α :=
  { s with nodes := (place, n) :: s.nodes.filter fun entry => entry.1 ≠ place }

def remove (s : FileSystem α) (place : List Text) : FileSystem α :=
  { s with nodes := s.nodes.filter fun entry => entry.1 ≠ place }

def namesIn (s : FileSystem α) (place : List Text) : List Text :=
  s.nodes.filterMap fun entry =>
    if entry.1.dropLast = place then entry.1.getLast? else none

def follow (s : FileSystem α) : (place : List Text) → List Text → Except PathFlaw (List Text)
  | place, [] => .ok place
  | place, name :: rest =>
    match s.node? place with
    | none => .error .missing
    | some (.file _) => .error .notFolder
    | some .folder =>
      if name = Path.dots then s.follow place.dropLast rest
      else if nameLimit < (FileName.octets name).length then .error .nameTooLong
      else s.follow (place ++ [FileName.settled name]) rest

/-- The place that a path leads to; nothing need stand there. -/
def locate (s : FileSystem α) (p : Path) : Except PathFlaw (List Text) :=
  match spellingFlaw? p.toText with
  | some flaw => .error flaw
  | none => s.follow (if p.root.isEmpty then s.here else []) p.names

def fault (p : Path) : PathFlaw → Fault
  | .missing => .file (.notFound p.toText)
  | .notFolder => .file (.notDirectory p.toText)
  | .nameTooLong => .file (.nameTooLong p.toText)
  | .nullByte => .file .nullByte
  | .unencodable point first last => .file (.unencodable point first last)

/-- Does something stand at the end of a path? A path that leads nowhere has nothing there, unless
one of its names is too long to ask. -/
def isThere (s : FileSystem α) (p : Path) : Except Fault Bool :=
  match s.locate p with
  | .ok place => .ok (s.node? place).isSome
  | .error .nameTooLong => .error (fault p .nameTooLong)
  | .error _ => .ok false

def read (s : FileSystem α) (p : Path) : Except Fault α :=
  match s.locate p with
  | .error flaw => .error (fault p flaw)
  | .ok place =>
    match s.node? place with
    | some (.file contents) => .ok contents
    | some .folder => .error (.file (.isDirectory p.toText))
    | none => .error (fault p .missing)

/-- The place of a file to be written at the end of a path, whose folder must be there. -/
def target (s : FileSystem α) (p : Path) : Except Fault (List Text) :=
  match s.locate p with
  | .error flaw => .error (fault p flaw)
  | .ok place =>
    match s.node? place with
    | some .folder => .error (.file (.isDirectory p.toText))
    | _ => .ok place

def write (s : FileSystem α) (p : Path) (contents : α) : Except Fault (FileSystem α) :=
  (s.target p).map fun place => s.put place (.file contents)

/-- Deletes a file; one that is not there is as good as deleted. -/
def delete (s : FileSystem α) (p : Path) : Except Fault (FileSystem α) :=
  match s.locate p with
  | .error .missing => .ok s
  | .error flaw => .error (fault p flaw)
  | .ok place =>
    match s.node? place with
    | some .folder => .error (.file (.isDirectory p.toText))
    | some (.file _) => .ok (s.remove place)
    | none => .ok s

def makeFrom (p : Path) (s : FileSystem α) :
    (place : List Text) → List Text → Except Fault (FileSystem α)
  | _, [] => .ok s
  | place, name :: rest =>
    if name = Path.dots then makeFrom p s place.dropLast rest
    else
      let next := place ++ [FileName.settled name]
      match s.node? next with
      | some .folder => makeFrom p s next rest
      | some (.file _) =>
        .error (.file (if rest.isEmpty then .alreadyThere p.toText else .notDirectory p.toText))
      | none => makeFrom p (s.put next .folder) next rest

/-- Makes a folder and the folders above it; one that is there stays. -/
def makeFolder (s : FileSystem α) (p : Path) : Except Fault (FileSystem α) :=
  match spellingFlaw? p.toText with
  | some flaw => .error (fault p flaw)
  | none => makeFrom p s (if p.root.isEmpty then s.here else []) p.names

end FileSystem

end LinearPrograms
