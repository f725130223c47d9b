import LinearPrograms.Files.System

/-!
# Storages

A `Storage` keeps one state per name. `Storage.inMemory` keeps the encoded states in a table, and
`Storage.inFolder` in a file per name. A `Codec` encodes a state; it may fail after a part of its
output. The table is changed only after the whole state is encoded, whereas a file is opened, and
with that emptied, before the encoding begins.
-/

namespace LinearPrograms

/-- The output of an encoding, and the fault that ended it, if any. -/
structure Encoded (β : Type) where
  output : β
  fault : Option Fault := none

/-- A way to encode states and to decode them. -/
structure Codec (β : Type) where
  encode : Document → Encoded β
  decode : β → Except Fault Document

def Codec.plain : Codec Document := ⟨fun d => { output := d }, .ok⟩

/-- A place that keeps one state per name. -/
structure Storage (σ : Type) where
  save : Text → Document → Action σ Unit
  load : Text → Action σ (Option Document)
  drop : Text → Action σ Unit
  contains : Text → Action σ Bool

namespace Storage

variable {β : Type}

abbrev Table (β : Type) := List (Text × β)

namespace Table

def get? (t : Table β) (name : Text) : Option β :=
  (t.find? fun entry => entry.1 = name).map Prod.snd

def erase (t : Table β) (name : Text) : Table β := t.filter fun entry => entry.1 ≠ name

def put (t : Table β) (name : Text) (state : β) : Table β := (name, state) :: t.erase name

def names (t : Table β) : List Text := (t.map Prod.fst).mergeSort Text.le

end Table

def decoded (codec : Codec β) : Option β → Except Fault (Option Document)
  | none => .ok none
  | some state => (codec.decode state).map some

def inMemory (codec : Codec β) : Storage (Table β) where
  save name state := fun t =>
    let e := codec.encode state
    match e.fault with
    | some fault => ⟨.error fault, t, []⟩
    | none => ⟨.ok (), t.put name e.output, []⟩
  load name := fun t => ⟨decoded codec (t.get? name), t, []⟩
  drop name := Action.change fun t => t.erase name
  contains name := fun t => ⟨.ok (t.get? name).isSome, t, []⟩

def filePath (folder : Path) (name : Text) : Path :=
  folder.append (.ofText (name ++ Text.ofString ".pkl"))

/-- Opens the file for a name, which empties it, and writes the output of the encoding. -/
def saveFile (codec : Codec β) (folder : Path) (name : Text) (state : Document) :
    Action (FileSystem β) Unit := fun s =>
  let e := codec.encode state
  match s.write (filePath folder name) e.output with
  | .error fault => ⟨.error fault, s, []⟩
  | .ok written => ⟨(match e.fault with | some fault => .error fault | none => .ok ()), written, []⟩

def loadFile (codec : Codec β) (folder : Path) (name : Text) (s : FileSystem β) :
    Except Fault (Option Document) := do
  let path := filePath folder name
  if ← s.isThere path then decoded codec (some (← s.read path)) else return none

def inFolder (codec : Codec β) (folder : Path) : Storage (FileSystem β) where
  save := saveFile codec folder
  load name := fun s => ⟨loadFile codec folder name s, s, []⟩
  drop name := fun s =>
    match s.delete (filePath folder name) with
    | .ok t => ⟨.ok (), t, []⟩
    | .error fault => ⟨.error fault, s, []⟩
  contains _ := Action.fail (.knowledge .notContainer)

end Storage

end LinearPrograms
