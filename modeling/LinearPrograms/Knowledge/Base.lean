import LinearPrograms.Knowledge.Storage

/-!
# Knowledge bases

A `KnowledgeBase` holds the model parameters and the training parameters of an algorithm, with a
flag that tells whether it is trained, and keeps them in a storage under its name. An empty value
stands for parameters that are not there. It loads only into an object without model parameters, and
saves only one with them.
-/

namespace LinearPrograms

/-- Parameters under a name. -/
structure KnowledgeBase where
  name : Text
  trained : Document := .bool false
  model : Document := .null
  training : Document := .null
  deriving Inhabited

namespace KnowledgeBase

variable {σ : Type}

def source : String := "lpsolver.knowledge_base"

def modelKey : String := "model_parameters"

def trainingKey : String := "training_parameters"

def isConfigured (k : KnowledgeBase) : Bool := k.model.isPresent && k.training.isPresent

def state (k : KnowledgeBase) : Document :=
  .object [(Text.ofString modelKey, k.model), (Text.ofString trainingKey, k.training)]

def fieldOf (state : Document) (key : String) : Except Fault Document :=
  match state with
  | .object fs =>
    (Document.lookup (Text.ofString key) fs).elim (.error (.knowledge (.missingKey key))) .ok
  | .list _ =>
    .error (.knowledge (.badSubscript "list indices must be integers or slices, not str"))
  | .text _ => .error (.knowledge (.badSubscript "string indices must be integers, not 'str'"))
  | d => .error (.knowledge (.notSubscriptable d.kindName))

/-- A knowledge base with the state of its storage. -/
structure Stored (σ : Type) where
  base : KnowledgeBase
  storage : σ

def onStorage {α : Type} (x : Action σ α) : Action (Stored σ) α :=
  Action.onPart Stored.storage (fun s k => { k with storage := s }) x

def update (f : KnowledgeBase → KnowledgeBase) : Action (Stored σ) Unit :=
  Action.change fun k => { k with base := f k.base }

def note (done : String) (name : Text) : Action (Stored σ) Unit :=
  Action.write ⟨.debug, source, s!"{done} knowledge base '{name}'"⟩

def save (storage : Storage σ) : Action (Stored σ) Unit := do
  let k ← Action.read
  if k.base.model.isPresent then
    onStorage (storage.save k.base.name k.base.state)
    note "Saved" k.base.name
  else Action.fail (.knowledge .empty)

/-- Takes over a stored state: the training parameters first, then the model parameters. -/
def adopt (state : Document) : Action (Stored σ) Unit := do
  let training ← Action.ofExcept (fieldOf state trainingKey)
  update fun k => { k with training := training }
  let model ← Action.ofExcept (fieldOf state modelKey)
  update fun k => { k with model := model, trained := .bool true }

/-- Loads the stored parameters, unless there are model parameters already. -/
def load (storage : Storage σ) : Action (Stored σ) Unit := do
  let k ← Action.read
  if k.base.model.isPresent then return
  let found ← onStorage (storage.load k.base.name)
  let state := found.getD .null
  if state.isPresent then
    adopt state
    note "Loaded" k.base.name
  else Action.fail (.knowledge .notLoadable)

def erase (storage : Storage σ) : Action (Stored σ) Unit := do
  let k ← Action.read
  onStorage (storage.drop k.base.name)
  update fun k => { k with model := .null, training := .null, trained := .bool false }

/-- Drops the parameters and begins with new ones, of which either may fail to be made. -/
def reinitialize (storage : Storage σ) (newModel newTraining : Except Fault Document) :
    Action (Stored σ) Unit := do
  erase storage
  let model ← Action.ofExcept newModel
  update fun k => { k with model := model }
  let training ← Action.ofExcept newTraining
  update fun k => { k with training := training }

def render (k : KnowledgeBase) : String :=
  "TrainableKnowledgeBase(db_name=" ++ k.name.quoted ++ s!", trained={k.trained.shown}, " ++
    s!"configured={(Document.bool k.isConfigured).quoted})"

end KnowledgeBase

end LinearPrograms
