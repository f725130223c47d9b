import LinearPrograms.Engine.Catalogue
import LinearPrograms.Solve

/-!
# Scripted engines

Engines and backends whose answers are written down in advance, for rehearsing what a caller does
with them. A script answers each run with its next entry; `Rehearsal` also records the models it was
handed, each before it is answered; and `Engine.failing` refuses the calls that a test picks.
-/

namespace LinearPrograms

/-- A backend with its answers in order and the models it was handed. -/
structure Rehearsal (model answer : Type) where
  answers : List answer
  calls : List model := []

namespace Rehearsal

variable {model answer : Type}

def respond (m : model) : Action (Rehearsal model answer) answer := fun r =>
  let calls := r.calls ++ [m]
  match r.answers with
  | a :: rest => ⟨.ok a, ⟨rest, calls⟩, []⟩
  | [] => ⟨.error (.engine .noRunLeft), ⟨[], calls⟩, []⟩

end Rehearsal

/-- A rehearsal for each way of handing over a model. A named model's answer may be a fault. -/
structure Desk where
  split : Rehearsal SplitModel SplitAnswer
  named : Rehearsal NamedModel (Except Fault NamedAnswer)

namespace Desk

def respondSplit (m : SplitModel) : Action Desk SplitAnswer :=
  Action.onPart Desk.split (fun r d => { d with split := r }) (Rehearsal.respond m)

def respondNamed (m : NamedModel) : Action Desk NamedAnswer := do
  let answer ← Action.onPart Desk.named (fun r d => { d with named := r }) (Rehearsal.respond m)
  Action.ofExcept answer

end Desk

def Runner.scripted : Runner (List Solution) where
  name := "ScriptedEngine"
  run := fun _ script =>
    match script with
    | s :: rest => ⟨.ok s, rest, []⟩
    | [] => ⟨.error (.engine .noRunLeft), [], []⟩

def Runner.none : Runner Unit where
  name := "MatrixEngine"
  run := fun _ => Action.fail (.engine .noBackend)

def Action.refuse {σ α : Type} (refused : Bool) (fault : Fault) (x : Action σ α) : Action σ α :=
  if refused then Action.fail fault else x

def Engine.failing {σ : Type} (picks : Event → Bool) (fault : Fault) (e : Engine σ) : Engine σ :=
  { e with
    edit := fun x => Action.refuse (picks (.edited x)) fault (e.edit x)
    solve := Action.refuse (picks .solved) fault e.solve
    release := Action.refuse (picks .released) fault e.release }

end LinearPrograms
