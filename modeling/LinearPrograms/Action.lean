import LinearPrograms.Fault

/-!
# Actions

An `Action σ α` works on a state of type `σ`. Its reply is a result or a fault, the state it leaves
behind, which a fault does not undo, and the entries it adds to the log. Nothing reads the log.
-/

namespace LinearPrograms

/-- How much an entry of the log matters. -/
inductive Severity where
  | debug
  | info
  | warning
  | error
  deriving DecidableEq, Inhabited

def Severity.name : Severity → String
  | debug => "DEBUG"
  | info => "INFO"
  | warning => "WARNING"
  | error => "ERROR"

/-- An entry of the log: its severity, the part of the program it comes from, and its text. -/
structure LogEntry where
  severity : Severity
  source : String
  message : String
  deriving DecidableEq, Inhabited

/-- What an action answers: a result or a fault, the state left behind, and entries of the log. -/
structure Reply (σ α : Type) where
  result : Except Fault α
  state : σ
  log : List LogEntry

def Action (σ α : Type) : Type := σ → Reply σ α

namespace Action

variable {σ τ α β : Type}

def give (a : α) : Action σ α := fun s => ⟨.ok a, s, []⟩

/-- The second action on the result and the state of the first, unless the first fails. -/
def andThen (x : Action σ α) (f : α → Action σ β) : Action σ β := fun s =>
  match x s with
  | ⟨.ok a, t, log⟩ => let r := f a t; ⟨r.result, r.state, log ++ r.log⟩
  | ⟨.error e, t, log⟩ => ⟨.error e, t, log⟩

instance : Monad (Action σ) where
  pure := give
  bind := andThen

def fail (e : Fault) : Action σ α := fun s => ⟨.error e, s, []⟩

def ofExcept (x : Except Fault α) : Action σ α := fun s => ⟨x, s, []⟩

def read : Action σ σ := fun s => ⟨.ok s, s, []⟩

def change (f : σ → σ) : Action σ Unit := fun s => ⟨.ok (), f s, []⟩

def write (entry : LogEntry) : Action σ Unit := fun s => ⟨.ok (), s, [entry]⟩

def onPart (get : τ → σ) (put : σ → τ → τ) (x : Action σ α) : Action τ α := fun t =>
  let r := x (get t)
  ⟨r.result, put r.state t, r.log⟩

/-- The first action, and after it, whether it failed or not, the second, whose fault counts. -/
def finallyDo (x : Action σ α) (last : Action σ Unit) : Action σ α := fun s =>
  let r := x s
  let l := last r.state
  ⟨(match l.result with | .ok _ => r.result | .error e => .error e), l.state, r.log ++ l.log⟩

/-- A result is passed on, together with the state and the log so far. -/
theorem bind_eq_of_ok {x : Action σ α} {f : α → Action σ β} {s t : σ} {a : α}
    {log : List LogEntry} (h : x s = ⟨.ok a, t, log⟩) :
    (x >>= f) s = ⟨(f a t).result, (f a t).state, log ++ (f a t).log⟩ := by
  simp only [bind, andThen, h]

theorem bind_eq_of_error {x : Action σ α} {f : α → Action σ β} {s t : σ} {e : Fault}
    {log : List LogEntry} (h : x s = ⟨.error e, t, log⟩) :
    (x >>= f) s = ⟨.error e, t, log⟩ := by
  simp only [bind, andThen, h]

instance : LawfulMonad (Action σ) :=
  LawfulMonad.mk' (Action σ)
    (fun x => by
      funext s
      rcases h : x s with ⟨a | e, t, log⟩ <;>
        simp [Functor.map, andThen, give, h])
    (fun a f => by
      funext s
      rcases h : f a s with ⟨r, t, log⟩
      simp [pure, bind, andThen, give, h])
    (fun x f g => by
      funext s
      rcases h : x s with ⟨e | a, t, log⟩
      · simp [bind, andThen, h]
      · rcases h' : f a t with ⟨e | b, u, log'⟩ <;> simp [bind, andThen, h, h'])

end Action

end LinearPrograms
