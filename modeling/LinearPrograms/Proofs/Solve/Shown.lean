import LinearPrograms.CommandLine.Run
import LinearPrograms.Engine.Catalogue
import Mathlib.Data.List.Forall2

/-!
# Engines that keep more than they show

The state of an engine may hold more than that of another one, such as notes, and they may do the
same otherwise. `Action.Shows view x y` says so of two actions: the second does on the view of a
state what the first does on the state. It is kept by putting actions one after the other, so it
passes from the methods of two engines (`Engine.Shows`) to the steps of a solve, and to a whole run of
the command line, which ends alike and writes the same with either of them (`CommandLine.run_shown`).
-/

namespace LinearPrograms

/-! ## Actions -/

namespace Action

variable {σ τ α β : Type} {view : τ → σ} {x : Action τ α} {y : Action σ α}

/-- The second action does on the view of a state what the first does on the state. -/
def Shows (view : τ → σ) (x : Action τ α) (y : Action σ α) : Prop :=
  ∀ t, y (view t) = ⟨(x t).result, view (x t).state, (x t).log⟩

theorem Shows.bind {f : α → Action τ β} {g : α → Action σ β} (hx : Shows view x y)
    (hf : ∀ a, Shows view (f a) (g a)) : Shows view (x >>= f) (y >>= g) := by
  intro t
  have hy := hx t
  rcases hxt : x t with ⟨r, u, log⟩
  rw [hxt] at hy
  cases r with
  | error e => rw [bind_eq_of_error hxt, bind_eq_of_error hy]
  | ok a => rw [bind_eq_of_ok hxt, bind_eq_of_ok hy, hf a u]

theorem shows_pure (a : α) : Shows view (pure a : Action τ α) (pure a) := fun _ => rfl

theorem shows_fail (e : Fault) : Shows view (fail e : Action τ α) (fail e) := fun _ => rfl

theorem shows_ofExcept (x : Except Fault α) : Shows view (ofExcept x) (ofExcept x) := fun _ => rfl

theorem shows_write (entry : LogEntry) : Shows view (write entry) (write entry) := fun _ => rfl

theorem shows_change {f : τ → τ} {g : σ → σ} (h : ∀ t, g (view t) = view (f t)) :
    Shows view (change f) (change g) := fun t => by rw [change, h]; rfl

/-- What is read is seen through the view. -/
theorem shows_read_bind {f : τ → Action τ β} {g : σ → Action σ β}
    (h : ∀ t, Shows view (f t) (g (view t))) : Shows view (read >>= f) (read >>= g) :=
  fun t => h t t

theorem Shows.ite {c : Prop} [Decidable c] {x' : Action τ α} {y' : Action σ α} (h : Shows view x y)
    (h' : Shows view x' y') : Shows view (if c then x else x') (if c then y else y') := by
  split
  · exact h
  · exact h'

/-- A step that is optional in both. -/
theorem Shows.optional {c : Prop} [Decidable c] {x : Action τ Unit} {y : Action σ Unit}
    {f : Unit → Action τ β} {g : Unit → Action σ β} (hx : Shows view x y)
    (hf : ∀ u, Shows view (f u) (g u)) :
    Shows view (if c then x >>= f else f ()) (if c then y >>= g else g ()) :=
  (hx.bind hf).ite (hf ())

theorem Shows.finallyDo {last : Action τ Unit} {last' : Action σ Unit} (hx : Shows view x y)
    (hlast : Shows view last last') :
    Shows view (Action.finallyDo x last) (Action.finallyDo y last') := by
  intro t
  simp only [Action.finallyDo, hx t, hlast (x t).state]

/-- On parts that are shown, actions do the same on the whole. -/
theorem Shows.onPart {ρ π : Type} {whole : ρ → π} {get : ρ → τ} {put : τ → ρ → ρ} {get' : π → σ}
    {put' : σ → π → π} (hget : ∀ r, get' (whole r) = view (get r))
    (hput : ∀ t r, put' (view t) (whole r) = whole (put t r)) (hx : Shows view x y) :
    Shows whole (Action.onPart get put x) (Action.onPart get' put' y) := by
  intro r
  simp only [Action.onPart, hget, hx (get r), hput]

end Action

open Action (Shows shows_pure shows_fail shows_ofExcept shows_write shows_change shows_read_bind)

/-! ## Engines -/

/-- The second engine does on the view of its problem what the first one does. -/
structure Engine.Shows {σ τ : Type} (view : τ → σ) (engine : Engine τ) (shown : Engine σ) :
    Prop where
  create : ∀ rows columns, shown.create rows columns = (engine.create rows columns).map view
  edit : ∀ e, Action.Shows view (engine.edit e) (shown.edit e)
  solve : Action.Shows view engine.solve shown.solve
  scaling : Action.Shows view engine.scaling shown.scaling
  statusText : ∀ d, Action.Shows view (engine.statusText d) (shown.statusText d)
  objective : Action.Shows view engine.objective shown.objective
  values : Action.Shows view engine.values shown.values
  duals : Action.Shows view engine.duals shown.duals
  release : Action.Shows view engine.release shown.release

namespace LoadedProblem

variable {β γ : Type} {view : γ → β} {runner : Runner γ} {shown : Runner β}

/-- A problem as it looks if only a view of the backend is seen. -/
def seen (view : γ → β) (p : LoadedProblem γ) : LoadedProblem β :=
  { formulation := p.formulation, solution := p.solution, released := p.released
    backend := view p.backend }

theorem shows_checkAlive : Shows (seen view) checkAlive checkAlive := fun _ => rfl

theorem shows_edit (e : Edit) : Shows (seen view) (edit e) (edit e) :=
  shows_checkAlive.bind fun _ _ => rfl

theorem shows_solve (hname : shown.name = runner.name)
    (hrun : ∀ f, Shows view (runner.run f) (shown.run f)) :
    Shows (seen view) (solve runner) (solve shown) := by
  rw [solve, solve, hname]
  refine shows_checkAlive.bind fun _ => ?_
  refine (shows_change fun _ => by rfl).bind fun _ => shows_read_bind fun p => ?_
  refine ((hrun _).onPart (fun _ => by rfl) fun _ _ => by rfl).bind fun s => ?_
  refine (shows_ofExcept _).bind fun keep => ?_
  refine (shows_change fun _ => by rfl).optional fun _ => ?_
  refine .ite ((shows_ofExcept _).bind fun text => ?_) (shows_pure _)
  exact (shows_write _).bind fun _ => shows_pure _

theorem shows_currentSolution : Shows (seen view) currentSolution currentSolution := by
  refine shows_checkAlive.bind fun _ => shows_read_bind fun p => ?_
  obtain ⟨f, solution, released, b⟩ := p
  cases solution with
  | some s => exact shows_pure s
  | none => exact shows_fail _

theorem shows_duals : Shows (seen view) duals duals :=
  shows_currentSolution.bind fun _ => shows_read_bind fun _ =>
    .ite (shows_ofExcept _) (shows_pure _)

end LoadedProblem

/-- Engines show what their runners show. -/
theorem Engine.shows_ofRunner {β γ : Type} {view : γ → β} {runner : Runner γ} {shown : Runner β}
    (hname : shown.name = runner.name) (hrun : ∀ f, Action.Shows view (runner.run f) (shown.run f))
    (initial : γ) :
    (Engine.ofRunner runner initial).Shows (LoadedProblem.seen view)
      (.ofRunner shown (view initial)) where
  create rows columns := by
    simp only [Engine.ofRunner, LoadedProblem.create]
    split <;> rfl
  edit := LoadedProblem.shows_edit
  solve := LoadedProblem.shows_solve hname hrun
  scaling := shows_read_bind fun _ => shows_pure _
  statusText _ := shows_ofExcept _
  objective := LoadedProblem.shows_currentSolution.bind fun _ => shows_ofExcept _
  values := LoadedProblem.shows_currentSolution.bind fun _ => shows_ofExcept _
  duals := LoadedProblem.shows_duals
  release := shows_change fun _ => rfl

/-! ## Sessions -/

namespace Session

variable {σ τ α : Type} {view : τ → σ} {engine : Engine τ} {shown : Engine σ}

/-- A session as it looks if only a view of the engine's problem is seen. -/
def seen (view : τ → σ) (s : Session τ) : Session σ := ⟨view s.state, s.events⟩

theorem shows_ask {x : Action τ α} {y : Action σ α} (h : Shows view x y) :
    Shows (seen view) (ask x) (ask y) := h.onPart (fun _ => rfl) fun _ _ => rfl

theorem shows_call (h : engine.Shows view shown) (event : Event) :
    Shows (seen view) (call engine event) (call shown event) := by
  refine (shows_change fun _ => by rfl).bind fun _ => shows_ask ?_
  cases event with
  | created => exact shows_pure ()
  | edited e => exact h.edit e
  | solved => exact h.solve
  | released => exact h.release

theorem shows_edit (h : engine.Shows view shown) (e : Edit) :
    Shows (seen view) (edit engine e) (edit shown e) := shows_call h (.edited e)

end Session

/-! ## The steps of a solve -/

namespace Request

open Session (seen shows_ask shows_call shows_edit)

variable {σ τ : Type} {view : τ → σ} {engine : Engine τ} {shown : Engine σ}

theorem shows_noteLength (name : String) (d : Document) (n : Nat) :
    Shows (seen view) (noteLength name d n) (noteLength name d n) := by
  refine .ite ((shows_ofExcept _).bind fun length => ?_) (shows_pure ())
  exact .ite (shows_write _) (shows_pure ())

section
variable (h : engine.Shows view shown)
include h

theorem shows_editEach (d : Document) (toEdit : Document → Document → Edit) :
    ∀ count i : Nat,
      Shows (seen view) (editEach engine d toEdit count i) (editEach shown d toEdit count i)
  | 0, _ => shows_pure ()
  | count + 1, i =>
    (shows_ofExcept _).bind fun _ => (shows_edit h _).bind fun _ =>
      shows_editEach d toEdit count (i + 1)

theorem shows_editColumns (d : Document) (n : Nat) (toEdit : Document → Document → Edit) :
    Shows (seen view) (editColumns engine d n toEdit) (editColumns shown d n toEdit) :=
  (shows_ofExcept _).bind fun _ => .ite (shows_editEach h d toEdit n 0) (shows_pure ())

theorem shows_addRows :
    ∀ cs : List Constraint, Shows (seen view) (addRows engine cs) (addRows shown cs)
  | [] => shows_pure ()
  | _ :: cs =>
    ((shows_ofExcept _).bind fun _ => shows_edit h _).bind fun _ => shows_addRows cs

theorem shows_formulate (r : Request) (n : Nat) (cs : List Constraint) :
    Shows (seen view) (formulate engine r n cs) (formulate shown r n cs) := by
  refine (shows_edit h _).bind fun _ => (shows_edit h _).bind fun _ => ?_
  refine (shows_ofExcept _).bind fun row => (shows_edit h _).bind fun _ => ?_
  refine (shows_edit h _).optional fun _ => ?_
  refine (shows_noteLength _ _ n).bind fun _ => (shows_noteLength _ _ n).bind fun _ => ?_
  refine (shows_noteLength _ _ n).bind fun _ => ?_
  refine (shows_editColumns h _ n _).bind fun _ => (shows_editColumns h _ n _).bind fun _ => ?_
  refine (shows_editColumns h _ n _).bind fun _ => (shows_addRows h cs).bind fun _ => ?_
  exact (shows_ask h.scaling).bind fun _ => shows_write _

theorem shows_attempt : Shows (seen view) (attempt engine) (attempt shown) :=
  (shows_call h .solved).bind fun _ => shows_ofExcept _

theorem shows_run : Shows (seen view) (run engine) (run shown) := by
  refine (shows_attempt h).bind fun first => .ite (shows_pure _) ?_
  refine (shows_ask (h.statusText _)).bind fun text => (shows_write _).bind fun _ => ?_
  refine (shows_edit h _).bind fun _ => (shows_attempt h).bind fun second => ?_
  refine .ite (shows_pure _) ((shows_ask (h.statusText _)).bind fun text' => ?_)
  exact (shows_write _).bind fun _ => shows_fail _

theorem shows_collect (n m : Nat) :
    Shows (seen view) (collect engine n m) (collect shown n m) := by
  refine (shows_ask h.objective).bind fun z => (shows_ask h.values).bind fun point => ?_
  refine (shows_ofExcept _).bind fun values => (shows_ask h.duals).bind fun ds => ?_
  exact (shows_ofExcept _).bind fun duals => shows_pure _

theorem shows_drive (r : Request) (n : Nat) (cs : List Constraint) :
    Shows (seen view) (drive engine r n cs) (drive shown r n cs) := by
  have hsession : Shows (seen view) (session engine r n cs) (session shown r n cs) :=
    (shows_formulate h r n cs).bind fun _ => (shows_run h).bind fun _ =>
      (shows_collect h n _).bind fun _ => shows_pure _
  refine (hsession.finallyDo (shows_call h .released)).bind fun ko => ?_
  exact (shows_write _).bind fun _ => shows_pure _

end

end Request

/-! ## Solves and runs -/

/-- A solve as it looks if only a view of the engine's problem is seen. -/
def Solved.seen {σ τ : Type} (view : τ → σ) (o : Solved τ) : Solved σ :=
  { result := o.result, events := o.events, final := o.final.map view, log := o.log }

/-- A run as it looks if only a view of the engine's problem is seen. -/
def CommandLine.Run.seen {σ τ : Type} (view : τ → σ) (run : CommandLine.Run τ) :
    CommandLine.Run σ :=
  { ending := run.ending, output := run.output, notices := run.notices
    final := run.final.map view }

section
variable {σ τ : Type} {view : τ → σ} {table : List (String × Engine τ)}
  {shown : List (String × Engine σ)}

/-- The tables list the same names, with engines of which the second ones show what the first do. -/
def ShowsTable (view : τ → σ) (table : List (String × Engine τ))
    (shown : List (String × Engine σ)) : Prop :=
  List.Forall₂ (fun e e' => e'.1 = e.1 ∧ e.2.Shows view e'.2) table shown

theorem ShowsTable.find (h : ShowsTable view table shown) (p : String → Bool) :
    (table.find? fun e => p e.1) = none ∧ (shown.find? fun e => p e.1) = none ∨
      ∃ e e', (table.find? fun e => p e.1) = some e ∧ (shown.find? fun e => p e.1) = some e' ∧
        e.2.Shows view e'.2 := by
  induction h with
  | nil => exact .inl ⟨rfl, rfl⟩
  | @cons e e' table shown hentry _ ih =>
    obtain ⟨hname, hengine⟩ := hentry
    cases hp : p e.1 with
    | true => exact .inr ⟨e, e', by simp [hp], by simp [hname, hp], hengine⟩
    | false => simpa [List.find?_cons, hname, hp] using ih

/-- A name is refused by both tables, or stands for engines of which the second shows the first. -/
theorem ShowsTable.resolve (h : ShowsTable view table shown) (name : Document) :
    (∃ fault, (EngineChoice.named table name).resolve = .error fault ∧
        (EngineChoice.named shown name).resolve = .error fault) ∨
      ∃ engine engine', (EngineChoice.named table name).resolve = .ok engine ∧
        (EngineChoice.named shown name).resolve = .ok engine' ∧ engine.Shows view engine' := by
  unfold EngineChoice.resolve
  dsimp only
  split
  · exact .inl ⟨_, rfl, rfl⟩
  · rename_i t _
    rcases h.find fun key => decide (Text.ofString key = t) with
      ⟨hnone, hnone'⟩ | ⟨e, e', hsome, hsome', hengine⟩
    · rw [hnone, hnone']
      exact .inl ⟨_, rfl, rfl⟩
    · rw [hsome, hsome']
      exact .inr ⟨e.2, e'.2, rfl, rfl, hengine⟩
  · exact .inl ⟨_, rfl, rfl⟩

/-- A solve with the one table shows what a solve with the other does. -/
theorem Request.solve_shown (h : ShowsTable view table shown) (r : Request) (name : Document) :
    r.solve (.named shown name) = (r.solve (.named table name)).seen view := by
  rw [solve, solve]
  cases r.check with
  | error fault => rfl
  | ok admitted =>
    rcases h.resolve name with ⟨fault, hfault, hfault'⟩ | ⟨engine, engine', hok, hok', hengine⟩
    · rw [hfault, hfault']
      rfl
    · rw [hok, hok']
      dsimp only
      rw [hengine.create]
      cases engine.create 0 admitted.1 with
      | error fault => rfl
      | ok state =>
        have hdrive := shows_drive hengine r admitted.1 admitted.2
          ⟨state, [.created 0 admitted.1]⟩
        simp only [Session.seen] at hdrive
        simp only [Except.map, hdrive, Solved.seen, Option.map_some]

namespace CommandLine

theorem solveAndReport_shown (h : ShowsTable view table shown) (a : Arguments) (s : Settings)
    (path : Path) (p : Problem) :
    solveAndReport shown a s path p = (solveAndReport table a s path p).seen view := by
  rw [solveAndReport, solveAndReport, Request.solve_shown h]
  dsimp only [Solved.seen]
  split
  · split <;> rfl
  · split <;> rfl

/-- A run with the one table ends and writes as a run with the other. -/
theorem run_shown (h : ShowsTable view table shown) (environment : List (Text × Text))
    (look : Look) (texts : List Text) :
    run shown environment look texts = (run table environment look texts).seen view := by
  unfold run
  split
  · rfl
  · rfl
  · rw [runWith, runWith]
    split
    · rfl
    · dsimp only
      split
      · rfl
      · rfl
      · rw [readAndSolve, readAndSolve]
        split
        · rw [solveAndReport_shown h]
          rfl
        · rfl
        · rfl

end CommandLine

end

end LinearPrograms
