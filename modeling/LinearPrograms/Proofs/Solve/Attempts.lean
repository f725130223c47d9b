import LinearPrograms.Engine.Scripted
import LinearPrograms.Proofs.Solve.Posed

/-!
# The attempts of a solve

A solve reads the solution of its first run, or that of a second run without scaling if the first one
leaves none. `Runner.Settles` says which run of a runner that is, and `Solution.outcome` what a caller
makes of its solution.

A run of a session keeps the solution exactly if its status is usable (`stands_attempt`), so the
attempts end with the solution that settles them and nothing else (`stands_run`), or with the status
of the second run (`ends_run_of_unsettled`). Whatever the attempts of a valid request come to is what
the solve comes to, since its formulation cannot fail and its release changes no answer
(`solve_of_answer`). So its result, the number of its runs and what they leave of the backend follow
from the statuses of the runs (`solve_retry`), and what becomes of values and duals from their lengths
alone (`solve_settled`).
-/

namespace LinearPrograms

/-! ## What a caller makes of a solution -/

namespace Solution

variable {s : Solution} {f : Formulation} {n m : Nat}

/-- The outcome that a solution is read as, for `n` variables and `m` constraints. -/
def outcome (s : Solution) (f : Formulation) (n m : Nat) : Except Fault Outcome := do
  let z ← s.objective.toScalar.mapError .conversion
  let point ← Tensor.ofDocument s.values
  let values ← (point.spread n).mapError .shape
  let sensitivities ← s.sensitivities f
  let duals ← (sensitivities.spread (n + m + 1)).mapError .shape
  return ⟨values, duals, .float z⟩

/-- A solution with an objective, and with values and duals in one dimension. -/
structure Gives (s : Solution) (z : Scalar) (xs ds : List Scalar) : Prop where
  objective : s.objective.toScalar = .ok z
  values : Tensor.ofDocument s.values = .ok (.ofScalars xs)
  duals : Tensor.ofDocument s.duals = .ok (.ofScalars ds)

namespace Gives

variable {z : Scalar} {xs ds : List Scalar}

/-- An outcome holds the objective, and rows that values and duals fill. -/
theorem outcome_eq_ok (h : s.Gives z xs ds) {o : Outcome} :
    s.outcome f n m = .ok o ↔
      o.objective = .float z ∧ Tensor.Fills n xs o.values ∧
        Tensor.Fills (n + m + 1) ds o.duals := by
  have hrows : s.outcome f n m = (do
      let values ← ((Tensor.ofScalars xs).spread n).mapError .shape
      let duals ← ((Tensor.ofScalars ds).spread (n + m + 1)).mapError .shape
      return ⟨values, duals, .float z⟩) := by
    rw [outcome, h.objective, h.values, sensitivities_of_duals h.duals]
    rfl
  simp only [hrows, Computation.bind_eq_ok, Computation.mapError_eq_ok, Tensor.spread_eq_ok,
    Computation.pure_eq_ok]
  constructor
  · rintro ⟨values, hvalues, duals, hduals, rfl⟩
    exact ⟨rfl, hvalues, hduals⟩
  · rintro ⟨hobjective, hvalues, hduals⟩
    exact ⟨o.values, hvalues, o.duals, hduals, by rw [← hobjective]⟩

/-- Values and duals of the right lengths are taken over as they are. -/
theorem outcome_of_length (h : s.Gives z xs ds) (hx : xs.length = n)
    (hd : ds.length = n + m + 1) : s.outcome f n m = .ok ⟨xs, ds, .float z⟩ :=
  h.outcome_eq_ok.2 ⟨rfl, .inl ⟨hx, rfl⟩, .inl ⟨hd, rfl⟩⟩

end Gives

/-- A solution that is there is never reported as missing. -/
theorem outcome_ne_noSolution : s.outcome f n m ≠ .error (.engine .noSolution) := by
  have hdocument : ∀ d : Document, Tensor.ofDocument d ≠ .error (.engine .noSolution) := by
    intro d hd
    rcases Tensor.ofDocument_eq_error hd with ⟨c, hc⟩ | ⟨c, hc⟩ <;> cases hc
  have hsensitivities : s.sensitivities f ≠ .error (.engine .noSolution) := by
    unfold sensitivities
    split
    · exact hdocument _
    · exact fun h => by cases h
  intro h
  simp only [outcome, Computation.bind_eq_error, Computation.mapError_eq_error] at h
  rcases h with ⟨c, -, hc⟩ | ⟨z, -, h⟩
  · cases hc
  rcases h with h | ⟨point, -, h⟩
  · exact hdocument _ h
  rcases h with ⟨c, -, hc⟩ | ⟨values, -, h⟩
  · cases hc
  rcases h with h | ⟨sensitivities, -, h⟩
  · exact hsensitivities h
  rcases h with ⟨c, -, hc⟩ | ⟨duals, -, h⟩
  · cases hc
  · cases h

end Solution

/-! ## The run that settles a solve -/

/-- The formulation as the second run takes it. -/
def Formulation.unscaled (f : Formulation) : Formulation := { f with scaling := 0 }

/-- The solution that is read after one or two runs, and the backend they leave: that of the first
run, or of the second, without scaling, if the status of the first is not usable. -/
inductive Runner.Settles {β : Type} (runner : Runner β) (f : Formulation) (b : β) :
    Solution → Nat → β → Prop
  | first {s : Solution} {k : Int} {b₁ : β} {log : List LogEntry} :
      runner.run f b = ⟨.ok s, b₁, log⟩ → s.status = .int k → k ∈ Status.usableCodes →
      Settles runner f b s 1 b₁
  | second {s₁ s₂ : Solution} {k₁ k₂ : Int} {b₁ b₂ : β} {log₁ log₂ : List LogEntry} :
      runner.run f b = ⟨.ok s₁, b₁, log₁⟩ → s₁.status = .int k₁ → k₁ ∉ Status.usableCodes →
      runner.run f.unscaled b₁ = ⟨.ok s₂, b₂, log₂⟩ → s₂.status = .int k₂ →
      k₂ ∈ Status.usableCodes → Settles runner f b s₂ 2 b₂

/-- The engine of the solve received so many runs, and they left its backend so. -/
def Solved.Ran {β : Type} (o : Solved (LoadedProblem β)) (runs : Nat) (b : β) : Prop :=
  o.events.countP Event.isRun = runs ∧ o.final.map LoadedProblem.backend = some b

/-- The solve returns what a solution gives, if there is a value for each of `n` variables and a dual
for each variable and constraint behind the first one; the solution is never missed. -/
def Solved.TakesOver {σ : Type} (o : Solved σ) (s : Solution) (n m : Nat) : Prop :=
  o.result ≠ .error (.engine .noSolution) ∧
    ∀ z xs ds, s.Gives z xs ds → xs.length = n → ds.length = n + m + 1 →
      o.result = .ok ⟨xs, ds, .float z⟩

theorem Solved.takesOver_of_outcome {σ : Type} {o : Solved σ} {s : Solution} {f : Formulation}
    {n m : Nat} (h : o.result = s.outcome f n m) : o.TakesOver s n m := by
  refine ⟨?_, fun z xs ds hs hx hd => ?_⟩
  · rw [h]
    exact Solution.outcome_ne_noSolution
  · rw [h]
    exact hs.outcome_of_length hx hd

namespace Request

variable {β : Type} {runner : Runner β} {initial : β} {f : Formulation}
  {solution : Option Solution} {b b' : β} {runs : Nat} {t : Session (LoadedProblem β)}
  {E : Fault → Session (LoadedProblem β) → Prop}

/-! ## The attempts -/

/-- A run keeps the solution exactly if its status is usable, and nothing of earlier runs. -/
theorem stands_attempt {s : Solution} {k : Int} {log : List LogEntry}
    (ht : t.Stands f solution b runs) (hrun : runner.run f b = ⟨.ok s, b', log⟩)
    (hk : s.status = .int k) :
    (attempt (.ofRunner runner initial)).Ends t
      (fun i u => i = k ∧
        u.Stands f (if k ∈ Status.usableCodes then some s else none) b' (runs + 1)) E := by
  obtain ⟨hstate, hruns⟩ := ht
  rw [attempt, Action.ends_bind, Session.ends_call]
  refine LoadedProblem.ends_solve (by rw [hstate]) ?_
  rw [hstate, Action.Ends, hrun]
  refine ⟨k, hk, ?_⟩
  rw [Action.ends_ofExcept]
  constructor
  · intro i hi
    obtain rfl : k = i := Except.ok.inj (Computation.mapError_eq_ok.1 hi)
    refine ⟨rfl, ?_, ?_⟩
    · simp only [Status.isUsable_int]
    · rw [List.countP_append, hruns]
      rfl
  · intro e he
    cases he

/-- A first run without a solution is followed by a second one, which starts from nothing but the
formulation without scaling. -/
theorem ends_run_of_first {s₁ : Solution} {k₁ : Int} {b₁ : β} {log₁ : List LogEntry}
    {Q : StatusKind → Session (LoadedProblem β) → Prop} (ht : t.Stands f solution b runs)
    (hrun₁ : runner.run f b = ⟨.ok s₁, b₁, log₁⟩) (hk₁ : s₁.status = .int k₁)
    (hu₁ : k₁ ∉ Status.usableCodes)
    (h : ∀ u, u.Stands f.unscaled none b₁ (runs + 1) →
      (attempt (.ofRunner runner initial)).Ends u
        (fun k v => (k ∈ Status.usableCodes → Q (.ofCode k) v) ∧
          (k ∉ Status.usableCodes → E (.unsolved k (Status.textOfCode k)) v)) E) :
    (run (.ofRunner runner initial)).Ends t Q E := by
  refine ends_run_of_attempts ((stands_attempt ht hrun₁ hk₁).imp ?_) h
  rintro i u ⟨rfl, hu⟩
  rw [if_neg hu₁] at hu
  have hscaling : (Edit.scaling (.int 0)).Effect f f.unscaled := ⟨0, rfl, rfl⟩
  exact ⟨fun hi => absurd hi hu₁, fun _ => Session.stands_edit hu hscaling⟩

/-- The attempts end with the solution that settles them. -/
theorem stands_run {s : Solution} (hs : runner.Settles f b s runs b')
    (ht : t.Stands f solution b 0) :
    (run (.ofRunner runner initial)).Ends t
      (fun _ u => ∃ mode, u.Stands { f with scaling := mode } (some s) b' runs) E := by
  cases hs with
  | first hrun hk hu =>
    refine ends_run_of_attempts (M := fun _ => False) ((stands_attempt ht hrun hk).imp ?_)
      fun _ h => h.elim
    rintro i u ⟨rfl, hu'⟩
    rw [if_pos hu] at hu'
    exact ⟨fun _ => ⟨f.scaling, hu'⟩, fun hi => absurd hu hi⟩
  | second hrun₁ hk₁ hu₁ hrun₂ hk₂ hu₂ =>
    refine ends_run_of_first ht hrun₁ hk₁ hu₁ fun u hu => (stands_attempt hu hrun₂ hk₂).imp ?_
    rintro i v ⟨rfl, hv⟩
    rw [if_pos hu₂] at hv
    exact ⟨fun _ => ⟨0, hv⟩, fun hi => absurd hu₂ hi⟩

/-- Two attempts without a solution end with the status of the second. -/
theorem ends_run_of_unsettled {s₁ s₂ : Solution} {k₁ k₂ : Int} {b₁ b₂ : β}
    {log₁ log₂ : List LogEntry} (ht : t.Stands f solution b 0)
    (hrun₁ : runner.run f b = ⟨.ok s₁, b₁, log₁⟩) (hk₁ : s₁.status = .int k₁)
    (hu₁ : k₁ ∉ Status.usableCodes) (hrun₂ : runner.run f.unscaled b₁ = ⟨.ok s₂, b₂, log₂⟩)
    (hk₂ : s₂.status = .int k₂) (hu₂ : k₂ ∉ Status.usableCodes) :
    (run (.ofRunner runner initial)).Ends t (fun _ _ => False)
      fun e u => e = .unsolved k₂ (Status.textOfCode k₂) ∧ u.Ran 2 b₂ := by
  refine ends_run_of_first ht hrun₁ hk₁ hu₁ fun u hu => (stands_attempt hu hrun₂ hk₂).imp ?_
  rintro i v ⟨rfl, hv⟩
  exact ⟨fun hi => absurd hi hu₂, fun _ => ⟨rfl, hv.ran⟩⟩

/-! ## From the attempts to the solve -/

theorem collect_eq {s : Solution} (ht : t.Stands f (some s) b runs) (n m : Nat) :
    collect (.ofRunner runner initial) n m t = ⟨s.outcome f n m, t, []⟩ := by
  obtain ⟨hstate, -⟩ := ht
  -- what only reads the problem only reads the session
  have hask : ∀ {α : Type} {x : Action (LoadedProblem β) α} {y : Except Fault α},
      x t.state = ⟨y, t.state, []⟩ → Session.ask x t = ⟨y, t, []⟩ := by
    intro α x y hx
    simp only [Session.ask, Action.onPart, hx]
  have hreleased : t.state.released = false := by rw [hstate]
  have hsolution : t.state.solution = some s := by rw [hstate]
  have hsensitivities := LoadedProblem.duals_eq hreleased hsolution
  rw [show t.state.formulation = f by rw [hstate]] at hsensitivities
  rw [collect, Solution.outcome]
  refine Action.bind_of_reads (hask (LoadedProblem.objective_eq hreleased hsolution)) fun z => ?_
  refine Action.bind_of_reads (hask (LoadedProblem.values_eq hreleased hsolution)) fun point => ?_
  refine Action.bind_of_reads rfl fun values => ?_
  refine Action.bind_of_reads (hask hsensitivities) fun sensitivities => ?_
  exact Action.bind_of_reads rfl fun duals => rfl

/-- The attempts and the reading of the answer, which follow the formulation. -/
def answer {σ : Type} (engine : Engine σ) (n m : Nat) :
    Action (Session σ) (StatusKind × Outcome) := do
  let kind ← run engine
  let outcome ← collect engine n m
  return (kind, outcome)

theorem ends_answer_of_settles {s : Solution} {n m : Nat} (hs : runner.Settles f b s runs b')
    (ht : t.Stands f none b 0) :
    (answer (.ofRunner runner initial) n m).Ends t
      (fun ko u => s.outcome f n m = .ok ko.2 ∧ u.Ran runs b')
      fun e u => s.outcome f n m = .error e ∧ u.Ran runs b' := by
  refine (stands_run hs ht).bind fun kind u hu => ?_
  obtain ⟨mode, hu⟩ := hu
  -- the scaling says nothing about how many duals a solution without any has
  have houtcome : s.outcome { f with scaling := mode } n m = s.outcome f n m := rfl
  rw [Action.ends_bind, Action.Ends, collect_eq hu n m, houtcome]
  cases s.outcome f n m with
  | ok o => exact ⟨rfl, hu.ran⟩
  | error e => exact ⟨rfl, hu.ran⟩

/-- The release leaves the answer and the backend as they are, and is no run. -/
theorem ends_drive_of_session {r : Request} {n : Nat} {cs : List Constraint}
    {y : Except Fault Outcome}
    (h : (session (.ofRunner runner initial) r n cs).Ends t
      (fun ko u => y = .ok ko.2 ∧ u.Ran runs b') fun e u => y = .error e ∧ u.Ran runs b') :
    (drive (.ofRunner runner initial) r n cs).Ends t (fun o u => y = .ok o ∧ u.Ran runs b')
      fun e u => y = .error e ∧ u.Ran runs b' := by
  rw [drive, Action.ends_bind, Action.ends_finallyDo]
  refine h.mono (fun ko u hu => ?_) fun e u hu => ?_
  · rw [Session.ends_call]
    exact ⟨hu.1, hu.2.released⟩
  · rw [Session.ends_call]
    exact ⟨hu.1, hu.2.released⟩

section
variable {r : Request} {c : List Scalar} {cs : List Constraint}
  {choice : EngineChoice (LoadedProblem β)} (hr : r.Valid c cs)
  (hchoice : choice.resolve = .ok (.ofRunner runner initial))
include hr hchoice

/-- The solve of a valid request is what its attempts and the reading come to. -/
theorem solve_of_answer {y : Except Fault Outcome}
    (h : ∀ u : Session (LoadedProblem β), u.Stands (r.posed c cs) none initial 0 →
      (answer (.ofRunner runner initial) c.length cs.length).Ends u
        (fun ko v => y = .ok ko.2 ∧ v.Ran runs b') fun e v => y = .error e ∧ v.Ran runs b') :
    (r.solve choice).result = y ∧ (r.solve choice).Ran runs b' := by
  have hstart : Session.Stands (.ofSize 0 c.length) none initial 0
      ⟨{ formulation := .ofSize 0 c.length, backend := initial }, [.created 0 c.length]⟩ :=
    ⟨rfl, rfl⟩
  have hsession : (session (.ofRunner runner initial) r c.length cs).Ends _
      (fun ko v => y = .ok ko.2 ∧ v.Ran runs b') fun e v => y = .error e ∧ v.Ran runs b' :=
    (formulates_posed hr hstart).bind fun _ u hu => h u hu
  have hdrive := ends_drive_of_session hsession
  rw [solve_eq_drive hr.shaped.check hchoice (create_ofRunner runner initial c.length)]
  unfold Action.Ends at hdrive
  split at hdrive
  · rename_i o ho
    obtain ⟨hy, hran⟩ := hdrive
    exact ⟨ho.trans hy.symm, hran.1, congrArg some hran.2⟩
  · rename_i e he
    obtain ⟨hy, hran⟩ := hdrive
    exact ⟨he.trans hy.symm, hran.1, congrArg some hran.2⟩

/-- The solve of a valid request reads the solution that settles it. -/
theorem solve_of_settles {s : Solution} (hs : runner.Settles (r.posed c cs) initial s runs b') :
    (r.solve choice).result = s.outcome (r.posed c cs) c.length cs.length ∧
      (r.solve choice).Ran runs b' :=
  solve_of_answer hr hchoice fun _ hu => ends_answer_of_settles hs hu

/-- The solve of a valid request fails with the status of the second run that leaves no solution. -/
theorem solve_of_unsettled {s₁ s₂ : Solution} {k₁ k₂ : Int} {b₁ b₂ : β}
    {log₁ log₂ : List LogEntry}
    (hrun₁ : runner.run (r.posed c cs) initial = ⟨.ok s₁, b₁, log₁⟩) (hk₁ : s₁.status = .int k₁)
    (hu₁ : k₁ ∉ Status.usableCodes)
    (hrun₂ : runner.run (r.posed c cs).unscaled b₁ = ⟨.ok s₂, b₂, log₂⟩)
    (hk₂ : s₂.status = .int k₂) (hu₂ : k₂ ∉ Status.usableCodes) :
    (r.solve choice).result = .error (.unsolved k₂ (Status.textOfCode k₂)) ∧
      (r.solve choice).Ran 2 b₂ := by
  refine solve_of_answer hr hchoice fun u hu => ?_
  rw [answer, Action.ends_bind]
  refine (ends_run_of_unsettled hu hrun₁ hk₁ hu₁ hrun₂ hk₂ hu₂).mono (fun _ _ h => h.elim) ?_
  rintro e v ⟨rfl, hv⟩
  exact ⟨rfl, hv⟩

/-- A valid request is run once if that leaves a solution, and otherwise once more without scaling.
The solve returns what the last run answered, or fails with the status of that run and its text; the
codes for which an engine keeps a solution are those for which the caller reads one, so none is ever
missing. -/
theorem solve_retry {s₁ : Solution} {k₁ : Int} {b₁ : β} {log₁ : List LogEntry}
    (hrun₁ : runner.run (r.posed c cs) initial = ⟨.ok s₁, b₁, log₁⟩) (hk₁ : s₁.status = .int k₁) :
    (∀ k : Int, Status.isUsable (.int k) = (StatusKind.ofCode k).usable) ∧
    (k₁ ∈ ([0, 1, 11, 12] : List Int) →
      (r.solve choice).Ran 1 b₁ ∧ (r.solve choice).TakesOver s₁ c.length cs.length) ∧
    (k₁ ∉ ([0, 1, 11, 12] : List Int) → ∀ s₂ k₂ b₂ log₂,
      runner.run (r.posed c cs).unscaled b₁ = ⟨.ok s₂, b₂, log₂⟩ → s₂.status = .int k₂ →
        (r.solve choice).Ran 2 b₂ ∧
        (k₂ ∈ ([0, 1, 11, 12] : List Int) →
          (r.solve choice).TakesOver s₂ c.length cs.length) ∧
        (k₂ ∉ ([0, 1, 11, 12] : List Int) →
          (r.solve choice).result = .error (.unsolved k₂ (Status.textOfCode k₂)))) := by
  refine ⟨fun k => ?_, fun hu₁ => ?_, fun hu₁ s₂ k₂ b₂ log₂ hrun₂ hk₂ => ?_⟩
  · rw [Bool.eq_iff_iff, Status.isUsable_int, Status.usable_ofCode_iff]
  · obtain ⟨hresult, hran⟩ := solve_of_settles hr hchoice (.first hrun₁ hk₁ hu₁)
    exact ⟨hran, Solved.takesOver_of_outcome hresult⟩
  · by_cases hu₂ : k₂ ∈ ([0, 1, 11, 12] : List Int)
    · obtain ⟨hresult, hran⟩ := solve_of_settles hr hchoice
        (.second hrun₁ hk₁ hu₁ hrun₂ hk₂ hu₂)
      exact ⟨hran, fun _ => Solved.takesOver_of_outcome hresult, fun h => absurd hu₂ h⟩
    · obtain ⟨hresult, hran⟩ := solve_of_unsettled hr hchoice hrun₁ hk₁ hu₁ hrun₂ hk₂ hu₂
      exact ⟨hran, fun h => absurd h hu₂, fun _ => hresult⟩

end

/-- Maximize `3x + 2y` with an integer `x ≥ 1`, a free `y` and one row. -/
def retriedRequest : Request where
  objective := .list [.float (.finite 3), .float (.finite 2)]
  constraints := [.constraint ⟨[.finite 1, .finite 1], .le, .finite 4⟩]
  lowerBounds := .list [.float .one, .float (.finite (-Formulation.unboundedFrom))]
  upperBounds := .list [.text ⟨[]⟩]
  integerVariables := .list [.bool true, .null]
  scalingMode := .int 4

theorem valid_retriedRequest :
    retriedRequest.Valid [.finite 3, .finite 2] [⟨[.finite 1, .finite 1], .le, .finite 4⟩] where
  objective := ⟨_, rfl, rfl⟩
  nonempty := by decide
  constraints := rfl
  length := by decide
  scaling _ := ⟨4, rfl⟩
  lower _ := by
    refine ⟨2, rfl, fun _ i hi => ?_⟩
    match i with
    | 0 => exact ⟨_, rfl, _, rfl, .inr ⟨_, rfl⟩⟩
    | 1 => exact ⟨_, rfl, _, rfl, .inl (by decide)⟩
  upper _ := ⟨1, rfl, fun h => by cases h⟩
  integer _ := by
    refine ⟨2, rfl, fun _ i hi => ?_⟩
    match i with
    | 0 => exact ⟨_, rfl, trivial⟩
    | 1 => exact ⟨_, rfl, trivial⟩

/-- An engine that answers its runs one after the other. -/
def rehearsed (runs : List Solution) : EngineChoice (LoadedProblem (List Solution)) :=
  .given (.ofRunner .scripted runs)

/-- A run that fails and one that finds a point that need not be the best. -/
def retriedRuns : List Solution :=
  [{ status := .int 5 },
    { status := .int 12, objective := .float (.finite 12), values := .ofScalars [.finite 4, .zero],
      duals := .ofScalars [.zero, .finite 3, .zero, .finite (-1)] }]

theorem solve_retry_second :
    (retriedRequest.solve (rehearsed retriedRuns)).result =
        .ok ⟨[.finite 4, .zero], [.zero, .finite 3, .zero, .finite (-1)], .float (.finite 12)⟩ ∧
      (retriedRequest.solve (rehearsed retriedRuns)).Ran 2 [] := by
  have hchoice : (rehearsed retriedRuns).resolve = .ok (.ofRunner .scripted retriedRuns) := rfl
  have hgives : retriedRuns[1].Gives (.finite 12) [.finite 4, .zero]
      [.zero, .finite 3, .zero, .finite (-1)] :=
    ⟨rfl, Tensor.ofDocument_ofScalars _, Tensor.ofDocument_ofScalars _⟩
  obtain ⟨-, -, hretry⟩ := solve_retry valid_retriedRequest hchoice rfl rfl
  obtain ⟨hran, hsecond, -⟩ := hretry (by decide) _ 12 _ _ rfl rfl
  exact ⟨(hsecond (by decide)).2 _ _ _ hgives rfl rfl, hran⟩

/-! ## What becomes of the answer -/

/-- The solution that settles a valid request is returned as it is if its values and duals have the
right lengths. Otherwise the solve fails, except that a single value or dual stands for all. -/
theorem solve_settled {r : Request} {c : List Scalar} {cs : List Constraint}
    {choice : EngineChoice (LoadedProblem β)} {s : Solution} {z : Scalar} {xs ds : List Scalar}
    (hr : r.Valid c cs) (hchoice : choice.resolve = .ok (.ofRunner runner initial))
    (hs : runner.Settles (r.posed c cs) initial s runs b') (hgives : s.Gives z xs ds) :
    (xs.length = c.length → ds.length = c.length + cs.length + 1 →
      (r.solve choice).result = .ok ⟨xs, ds, .float z⟩) ∧
    (∀ o, (r.solve choice).result = .ok o ↔
      o.objective = .float z ∧ Tensor.Fills c.length xs o.values ∧
        Tensor.Fills (c.length + cs.length + 1) ds o.duals) ∧
    ((∃ e, (r.solve choice).result = .error e) ↔
      ¬((xs.length = c.length ∨ xs.length = 1) ∧
        (ds.length = c.length + cs.length + 1 ∨ ds.length = 1))) := by
  obtain ⟨hresult, -⟩ := solve_of_settles hr hchoice hs
  have hok : ∀ o, (r.solve choice).result = .ok o ↔
      o.objective = .float z ∧ Tensor.Fills c.length xs o.values ∧
        Tensor.Fills (c.length + cs.length + 1) ds o.duals := by
    intro o
    rw [hresult]
    exact hgives.outcome_eq_ok
  refine ⟨fun hx hd => ?_, hok, ?_⟩
  · rw [hresult]
    exact hgives.outcome_of_length hx hd
  · rw [← Tensor.exists_fills, ← Tensor.exists_fills]
    constructor
    · rintro ⟨e, he⟩ ⟨⟨values, hvalues⟩, duals, hduals⟩
      have h := (hok ⟨values, duals, .float z⟩).2 ⟨rfl, hvalues, hduals⟩
      rw [he] at h
      cases h
    · intro h
      cases hsolve : (r.solve choice).result with
      | error e => exact ⟨e, rfl⟩
      | ok o =>
        obtain ⟨-, hvalues, hduals⟩ := (hok o).1 hsolve
        exact absurd ⟨⟨_, hvalues⟩, _, hduals⟩ h

/-- A run that fails and one that answers with a value more than there are variables. -/
def oversizedRuns : List Solution :=
  [{ status := .int 2 },
    { status := .int 0, objective := .float .one, values := .ofScalars [.one, .one, .one],
      duals := .ofScalars [.zero, .zero, .zero, .zero] }]

theorem solve_settled_oversized :
    ∃ e, (retriedRequest.solve (rehearsed oversizedRuns)).result = .error e := by
  have hchoice : (rehearsed oversizedRuns).resolve = .ok (.ofRunner .scripted oversizedRuns) := rfl
  have hgives : oversizedRuns[1].Gives .one [.one, .one, .one] [.zero, .zero, .zero, .zero] :=
    ⟨rfl, Tensor.ofDocument_ofScalars _, Tensor.ofDocument_ofScalars _⟩
  obtain ⟨-, -, hrefused⟩ := solve_settled valid_retriedRequest hchoice
    (.second rfl rfl (by decide) rfl rfl (by decide)) hgives
  exact hrefused.2 (by decide)

/-- Two variables without constraints. -/
def freeRequest : Request where
  objective := .list [.float .one, .float (.finite 2)]
  constraints := []

/-- A run that answers with one value for both variables. -/
def singleRun : List Solution :=
  [{ status := .int 0, objective := .float (.finite 7), values := .ofScalars [.finite 5],
     duals := .ofScalars [.zero, .zero, .zero] }]

/-- A single value is returned for both variables. -/
theorem solve_settled_single :
    (freeRequest.solve (rehearsed singleRun)).result =
      .ok ⟨[.finite 5, .finite 5], [.zero, .zero, .zero], .float (.finite 7)⟩ := rfl

end Request

end LinearPrograms
