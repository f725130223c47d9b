import LinearPrograms.Proofs.Document.Numbers
import LinearPrograms.Proofs.Engine.Stated

/-!
# What a run leaves to be read

`LoadedProblem.ends_solve` reduces a run of an engine to the run of its runner: the status is passed
on, and the solution is kept exactly if the status is usable. A runner in turn hands its form of the
formulation to the backend and turns the answer into a solution (`SplitModel.ends_run`,
`NamedModel.ends_run`).

A solution that is kept is read back as it was written: `LoadedProblem.reading` runs the engine and
reads objective, values and duals, and `ends_reading` says what it finds.

Reading alone changes nothing and finds what is kept, if anything is (`Action.Reads`).
-/

namespace LinearPrograms

namespace Action

variable {σ α : Type} {Q : α → σ → Prop} {E : Fault → σ → Prop}

/-- An action whose result is known ends with that result. -/
theorem ends_of_result {x : Action σ α} {s : σ} {a : α} (h : (x s).result = .ok a)
    (hq : Q a (x s).state) : x.Ends s Q E := by
  unfold Ends
  rw [h]
  exact hq

/-- A result that is known is passed on. -/
theorem ofExcept_ok_bind {β : Type} (a : α) (f : α → Action σ β) :
    ofExcept (.ok a) >>= f = f a := by
  funext s
  exact bind_eq_of_ok (x := ofExcept (.ok a)) (f := f) rfl

/-- The action only reads: it ends with a result in `Q`, or with a fault that is not the engine's
verdict, and changes nothing. -/
def Reads (x : Action σ α) (s : σ) (Q : α → Prop) : Prop :=
  x.Ends s (fun a t => t = s ∧ Q a) fun e t => t = s ∧ ¬e.IsUnsolved

section
variable {β : Type} {x : Action σ α} {s : σ} {P : α → Prop} {f : α → Action σ β} {R : β → Prop}

theorem Reads.bind (hx : x.Reads s P) (hf : ∀ a, P a → (f a).Reads s R) :
    (x >>= f).Reads s R := by
  refine Ends.bind hx ?_
  rintro a t ⟨rfl, ha⟩
  exact hf a ha

theorem Reads.imp {Q : α → Prop} (hx : x.Reads s P) (h : ∀ a, P a → Q a) : x.Reads s Q :=
  Ends.imp hx fun a _ ha => ⟨ha.1, h a ha.2⟩

theorem reads_ofExcept {y : Except Fault α} (hy : Clean y) :
    (ofExcept y : Action σ α).Reads s fun a => y = .ok a :=
  (ends_ofExcept y).2 ⟨fun _ ha => ⟨rfl, ha⟩, fun e he => ⟨rfl, hy e he⟩⟩

theorem Reads.state (hx : x.Reads s P) : (x s).state = s := by
  unfold Reads Ends at hx
  split at hx
  · exact hx.1
  · exact hx.1

end

end Action

/-! ## Statuses -/

namespace Status

/-- The engine's text for a code that is an integer. -/
theorem textOf_int (k : Int) : textOf (.int k) = .ok (Text.ofString (textOfCode k)) := by
  have hkey : (Document.int k).asKey = .ok (.int k) := rfl
  have hfind : (fun entry : Int × String => (Document.int k).isInteger entry.1) =
      fun entry => decide (entry.1 = k) := funext fun entry => Document.isInteger_int k entry.1
  simp only [textOf, hkey, textOfCode, bind, Except.bind, hfind]
  cases texts.find? fun entry => decide (entry.1 = k) with
  | none => rfl
  | some entry => rfl

/-- The codes with which an engine keeps its solution. -/
theorem isUsable_int (k : Int) : isUsable (.int k) = true ↔ k ∈ usableCodes := by
  simp only [isUsable, Document.isInteger_int, List.any_eq_true, decide_eq_true_eq,
    exists_eq_right]

/-- The codes with which a caller reads a solution. -/
theorem usable_ofCode_iff (k : Int) :
    (StatusKind.ofCode k).usable = true ↔ k ∈ usableCodes := by
  simp only [StatusKind.ofCode, usableCodes, List.mem_cons, List.not_mem_nil, or_false]
  repeat' split
  all_goals simp_all [StatusKind.usable]

end Status

namespace LoadedProblem

variable {β : Type} {p : LoadedProblem β} {runner : Runner β}
variable {Q : Document → LoadedProblem β → Prop} {E : Fault → LoadedProblem β → Prop}

/-- A run ends as its runner does, whatever the answer: a solution is kept if its status can be told
to be usable, and what is kept does not depend on the status having a text. -/
theorem ends_solve_of_answer (hp : p.released = false)
    (h : (runner.run p.formulation).Ends p.backend
      (fun s b => (∀ e, usable s.status = .error e → E e { p with solution := none, backend := b }) ∧
        ∀ keep, usable s.status = .ok keep → ∀ q : LoadedProblem β,
          q = { p with solution := if keep then some s else none, backend := b } →
          (∀ e, (Status.textOf s.status).mapError Fault.conversion = .error e → E e q) ∧
            Q s.status q)
      fun e b => E e { p with solution := none, backend := b }) :
    (solve runner).Ends p Q E := by
  obtain ⟨f, solution, released, backend⟩ := p
  obtain rfl : released = false := hp
  simp only [solve, Action.ends_bind, ends_checkAlive, Action.ends_change, Action.ends_read,
    Action.ends_onPart, Bool.false_eq_true, if_false, Action.ends_ofExcept]
  refine h.imp fun s b hs => ⟨fun keep hkeep => ?_, hs.1⟩
  have hreport : ∀ q : LoadedProblem β,
      q = ⟨f, if keep then some s else none, false, b⟩ →
      (if f.reports then do
          let text ← Action.ofExcept ((Status.textOf s.status).mapError Fault.conversion)
          Action.write ⟨.info, "lpsolver.engine", s!"{runner.name}: {text}"⟩
          pure s.status
        else pure s.status : Action (LoadedProblem β) Document).Ends q Q E := by
    intro q hq
    obtain ⟨hfault, hstatus⟩ := hs.2 keep hkeep q hq
    rw [Action.ends_ite, Action.ends_bind, Action.ends_ofExcept]
    exact ⟨fun _ => ⟨fun _ _ => hstatus, hfault⟩, fun _ => hstatus⟩
  cases keep with
  | true => exact hreport _ rfl
  | false => exact hreport _ rfl

/-- A run ends as its runner does: the solution is kept if its status is usable. -/
theorem ends_solve (hp : p.released = false)
    (h : (runner.run p.formulation).Ends p.backend
      (fun s b => ∃ k, s.status = .int k ∧ Q (.int k)
        { p with solution := if Status.isUsable (.int k) then some s else none, backend := b })
      fun e b => E e { p with solution := none, backend := b }) :
    (solve runner).Ends p Q E := by
  refine ends_solve_of_answer hp (h.imp fun s b hs => ?_)
  obtain ⟨k, hk, hq⟩ := hs
  have husable : usable s.status = .ok (Status.isUsable (.int k)) := by rw [hk]; rfl
  rw [husable, hk, Status.textOf_int]
  refine ⟨nofun, ?_⟩
  rintro keep hkeep q rfl
  obtain rfl := Except.ok.inj hkeep
  exact ⟨nofun, hq⟩

end LoadedProblem

/-! ## Reading the answer -/

/-- The duals that a solution is read to have; a solution without any has zeros. -/
def Solution.sensitivities (s : Solution) (f : Formulation) : Except Fault Tensor :=
  if s.duals.isPresent then Tensor.ofDocument s.duals
  else .ok (.ofScalars (List.replicate (1 + f.rows.length + f.columns) .zero))

theorem Solution.sensitivities_of_duals {s : Solution} {f : Formulation} {ds : List Scalar}
    (h : Tensor.ofDocument s.duals = .ok (.ofScalars ds)) :
    s.sensitivities f = .ok (.ofScalars ds) := by
  have hpresent : s.duals.isPresent = true := by
    cases hd : s.duals with
    | null =>
      rw [hd] at h
      cases h
    | _ => rfl
  rw [Solution.sensitivities, if_pos hpresent, h]

namespace LoadedProblem

variable {β : Type} {p : LoadedProblem β} {runner : Runner β}
variable {E : Fault → LoadedProblem β → Prop}

/-- What a caller reads after a run. -/
structure Reading where
  status : Document
  objective : Scalar
  values : Tensor
  duals : Tensor

/-- Runs the engine and reads the answer. -/
def reading (runner : Runner β) : Action (LoadedProblem β) Reading := do
  let status ← solve runner
  let z ← objective
  let xs ← values
  let ds ← duals
  return ⟨status, z, xs, ds⟩

section
variable {s : Solution}

theorem currentSolution_eq (hp : p.released = false) (hs : p.solution = some s) :
    currentSolution p = ⟨.ok s, p, []⟩ := by
  rw [currentSolution, Action.bind_eq_of_ok (checkAlive_of_alive hp), Action.read_bind, hs]
  rfl

theorem currentSolution_of_none (hp : p.released = false) (hs : p.solution = none) :
    currentSolution p = ⟨.error (.engine .noSolution), p, []⟩ := by
  rw [currentSolution, Action.bind_eq_of_ok (checkAlive_of_alive hp), Action.read_bind, hs]
  rfl

theorem currentSolution_of_released (hp : p.released = true) :
    currentSolution p = ⟨.error (.engine .deleted), p, []⟩ :=
  Action.bind_eq_of_error (checkAlive_of_released hp)

theorem objective_eq (hp : p.released = false) (hs : p.solution = some s) :
    objective p = ⟨s.objective.toScalar.mapError .conversion, p, []⟩ := by
  rw [objective, Action.bind_eq_of_ok (currentSolution_eq hp hs)]
  rfl

theorem values_eq (hp : p.released = false) (hs : p.solution = some s) :
    values p = ⟨Tensor.ofDocument s.values, p, []⟩ := by
  rw [values, Action.bind_eq_of_ok (currentSolution_eq hp hs)]
  rfl

theorem duals_eq (hp : p.released = false) (hs : p.solution = some s) :
    duals p = ⟨s.sensitivities p.formulation, p, []⟩ := by
  rw [duals, Action.bind_eq_of_ok (currentSolution_eq hp hs),
    Action.bind_eq_of_ok (show Action.read p = ⟨.ok p, p, []⟩ from rfl), Solution.sensitivities]
  split <;> rfl

end

/-- There is nothing to read if the problem is released or has no solution. -/
theorem reads_currentSolution (p : LoadedProblem β) :
    currentSolution.Reads p fun s => p.released = false ∧ p.solution = some s := by
  rw [Action.Reads, currentSolution, Action.ends_bind, ends_checkAlive]
  split
  · exact ⟨rfl, id⟩
  · rename_i hreleased
    rw [Action.ends_bind, Action.ends_read]
    cases hs : p.solution with
    | none => exact ⟨rfl, id⟩
    | some s => exact ⟨rfl, by simpa using hreleased, rfl⟩

theorem reads_objective (p : LoadedProblem β) :
    objective.Reads p fun z => ∃ s, p.solution = some s ∧ s.objective.toScalar = .ok z := by
  refine (reads_currentSolution p).bind fun s hs => ?_
  refine (Action.reads_ofExcept (clean_conversion _)).imp fun z hz => ?_
  exact ⟨s, hs.2, Computation.mapError_eq_ok.1 hz⟩

theorem reads_values (p : LoadedProblem β) :
    values.Reads p fun t => ∃ s, p.solution = some s ∧ Tensor.ofDocument s.values = .ok t := by
  refine (reads_currentSolution p).bind fun s hs => ?_
  exact (Action.reads_ofExcept (Tensor.clean_ofDocument _)).imp fun t ht => ⟨s, hs.2, ht⟩

theorem reads_duals (p : LoadedProblem β) :
    duals.Reads p fun t => ∃ s, p.solution = some s ∧ s.sensitivities p.formulation = .ok t := by
  refine (reads_currentSolution p).bind fun s hs => ?_
  have hread : (Action.read : Action (LoadedProblem β) _).Reads p fun q => q = p := ⟨rfl, rfl⟩
  refine hread.bind fun q hq => ?_
  subst hq
  split
  · rename_i hpresent
    refine (Action.reads_ofExcept (Tensor.clean_ofDocument _)).imp fun t ht => ⟨s, hs.2, ?_⟩
    rw [Solution.sensitivities, if_pos hpresent]
    exact ht
  · rename_i habsent
    refine ⟨rfl, s, hs.2, ?_⟩
    rw [Solution.sensitivities, if_neg habsent]

/-- A solution with a usable status is read back as it was written. -/
theorem ends_reading {Q : Reading → LoadedProblem β → Prop} (hp : p.released = false)
    (h : (runner.run p.formulation).Ends p.backend
      (fun s b => ∃ k z xs ds, s = ⟨.int k, .float z, .ofScalars xs, .ofScalars ds⟩ ∧
        Status.isUsable (.int k) = true ∧
        Q ⟨.int k, z, .ofScalars xs, .ofScalars ds⟩ { p with solution := some s, backend := b })
      fun e b => E e { p with solution := none, backend := b }) :
    (reading runner).Ends p Q E := by
  rw [reading, Action.ends_bind]
  refine ends_solve hp (h.imp fun s b hs => ?_)
  obtain ⟨k, z, xs, ds, rfl, hk, hq⟩ := hs
  refine ⟨k, rfl, ?_⟩
  rw [if_pos hk]
  generalize hr : ({ p with solution := some _, backend := b } : LoadedProblem β) = r at hq ⊢
  have hreleased : r.released = false := by rw [← hr]; exact hp
  have hsol : r.solution = some ⟨.int k, .float z, .ofScalars xs, .ofScalars ds⟩ := by rw [← hr]
  rw [Action.ends_bind, Action.Ends, objective_eq hreleased hsol]
  show (values >>= _ : Action (LoadedProblem β) Reading).Ends r Q E
  rw [Action.ends_bind, Action.Ends, values_eq hreleased hsol, Tensor.ofDocument_ofScalars]
  show (duals >>= _ : Action (LoadedProblem β) Reading).Ends r Q E
  rw [Action.ends_bind, Action.Ends, duals_eq hreleased hsol,
    Solution.sensitivities_of_duals (Tensor.ofDocument_ofScalars ds)]
  exact hq

end LoadedProblem

/-! ## Runs of the two forms -/

/-- How formulations are put to a backend and its answers turned into solutions: each well-formed
formulation has a form, which is the model that is made of it. -/
structure Translation (β M A : Type) where
  name : String
  model : Formulation → Except Fault M
  announcement : Formulation → M → LogEntry
  solution : Formulation → A → Action β Solution
  form : Formulation → M
  model_eq : ∀ {f : Formulation}, f.WellFormed → model f = .ok (form f)

namespace Translation

variable {β M A : Type} {t : Translation β M A} {backend : M → Action β A}

/-- Makes the model, announces it, hands it over and turns the answer into a solution. -/
def runner (t : Translation β M A) (backend : M → Action β A) : Runner β where
  name := t.name
  run := fun f => do
    let m ← Action.ofExcept (t.model f)
    Action.write (t.announcement f m)
    let a ← backend m
    t.solution f a

/-- A run hands over the form and turns the answer into a solution. -/
theorem ends_run {f : Formulation} {b : β} {Q : Solution → β → Prop} {E : Fault → β → Prop}
    (hf : f.WellFormed)
    (h : (backend (t.form f)).Ends b (fun a b' => (t.solution f a).Ends b' Q E) E) :
    ((t.runner backend).run f).Ends b Q E := by
  simpa [runner, t.model_eq hf] using h

end Translation

namespace SplitModel

variable {β : Type} {round : Rounding} {f : Formulation} {a : SplitAnswer}

/-- Formulations are put to a backend in split form. -/
def translation (round : Rounding) : Translation β SplitModel SplitAnswer where
  name := "HighsEngine"
  model := ofFormulation
  announcement := announcement
  solution := solution round
  form := Formulation.splitForm
  model_eq := ofFormulation_eq

theorem runner_eq (backend : SplitModel → Action β SplitAnswer) :
    runner round backend = (translation round).runner backend := rfl

/-- A run hands over the split form and turns the answer into a solution. -/
theorem ends_run {backend : SplitModel → Action β SplitAnswer} {b : β}
    {Q : Solution → β → Prop} {E : Fault → β → Prop} (hf : f.WellFormed)
    (h : (backend f.splitForm).Ends b (fun a b' => (solution round f a).Ends b' Q E) E) :
    ((runner round backend).run f).Ends b Q E := by
  rw [runner_eq]
  exact Translation.ends_run hf h

/-- A status is usable if the point counts, optimal or not. -/
theorem statusOf_of_usable {status : Document} {point : Option Document}
    (h : Status.isUsable (.int (statusOf status point)) = true) :
    statusOf status point = Status.optimal ∨ statusOf status point = Status.suboptimal := by
  revert h
  unfold statusOf
  repeat' split
  all_goals decide

theorem objectiveAt_ofScalars {xs : List Scalar} (h : xs.length = f.objective.length) :
    objectiveAt round f (.ofScalars xs) = .ok (Scalar.dot round f.objective xs) := by
  simp [objectiveAt, Tensor.ofScalars, h]

/-- What an answer with a point comes to. -/
theorem solution_of_point {d : Document} {xs ds : List Scalar}
    (hu : Status.isUsable (.int (statusOf a.status a.point)) = true) (hd : a.point = some d)
    (hx : Tensor.ofDocument d = .ok (.ofScalars xs)) (hn : xs.length = f.objective.length)
    (hds : duals round f a = .ok ds) (b : β) :
    solution round f a b =
      ⟨.ok ⟨.int (statusOf a.status a.point), .float (Scalar.dot round f.objective xs),
        .ofScalars xs, .ofScalars ds⟩, b, []⟩ := by
  have hz : objectiveAt round f _ = .ok _ := objectiveAt_ofScalars hn
  have hk : (statusOf a.status a.point != Status.optimal &&
      statusOf a.status a.point != Status.suboptimal) = false := by
    rcases statusOf_of_usable hu with h | h <;> rw [h] <;> rfl
  unfold solution
  simp only [hk, Bool.false_eq_true, if_false]
  rw [hd]
  simp only [hx, hds, Action.ofExcept_ok_bind, hz, Tensor.toDocument_ofScalars]
  rfl

end SplitModel

namespace NamedModel

variable {β : Type} {round : Rounding} {f : Formulation} {a : NamedAnswer}

/-- Formulations are put to a backend in named form. -/
def translation (round : Rounding) : Translation β NamedModel NamedAnswer where
  name := "CbcEngine"
  model := ofFormulation
  announcement := announcement
  solution := solution round
  form := Formulation.namedForm
  model_eq := ofFormulation_eq

theorem runner_eq (backend : NamedModel → Action β NamedAnswer) :
    runner round backend = (translation round).runner backend := rfl

/-- A run hands over the named form and turns the answer into a solution. -/
theorem ends_run {backend : NamedModel → Action β NamedAnswer} {b : β}
    {Q : Solution → β → Prop} {E : Fault → β → Prop} (hf : f.WellFormed)
    (h : (backend f.namedForm).Ends b (fun a b' => (solution round f a).Ends b' Q E) E) :
    ((runner round backend).run f).Ends b Q E := by
  rw [runner_eq]
  exact Translation.ends_run hf h

theorem length_firstOf (n : Nat) (ds : List Document) : (firstOf n ds).length = n := by
  simp [firstOf]

theorem statusOf_of_usable {status : Option NamedStatus} {feasible : Bool}
    (h : Status.isUsable (.int (statusOf status feasible)) = true) :
    statusOf status feasible = Status.optimal ∨ statusOf status feasible = Status.suboptimal := by
  revert h
  unfold statusOf
  repeat' split
  all_goals decide

/-- What an answer with a point comes to. -/
theorem solution_of_point {xs ds : List Scalar}
    (hu : Status.isUsable (.int (statusOf (some a.status) a.integerFeasible)) = true)
    (hx : (f.lower.zip (firstOf f.columns a.values)).mapM (fun p => valueOf p.1 p.2) = .ok xs)
    (hds : duals f a = .ok ds) (b : β) :
    solution round f a b =
      ⟨.ok ⟨.int (statusOf (some a.status) a.integerFeasible),
        .float (Scalar.dot round f.objective xs), .ofScalars xs, .ofScalars ds⟩, b, []⟩ := by
  have hk : (statusOf (some a.status) a.integerFeasible != Status.optimal &&
      statusOf (some a.status) a.integerFeasible != Status.suboptimal) = false := by
    rcases statusOf_of_usable hu with h | h <;> rw [h] <;> rfl
  unfold solution
  simp only [hk, Bool.false_eq_true, if_false, hx, hds]
  rfl

end NamedModel

end LinearPrograms
