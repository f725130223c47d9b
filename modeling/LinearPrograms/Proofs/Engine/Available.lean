import LinearPrograms.Engine.Scripted
import LinearPrograms.Proofs.Engine.Histories

/-!
# When a solution can be read

Objective, values and duals can be read exactly if the last run has earned them: the problem was
run, its last run answered with a status that counts as one of four codes (`Earned`), and it is not
released. Otherwise all three are refused. A refusal (`Refused`) is told from a fault of reading a
solution that is there, as that is never one (`refused_bind`).

* A run drops the solution of the run before it, and leaves one of its own exactly if it earns it,
  whatever the runner answers or fails with (`solve_earns`).
* Edits and questions leave the solution alone, so it follows the last of the answers through any
  history without a release (`tracks_performAll`).
* A released problem refuses edits, runs and readings, and no operation changes it any more
  (`performAll_of_released`).

The scaling and the text of a status are not part of a solution. They are answered at any time.
-/

namespace LinearPrograms

/-- A run earns its solution by an answer, with a status that counts as one of four codes. -/
def Earned (answer : Except Fault Document) : Prop :=
  ∃ status, answer = .ok status ∧ ∃ k ∈ ([0, 1, 11, 12] : List Int), status.isInteger k = true

theorem earned_ok {status : Document} : Earned (.ok status) ↔ Status.isUsable status = true := by
  simp [Earned, Status.isUsable, Status.usableCodes]

theorem earned_int {k : Int} : Earned (.ok (.int k)) ↔ k ∈ ([0, 1, 11, 12] : List Int) :=
  earned_ok.trans (Status.isUsable_int k)

theorem not_earned_error (e : Fault) : ¬Earned (.error e) := by
  rintro ⟨status, h, -⟩
  cases h

/-- There is no solution to read from: the problem is released, or was not solved. -/
def Refused {α : Type} (x : Except Fault α) : Prop :=
  x = .error (.engine .deleted) ∨ x = .error (.engine .noSolution)

section
variable {α : Type}

theorem not_refused_ok (a : α) : ¬Refused (.ok a : Except Fault α) := by
  rintro (h | h) <;> cases h

theorem not_refused_conversion (x : Except ConversionFault α) :
    ¬Refused (x.mapError Fault.conversion) := by
  cases x <;> simp [Refused, Except.mapError]

theorem not_refused_ofDocument (d : Document) : ¬Refused (Tensor.ofDocument d) := by
  rintro (h | h)
  · rcases Tensor.ofDocument_eq_error h with ⟨c, hc⟩ | ⟨c, hc⟩ <;> cases hc
  · rcases Tensor.ofDocument_eq_error h with ⟨c, hc⟩ | ⟨c, hc⟩ <;> cases hc

end

namespace Engine

variable {σ : Type}

/-- What a run answers. -/
def answered (engine : Engine σ) (s : σ) : Operation → Option (Except Fault Document)
  | .solve => some (engine.solve s).result
  | _ => none

/-- What the runs of a history answer, in order. -/
def answers (engine : Engine σ) (s : σ) (ops : List Operation) : List (Except Fault Document) :=
  engine.observed engine.answered s ops

theorem answers_eq_nil {engine : Engine σ} :
    ∀ {s : σ} {ops : List Operation}, engine.answers s ops = [] ↔ .solve ∉ ops
  | _, [] => by simp [answers, observed]
  | s, op :: ops => by
    have ih : engine.observed engine.answered (engine.perform s op) ops = [] ↔ .solve ∉ ops :=
      answers_eq_nil
    rw [answers, observed, List.append_eq_nil_iff, ih]
    cases op <;> simp [answered]

end Engine

namespace LoadedProblem

variable {β : Type} {p : LoadedProblem β} {runner : Runner β} {initial : β}

/-! ## Readings -/

/-- What is read from a solution is refused exactly if there is none. -/
theorem refused_bind {α : Type} {f : Solution → Action (LoadedProblem β) α}
    (hf : ∀ s, ¬Refused (f s p).result) :
    Refused ((currentSolution >>= f) p).result ↔ p.released = true ∨ p.solution = none := by
  cases hp : p.released with
  | true =>
    rw [Action.bind_eq_of_error (currentSolution_of_released hp)]
    exact iff_of_true (.inl rfl) (.inl rfl)
  | false =>
    cases hs : p.solution with
    | none =>
      rw [Action.bind_eq_of_error (currentSolution_of_none hp hs)]
      exact iff_of_true (.inr rfl) (.inr rfl)
    | some s =>
      rw [Action.bind_eq_of_ok (currentSolution_eq hp hs)]
      exact iff_of_false (hf s) (by simp)

theorem refused_objective :
    Refused (objective p).result ↔ p.released = true ∨ p.solution = none :=
  refused_bind fun _ => not_refused_conversion _

theorem refused_values : Refused (values p).result ↔ p.released = true ∨ p.solution = none :=
  refused_bind fun _ => not_refused_ofDocument _

theorem refused_duals : Refused (duals p).result ↔ p.released = true ∨ p.solution = none := by
  refine refused_bind fun s => ?_
  rw [Action.read_bind]
  split
  · exact not_refused_ofDocument _
  · exact not_refused_ok _

/-! ## Runs -/

/-- A status that is looked up is compared as it is, and has a text. -/
theorem usable_eq_ok {status : Document} {keep : Bool} (h : usable status = .ok keep) :
    keep = Status.isUsable status ∧ ∃ t, Status.textOf status = .ok t := by
  unfold usable at h
  cases hkey : status.asKey with
  | error e =>
    rw [hkey] at h
    cases h
  | ok key =>
    obtain rfl : status = key := by
      unfold Document.asKey at hkey
      split at hkey
      · cases hkey
      · cases hkey
      · exact Except.ok.inj hkey
    rw [hkey] at h
    refine ⟨(Except.ok.inj h).symm, ?_⟩
    simp only [Status.textOf, hkey, bind, Except.bind]
    split
    · exact ⟨_, rfl⟩
    · split <;> exact ⟨_, rfl⟩

/-- A run leaves a solution exactly if it earns it. -/
theorem solve_earns (runner : Runner β) (hp : p.released = false) :
    (solve runner p).state.solution ≠ none ↔ Earned (solve runner p).result := by
  have hends : (solve runner).Ends p (fun status q => q.solution ≠ none ↔ Earned (.ok status))
      fun _ q => q.solution = none := by
    refine ends_solve_of_answer hp (Action.ends_of_forall (fun s b => ⟨fun _ _ => rfl, ?_⟩)
      fun _ _ => rfl)
    rintro keep hkeep q rfl
    obtain ⟨rfl, t, ht⟩ := usable_eq_ok hkeep
    refine ⟨fun e he => ?_, ?_⟩
    · rw [ht] at he
      cases he
    · rw [earned_ok]
      cases Status.isUsable s.status <;> simp
  cases h : (solve runner p).result with
  | ok status => exact hends.ok h
  | error e => exact iff_of_false (fun hne => hne (hends.error h)) (not_earned_error e)

/-! ## Histories -/

/-- The problem is not released, and its solution is there exactly if the last answer earned it. -/
structure Tracks (p : LoadedProblem β) (answers : List (Except Fault Document)) : Prop where
  alive : p.released = false
  solution : p.solution ≠ none ↔ ∃ answer, answers.getLast? = some answer ∧ Earned answer

theorem tracks_create {rows columns : Int} {new : LoadedProblem β}
    (h : create initial rows columns = .ok new) : new.Tracks [] := by
  unfold create at h
  split at h
  · cases h
  · obtain rfl := Except.ok.inj h
    exact ⟨rfl, by simp⟩

/-- A run puts its own answer in the place of those before it; nothing else but a release bears on
the solution. -/
theorem Tracks.perform {answers : List (Except Fault Document)} (h : p.Tracks answers)
    {op : Operation} (hop : op ≠ .release) :
    ((Engine.ofRunner runner initial).perform p op).Tracks
      (answers ++ ((Engine.ofRunner runner initial).answered p op).toList) := by
  cases op with
  | release => exact absurd rfl hop
  | solve =>
    refine ⟨(solve_keeps runner p).2.trans h.alive, (solve_earns runner h.alive).trans ?_⟩
    simp only [Engine.answered, Option.toList_some, List.getLast?_concat, Option.some.injEq,
      exists_eq_left']
    rfl
  | scaling | statusText _ | objective | values | duals =>
    rw [perform_of_asks runner initial p rfl]
    simpa only [Engine.answered, Option.toList_none, List.append_nil] using h
  | edit e =>
    obtain ⟨f, hf⟩ := edit_formulates e p
    simp only [Engine.answered, Option.toList_none, List.append_nil]
    show (edit e p).state.Tracks answers
    rw [hf]
    exact ⟨h.alive, h.solution⟩

theorem tracks_performAll (runner : Runner β) (initial : β) {new : LoadedProblem β}
    (hnew : new.Tracks []) {ops : List Operation} (hops : .release ∉ ops) :
    ((Engine.ofRunner runner initial).performAll new ops).Tracks
      ((Engine.ofRunner runner initial).answers new ops) := by
  induction ops using List.reverseRecOn with
  | nil => exact hnew
  | append_singleton ops op ih =>
    rw [List.mem_append, List.mem_singleton, not_or] at hops
    rw [Engine.performAll_concat, Engine.answers, Engine.observed_concat]
    exact (ih hops.1).perform (Ne.symm hops.2)

/-- No operation changes a problem that was released. -/
theorem perform_of_released (runner : Runner β) (initial : β) (q : LoadedProblem β)
    (op : Operation) :
    (Engine.ofRunner runner initial).perform (release q).state op = (release q).state := by
  have hreleased : (release q).state.released = true := rfl
  cases op with
  | scaling | statusText _ | objective | values | duals =>
    exact perform_of_asks runner initial _ rfl
  | edit e =>
    show (edit e (release q).state).state = _
    rw [edit_of_released hreleased]
  | solve =>
    show (solve runner (release q).state).state = _
    rw [solve_of_released hreleased]
  | release => rfl

theorem performAll_of_released (runner : Runner β) (initial : β) (q : LoadedProblem β)
    (ops : List Operation) :
    (Engine.ofRunner runner initial).performAll (release q).state ops = (release q).state := by
  induction ops with
  | nil => rfl
  | cons op ops ih =>
    rw [Engine.performAll, List.foldl_cons, perform_of_released]
    exact ih

/-- After a release, the state is the one that a release left. -/
theorem exists_released (runner : Runner β) (initial : β) (new : LoadedProblem β)
    {ops : List Operation} (hops : .release ∈ ops) :
    ∃ q, (Engine.ofRunner runner initial).performAll new ops = (release q).state := by
  obtain ⟨before, after, rfl⟩ := List.append_of_mem hops
  rw [Engine.performAll_append]
  exact ⟨_, performAll_of_released runner initial _ after⟩

/-- After any history, objective, values and duals are refused exactly if the problem was released,
was never run, or its last run failed or answered with a status other than the four of a solution.
A problem that was released refuses every edit, run and reading, and nothing changes it. -/
theorem refused_iff_unearned (runner : Runner β) (initial : β) {rows columns : Int}
    {new : LoadedProblem β}
    (hnew : (Engine.ofRunner runner initial).create rows columns = .ok new)
    (ops : List Operation) :
    let engine := Engine.ofRunner runner initial
    let now := engine.performAll new ops
    let unearned := .release ∈ ops ∨ .solve ∉ ops ∨
      ∃ answer, (engine.answers new ops).getLast? = some answer ∧ ¬Earned answer
    (Refused (engine.objective now).result ↔ unearned) ∧
    (Refused (engine.values now).result ↔ unearned) ∧
    (Refused (engine.duals now).result ↔ unearned) ∧
    (.release ∈ ops →
      (∀ e, engine.edit e now = ⟨.error (.engine .deleted), now, []⟩) ∧
      engine.solve now = ⟨.error (.engine .deleted), now, []⟩ ∧
      engine.objective now = ⟨.error (.engine .deleted), now, []⟩ ∧
      engine.values now = ⟨.error (.engine .deleted), now, []⟩ ∧
      engine.duals now = ⟨.error (.engine .deleted), now, []⟩ ∧
      ∀ further, engine.performAll new (ops ++ further) = now) := by
  intro engine now unearned
  have hstate : (now.released = true ∨ now.solution = none) ↔ unearned := by
    by_cases hops : .release ∈ ops
    · -- whatever the runs answered, the problem stays released
      obtain ⟨q, hq⟩ := exists_released runner initial new hops
      refine iff_of_true (.inl ?_) (.inl hops)
      rw [show now = _ from hq]
      rfl
    · -- the last answer decides, and there is one exactly if there was a run
      obtain ⟨halive, hsolution⟩ := tracks_performAll runner initial (tracks_create hnew) hops
      have hlast : .solve ∉ ops ↔ (engine.answers new ops).getLast? = none := by
        rw [List.getLast?_eq_none_iff, Engine.answers_eq_nil]
      rw [show now.released = false from halive, ← not_iff_not, not_or, not_or, not_or, hlast]
      refine (and_iff_right (by simp)).trans (hsolution.trans ?_)
      rw [and_iff_right hops]
      cases (engine.answers new ops).getLast? with
      | none => simp
      | some answer => simp
  refine ⟨refused_objective.trans hstate, refused_values.trans hstate,
    refused_duals.trans hstate, fun hops => ?_⟩
  obtain ⟨q, hq⟩ := exists_released runner initial new hops
  have hnow : now = (release q).state := hq
  have hreleased : now.released = true := by
    rw [hnow]
    rfl
  have hsolution := currentSolution_of_released hreleased
  refine ⟨edit_of_released hreleased, solve_of_released hreleased,
    Action.bind_eq_of_error hsolution, Action.bind_eq_of_error hsolution,
    Action.bind_eq_of_error hsolution, fun further => ?_⟩
  rw [Engine.performAll_append, show engine.performAll new ops = _ from hq, hnow,
    performAll_of_released]

/-- An engine whose script has one run. -/
def onceEngine : Engine (LoadedProblem (List Solution)) :=
  .ofRunner Runner.scripted
    [{ status := .int 0, objective := .float .one, values := .ofScalars [.one] }]

/-- Two runs with an edit between them. -/
def rerun : List Operation := [.solve, .edit .maximize, .solve]

/-- The solution of a first run is there after it, and gone after a second run that fails. -/
theorem refused_iff_unearned_rerun :
    ∃ new, onceEngine.create 0 1 = .ok new ∧
      ¬Refused (onceEngine.values (onceEngine.performAll new [.solve])).result ∧
      Refused (onceEngine.values (onceEngine.performAll new rerun)).result := by
  obtain ⟨new, hnew⟩ : ∃ new, onceEngine.create 0 1 = .ok new := ⟨_, rfl⟩
  refine ⟨new, hnew, ?_, ?_⟩
  · rw [onceEngine, (refused_iff_unearned _ _ hnew _).2.1]
    obtain rfl := Except.ok.inj hnew
    rintro (h | h | ⟨answer, h, hunearned⟩)
    · simp at h
    · simp at h
    · obtain rfl : Except.ok (.int 0) = answer := Option.some.inj h
      exact hunearned (earned_int.2 (by decide))
  · rw [onceEngine, (refused_iff_unearned _ _ hnew _).2.1]
    obtain rfl := Except.ok.inj hnew
    exact .inr (.inr ⟨.error (.engine .noRunLeft), rfl, not_earned_error _⟩)

end LoadedProblem

end LinearPrograms
