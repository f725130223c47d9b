import LinearPrograms.Engine.Catalogue
import LinearPrograms.Proofs.Engine.Atomic
import LinearPrograms.Proofs.Engine.Running

/-!
# What is read after any history

A history is a list of operations on an engine's problem, in any order and number, each of which may
fail (`Engine.performAll`). The solution that is kept and the formulation are separate pieces of
state, so their lengths have to be followed through both:

* a formulation is `Aligned` from its creation on, whatever edits succeed, fail or tear a row, and
  its rows only grow (`Formulation.Aligned.edit`);
* a run of an aligned formulation keeps a solution that `Spans` the rows and columns of that run
  if the solutions that are made of answers do (`Translation.spanning_runner`);
* so after any history the solution spans the rows that the last run saw, and these are the first of
  the rows that are there now (`LoadedProblem.measures_performAll`).

The values that are read have one entry per column. The duals begin with a zero and are as many as
the last run had rows and columns, which is as many as there are now exactly if no row was added
since (`LoadedProblem.length_reading`).
-/

namespace LinearPrograms

/-- An operation on the problem of an engine. -/
inductive Operation where
  | edit (e : Edit)
  | solve
  | scaling
  | statusText (status : Document)
  | objective
  | values
  | duals
  | release

/-- Does the operation only ask for something? -/
def Operation.asks : Operation → Bool
  | .edit _ | .solve | .release => false
  | .scaling | .statusText _ | .objective | .values | .duals => true

namespace Engine

variable {σ : Type}

/-- The state that an operation leaves, also if it fails. -/
def perform (engine : Engine σ) (s : σ) : Operation → σ
  | .edit e => (engine.edit e s).state
  | .solve => (engine.solve s).state
  | .scaling => (engine.scaling s).state
  | .statusText status => (engine.statusText status s).state
  | .objective => (engine.objective s).state
  | .values => (engine.values s).state
  | .duals => (engine.duals s).state
  | .release => (engine.release s).state

/-- The state after operations one after the other. -/
def performAll (engine : Engine σ) (s : σ) (ops : List Operation) : σ :=
  ops.foldl engine.perform s

theorem performAll_append (engine : Engine σ) (s : σ) (ops ops' : List Operation) :
    engine.performAll s (ops ++ ops') = engine.performAll (engine.performAll s ops) ops' :=
  List.foldl_append

theorem performAll_concat (engine : Engine σ) (s : σ) (ops : List Operation) (op : Operation) :
    engine.performAll s (ops ++ [op]) = engine.perform (engine.performAll s ops) op :=
  engine.performAll_append s ops [op]

/-- What is seen of the operations of a history, each in the state in which it is performed. -/
def observed {α : Type} (engine : Engine σ) (see : σ → Operation → Option α) :
    σ → List Operation → List α
  | _, [] => []
  | s, op :: ops => (see s op).toList ++ engine.observed see (engine.perform s op) ops

theorem observed_concat {α : Type} (engine : Engine σ) (see : σ → Operation → Option α)
    (op : Operation) : ∀ (s : σ) (ops : List Operation), engine.observed see s (ops ++ [op]) =
      engine.observed see s ops ++ (see (engine.performAll s ops) op).toList
  | s, [] => by simp [observed, performAll]
  | s, op' :: ops => by
    rw [List.cons_append, observed, observed, observed_concat engine see op _ ops,
      List.append_assoc]
    rfl

end Engine

/-! ## Formulations that only grow -/

namespace Formulation

variable {f g : Formulation} {e : Edit}

/-- The lists that a solution is measured by have the lengths that rows and columns ask for. Unlike
`WellFormed` this says nothing of right-hand sides, so a torn row keeps it. -/
structure Aligned (f : Formulation) : Prop where
  objective : f.objective.length = f.columns
  lower : f.lower.length = f.columns
  relations : f.relations.length = f.rows.length

/-- A formulation has grown into another: the columns are the same, and more rows may follow. -/
def GrowsTo (f g : Formulation) : Prop := g.columns = f.columns ∧ f.rows <+: g.rows

theorem aligned_ofSize (rows columns : Nat) : (ofSize rows columns).Aligned where
  objective := List.length_replicate
  lower := List.length_replicate
  relations := by simp [ofSize]

theorem aligned_cleared (h : f.Aligned) : f.cleared.Aligned := { h with relations := rfl }

/-- A row and its relation are added together. -/
theorem Aligned.concat (h : f.Aligned) (c : List Scalar) (r : Relation) (bs : List Scalar) :
    Aligned { f with rows := f.rows ++ [c], relations := f.relations ++ [r], rhs := bs } := by
  refine { h with relations := ?_ }
  simp [h.relations]

theorem Aligned.effect (h : f.Aligned) (he : e.Effect f g) : g.Aligned ∧ f.GrowsTo g := by
  cases e with
  | verbosity level =>
    obtain ⟨v, -, rfl⟩ := he
    exact ⟨{ h with }, rfl, List.prefix_rfl⟩
  | maximize =>
    obtain rfl := he
    exact ⟨{ h with }, rfl, List.prefix_rfl⟩
  | minimize =>
    obtain rfl := he
    exact ⟨{ h with }, rfl, List.prefix_rfl⟩
  | objective row =>
    obtain ⟨c, hc, rfl⟩ := he
    exact ⟨{ h with objective := length_of_unpadded hc }, rfl, List.prefix_rfl⟩
  | lower column value =>
    obtain ⟨b, j, -, -, rfl⟩ := he
    exact ⟨{ h with lower := List.length_set.trans h.lower }, rfl, List.prefix_rfl⟩
  | upper column value =>
    obtain ⟨b, j, -, -, rfl⟩ := he
    exact ⟨{ h with }, rfl, List.prefix_rfl⟩
  | integer column flag =>
    obtain ⟨j, -, rfl⟩ := he
    exact ⟨{ h with }, rfl, List.prefix_rfl⟩
  | scaling mode =>
    obtain ⟨m, -, rfl⟩ := he
    exact ⟨{ h with }, rfl, List.prefix_rfl⟩
  | constraint row relation rhs =>
    obtain ⟨c, r, b, -, -, -, rfl⟩ := he
    exact ⟨h.concat c r _, rfl, List.prefix_append _ _⟩

/-- Whatever an edit answers, it leaves an aligned formulation that has only grown. -/
theorem Aligned.edit (h : f.Aligned) (e : Edit) :
    (f.edit e).2.Aligned ∧ f.GrowsTo (f.edit e).2 := by
  cases he : (f.edit e).1 with
  | ok u => exact h.effect (effect_of_edit (Prod.ext he rfl))
  | error fault =>
    rcases edit_of_error he with ⟨hf, -⟩ | ⟨r, c, -, hf⟩
    · rw [hf]
      exact ⟨h, rfl, List.prefix_rfl⟩
    · rw [hf]
      exact ⟨h.concat c r _, rfl, List.prefix_append _ _⟩

end Formulation

/-! ## Runs that answer every row and column -/

/-- The solution has a value for each column and, behind a zero, a dual for each row and column. -/
def Solution.Spans (s : Solution) (rows columns : Nat) : Prop :=
  ∃ xs ds, s.values = .ofScalars xs ∧ xs.length = columns ∧
    s.duals = .ofScalars (.zero :: ds) ∧ ds.length = rows + columns

/-- A solution whose status is usable spans the formulation. -/
def Solution.SpansIfUsable (s : Solution) (f : Formulation) : Prop :=
  ∃ k, s.status = .int k ∧
    (Status.isUsable (.int k) = true → s.Spans f.rows.length f.columns)

/-- A runner whose usable solutions span the formulations that it ran. -/
def Runner.Spanning {β : Type} (runner : Runner β) : Prop :=
  ∀ (f : Formulation) (b : β), f.Aligned →
    (runner.run f).Ends b (fun s _ => s.SpansIfUsable f) fun _ _ => True

/-- Whatever the backend answers, a run ends with the solution that is made of it, so it is enough
that these span the formulation. A formulation that cannot be put to the backend has no solution. -/
theorem Translation.spanning_runner {β M A : Type} {t : Translation β M A}
    (h : ∀ {f : Formulation}, f.Aligned → ∀ (a : A) (b : β),
      (t.solution f a).Ends b (fun s _ => s.SpansIfUsable f) fun _ _ => True)
    (backend : M → Action β A) : (t.runner backend).Spanning := by
  intro f b hf
  simp only [runner, Action.ends_bind, Action.ends_ofExcept, Action.ends_write]
  refine ⟨fun m _ => ?_, fun _ _ => trivial⟩
  exact Action.ends_of_forall (fun a b' => h hf a b') fun _ _ => trivial

/-- Zeros for a formulation with an integer column. -/
theorem replicate_spans (rows columns : Nat) :
    ∃ ds, List.replicate (1 + rows + columns) Scalar.zero = .zero :: ds ∧
      ds.length = rows + columns := by
  refine ⟨List.replicate (rows + columns) .zero, ?_, List.length_replicate⟩
  rw [Nat.add_assoc, Nat.add_comm 1, List.replicate_succ]

namespace SplitModel

open LinearPrograms.Computation

variable {β : Type} {round : Rounding} {f : Formulation} {a : SplitAnswer}

theorem length_marginals {size : Nat} {block : Document} {xs : List Scalar}
    (h : marginals size block = .ok xs) : xs.length = size := by
  unfold marginals at h
  split at h
  · obtain ⟨t, ht, h⟩ := bind_eq_ok.1 h
    split at h
    · rename_i hshape
      obtain rfl := pure_eq_ok.1 h
      rw [List.length_map, Tensor.length_entries ht hshape]
    · obtain rfl := pure_eq_ok.1 h
      exact List.length_replicate
  · cases h
    exact List.length_replicate

/-- The duals that an answer gives begin with a zero and are one per row and column. -/
theorem duals_spans (hf : f.Aligned) {ds : List Scalar} (h : duals round f a = .ok ds) :
    ∃ rest, ds = .zero :: rest ∧ rest.length = f.rows.length + f.columns := by
  simp only [duals] at h
  split at h
  · obtain rfl := pure_eq_ok.1 h
    exact replicate_spans _ _
  · obtain ⟨upper, -, h⟩ := bind_eq_ok.1 h
    obtain ⟨equal, -, h⟩ := bind_eq_ok.1 h
    obtain ⟨low, hlow, h⟩ := bind_eq_ok.1 h
    obtain ⟨high, hhigh, h⟩ := bind_eq_ok.1 h
    obtain rfl := pure_eq_ok.1 h
    refine ⟨_, rfl, ?_⟩
    simp [hf.relations, length_marginals hlow, length_marginals hhigh]

/-- A point with an objective has one entry per column. -/
theorem shape_of_objectiveAt {t : Tensor} {z : Scalar} (h : objectiveAt round f t = .ok z) :
    t.shape = [f.objective.length] := by
  simp only [objectiveAt] at h
  split at h
  · cases h
  · rename_i k hk
    split at h
    · rename_i hn
      rw [← List.reverse_reverse t.shape, hk, hn]
      rfl
    · cases h
  · split at h <;> cases h

theorem spans_solution (hf : f.Aligned) (a : SplitAnswer) (b : β) :
    (solution round f a).Ends b (fun s _ => s.SpansIfUsable f) fun _ _ => True := by
  unfold solution
  simp only
  split
  · -- a status that no point goes with is not usable
    rename_i hk
    simp only [Action.ends_bind, Action.ends_write, Action.ends_pure]
    refine ⟨_, rfl, fun hu => ?_⟩
    rcases statusOf_of_usable hu with h | h
    · simp [h] at hk
    · simp [h] at hk
  · cases a.point with
    | none => exact trivial
    | some d =>
      simp only [Action.ends_bind, Action.ends_ofExcept, Action.ends_pure]
      refine ⟨fun t ht => ⟨fun z hz => ⟨fun ds hds => ?_, fun _ _ => trivial⟩,
        fun _ _ => trivial⟩, fun _ _ => trivial⟩
      have hshape := shape_of_objectiveAt hz
      have hlen := Tensor.length_entries ht hshape
      have hvalues : t.toDocument = .ofScalars t.entries := by
        rw [Tensor.eq_ofScalars ht hshape, Tensor.toDocument_ofScalars]
        rfl
      obtain ⟨rest, rfl, hrest⟩ := duals_spans hf hds
      exact ⟨_, rfl, fun _ => ⟨t.entries, rest, hvalues, hlen.trans hf.objective, rfl, hrest⟩⟩

theorem spanning_runner (backend : SplitModel → Action β SplitAnswer) :
    (runner round backend).Spanning :=
  Translation.spanning_runner (t := translation round) spans_solution backend

end SplitModel

namespace NamedModel

open LinearPrograms.Computation

variable {β : Type} {round : Rounding} {f : Formulation} {a : NamedAnswer}

/-- The duals that an answer gives begin with a zero and are one per row and column. -/
theorem duals_spans {ds : List Scalar} (h : duals f a = .ok ds) :
    ∃ rest, ds = .zero :: rest ∧ rest.length = f.rows.length + f.columns := by
  simp only [duals] at h
  split at h
  · obtain rfl := pure_eq_ok.1 h
    exact replicate_spans _ _
  · obtain ⟨rows, hrows, h⟩ := bind_eq_ok.1 h
    obtain ⟨columns, hcolumns, h⟩ := bind_eq_ok.1 h
    obtain rfl := pure_eq_ok.1 h
    refine ⟨rows ++ columns, rfl, ?_⟩
    rw [List.length_append, length_mapM hrows, length_mapM hcolumns, length_firstOf, length_firstOf]

theorem spans_solution (hf : f.Aligned) (a : NamedAnswer) (b : β) :
    (solution round f a).Ends b (fun s _ => s.SpansIfUsable f) fun _ _ => True := by
  unfold solution
  simp only
  split
  · -- a status that no point goes with is not usable
    rename_i hk
    simp only [Action.ends_bind, Action.ends_write, Action.ends_pure]
    refine ⟨_, rfl, fun hu => ?_⟩
    rcases statusOf_of_usable hu with h | h
    · simp [h] at hk
    · simp [h] at hk
  · simp only [Action.ends_bind, Action.ends_ofExcept, Action.ends_pure]
    refine ⟨fun xs hxs => ⟨fun ds hds => ?_, fun _ _ => trivial⟩, fun _ _ => trivial⟩
    have hlen : xs.length = f.columns := by
      rw [length_mapM (mapError_eq_ok.1 hxs), List.length_zip, length_firstOf, hf.lower,
        Nat.min_self]
    obtain ⟨rest, rfl, hrest⟩ := duals_spans (mapError_eq_ok.1 hds)
    exact ⟨_, rfl, fun _ => ⟨xs, rest, rfl, hlen, rfl, hrest⟩⟩

theorem spanning_runner (backend : NamedModel → Action β NamedAnswer) :
    (runner round backend).Spanning :=
  Translation.spanning_runner (t := translation round) spans_solution backend

end NamedModel

theorem Backends.spanning {β : Type} {backends : Backends β} {round : Rounding} {initial : β}
    {name : String} {engine : Engine (LoadedProblem β)}
    (h : (name, engine) ∈ backends.catalogue round initial) :
    ∃ runner : Runner β, runner.Spanning ∧ engine = .ofRunner runner initial := by
  rcases List.mem_pair.1 h with h | h
  · cases h
    exact ⟨_, NamedModel.spanning_runner _, rfl⟩
  · cases h
    exact ⟨_, SplitModel.spanning_runner _, rfl⟩

namespace LoadedProblem

variable {β : Type} {p : LoadedProblem β}

/-! ## Histories -/

/-- Asking changes nothing, whether there is an answer or not. -/
theorem perform_of_asks (runner : Runner β) (initial : β) (p : LoadedProblem β) {op : Operation}
    (h : op.asks = true) : (Engine.ofRunner runner initial).perform p op = p := by
  cases op with
  | edit _ | solve | release => cases h
  | scaling | statusText _ => rfl
  | objective => exact (reads_objective p).state
  | values => exact (reads_values p).state
  | duals => exact (reads_duals p).state

/-- The solution, if there is one, spans the rows that the last run saw, and these are the first of
the rows that are there. -/
structure Measures (p : LoadedProblem β) (solved : Option (List (List Scalar))) : Prop where
  aligned : p.formulation.Aligned
  released : p.released = true → p.solution = none
  solution : ∀ s, p.solution = some s → ∃ rows, solved = some rows ∧
    s.Spans rows.length p.formulation.columns ∧ rows <+: p.formulation.rows

theorem measures_create {initial : β} {rows columns : Int} {new : LoadedProblem β}
    (h : create initial rows columns = .ok new) : new.Measures none := by
  unfold create at h
  split at h
  · cases h
  · obtain rfl := Except.ok.inj h
    exact ⟨Formulation.aligned_ofSize _ _, fun _ => rfl, fun s hs => by cases hs⟩

section
variable {runner : Runner β} {initial : β} {solved : Option (List (List Scalar))}

/-- An operation other than a run keeps the solution or drops it, and rows are only added to those
that it spans. -/
theorem Measures.perform (h : p.Measures solved) {op : Operation} (hop : op ≠ .solve) :
    ((Engine.ofRunner runner initial).perform p op).Measures solved := by
  cases op with
  | solve => exact absurd rfl hop
  | edit e =>
    show (LoadedProblem.edit e p).state.Measures solved
    by_cases hreleased : p.released = true
    · rw [edit_of_released hreleased]
      exact h
    · obtain ⟨haligned, hcolumns, hrows⟩ := h.aligned.edit e
      rw [edit_of_alive (by simpa using hreleased)]
      refine ⟨haligned, h.released, fun s hs => ?_⟩
      obtain ⟨rows, hsolved, hspans, hprefix⟩ := h.solution s hs
      exact ⟨rows, hsolved, hcolumns ▸ hspans, hprefix.trans hrows⟩
  | release =>
    exact ⟨Formulation.aligned_cleared h.aligned, fun _ => rfl, fun s hs => by cases hs⟩
  | scaling | statusText _ | objective | values | duals =>
    rwa [perform_of_asks runner initial p rfl]

/-- After a run the solution, if there is one, spans all the rows; a released problem is not run
and has none. -/
theorem Measures.solve (hrunner : runner.Spanning) (h : p.Measures solved) :
    (LoadedProblem.solve runner p).state.Measures (some p.formulation.rows) := by
  cases hreleased : p.released with
  | true =>
    rw [solve_of_released hreleased]
    refine ⟨h.aligned, h.released, fun s hs => ?_⟩
    rw [h.released hreleased] at hs
    cases hs
  | false =>
    have hends : (LoadedProblem.solve runner).Ends p
        (fun _ q => q.Measures (some p.formulation.rows))
        fun _ q => q.Measures (some p.formulation.rows) := by
      refine ends_solve hreleased ((hrunner p.formulation p.backend h.aligned).mono ?_ ?_)
      · rintro s b ⟨k, hk, hspans⟩
        refine ⟨k, hk, h.aligned, fun hr => ?_, fun s' hs' => ?_⟩
        · rw [show p.released = true from hr] at hreleased
          cases hreleased
        · by_cases hu : Status.isUsable (.int k) = true
          · rw [if_pos hu] at hs'
            obtain rfl := Option.some.inj hs'
            exact ⟨_, rfl, hspans hu, List.prefix_rfl⟩
          · rw [if_neg hu] at hs'
            cases hs'
      · intro e b _
        exact ⟨h.aligned, fun _ => rfl, fun s hs => by cases hs⟩
    exact hends.state

/-- The operations end with a run and operations other than runs after it, and `rows` are the rows
that this run saw. -/
def LastRunOn (engine : Engine (LoadedProblem β)) (new : LoadedProblem β) (ops : List Operation)
    (rows : List (List Scalar)) : Prop :=
  ∃ before after, ops = before ++ .solve :: after ∧ .solve ∉ after ∧
    (engine.performAll new before).formulation.rows = rows

theorem LastRunOn.concat {engine : Engine (LoadedProblem β)} {new : LoadedProblem β}
    {ops : List Operation} {rows : List (List Scalar)} (h : LastRunOn engine new ops rows)
    {op : Operation} (hop : op ≠ .solve) : LastRunOn engine new (ops ++ [op]) rows := by
  obtain ⟨before, after, rfl, hafter, hrows⟩ := h
  refine ⟨before, after ++ [op], by simp, ?_, hrows⟩
  rw [List.mem_append, List.mem_singleton]
  rintro (h | h)
  · exact hafter h
  · exact hop h.symm

/-- After any history, what there is of a solution spans the rows that the last run saw. -/
theorem measures_performAll (hrunner : runner.Spanning) (initial : β) {new : LoadedProblem β}
    (hnew : new.Measures none) (ops : List Operation) :
    ∃ solved, ((Engine.ofRunner runner initial).performAll new ops).Measures solved ∧
      ∀ rows, solved = some rows → LastRunOn (.ofRunner runner initial) new ops rows := by
  induction ops using List.reverseRecOn with
  | nil => exact ⟨none, hnew, fun rows hrows => by cases hrows⟩
  | append_singleton ops op ih =>
    obtain ⟨solved, hmeasures, hlast⟩ := ih
    rw [Engine.performAll_concat]
    by_cases hop : op = .solve
    · obtain rfl := hop
      refine ⟨_, hmeasures.solve hrunner, fun rows hrows => ?_⟩
      exact ⟨ops, [], rfl, List.not_mem_nil, Option.some.inj hrows⟩
    · exact ⟨solved, hmeasures.perform hop, fun rows hrows => (hlast rows hrows).concat hop⟩

end

section
variable {backends : Backends β} {round : Rounding} {initial : β} {name : String}
variable {engine : Engine (LoadedProblem β)} {rows columns : Int} {new : LoadedProblem β}

/-- After any history, the values that are read have one entry per column. The duals that are read
begin with a zero and are one per column and per row that the last run saw: they are one per column
and per row that is there now exactly if no row was added since that run. -/
theorem length_reading (hengine : (name, engine) ∈ backends.catalogue round initial)
    (hnew : engine.create rows columns = .ok new) (ops : List Operation) :
    (∀ t, (engine.values (engine.performAll new ops)).result = .ok t →
      ∃ xs, t = .ofScalars xs ∧
        xs.length = (engine.performAll new ops).formulation.columns) ∧
    (∀ t, (engine.duals (engine.performAll new ops)).result = .ok t →
      ∃ before after ds added, ops = before ++ .solve :: after ∧ .solve ∉ after ∧
        t = .ofScalars (.zero :: ds) ∧
        (engine.performAll new ops).formulation.rows =
          (engine.performAll new before).formulation.rows ++ added ∧
        ds.length = (engine.performAll new before).formulation.rows.length +
          (engine.performAll new ops).formulation.columns ∧
        (ds.length = (engine.performAll new ops).formulation.rows.length +
            (engine.performAll new ops).formulation.columns ↔ added = [])) := by
  obtain ⟨runner, hrunner, rfl⟩ := Backends.spanning hengine
  obtain ⟨solved, hmeasures, hlast⟩ :=
    measures_performAll hrunner initial (measures_create hnew) ops
  generalize (Engine.ofRunner runner initial).performAll new ops = now at hmeasures ⊢
  constructor
  · intro t ht
    obtain ⟨-, s, hs, ht⟩ := Action.Ends.ok (reads_values now) ht
    obtain ⟨rows, -, ⟨xs, ds, hxs, hlen, -⟩, -⟩ := hmeasures.solution s hs
    rw [hxs, Tensor.ofDocument_ofScalars] at ht
    exact ⟨xs, (Except.ok.inj ht).symm, hlen⟩
  · intro t ht
    obtain ⟨-, s, hs, ht⟩ := Action.Ends.ok (reads_duals now) ht
    obtain ⟨rows, hsolved, ⟨xs, ds, -, -, hds, hlen⟩, added, hrows⟩ := hmeasures.solution s hs
    obtain ⟨before, after, rfl, hafter, rfl⟩ := hlast rows hsolved
    rw [Solution.sensitivities_of_duals (by rw [hds, Tensor.ofDocument_ofScalars])] at ht
    refine ⟨before, after, ds, added, rfl, hafter, (Except.ok.inj ht).symm, hrows.symm, hlen, ?_⟩
    rw [hlen, ← hrows, List.length_append, ← List.length_eq_zero_iff]
    omega

end

/-- Backends that find one at the only column, without sensitivities. -/
def oneColumnBackends : Backends Unit where
  split := fun _ => Action.give { status := .int 0, point := some (.ofScalars [.one]) }
  named := fun _ => Action.give { status := .optimal, values := [.float .one] }

/-- The engine "highs" of these backends. -/
def oneColumnEngine : Engine (LoadedProblem Unit) :=
  .ofRunner (SplitModel.runner .exact oneColumnBackends.split) ()

/-- A run, and then the row `x ≤ 1`. -/
def rowAfterRun : List Operation :=
  [.solve, .edit (.constraint (.ofScalars [.zero, .one]) (.int 1) (.float .one))]

theorem length_reading_rowAfterRun :
    ("highs", oneColumnEngine) ∈ oneColumnBackends.catalogue .exact () ∧
      oneColumnEngine.create 0 1 = .ok fresh ∧
      ∃ xs, (oneColumnEngine.values (oneColumnEngine.performAll fresh rowAfterRun)).result =
          .ok (.ofScalars xs) ∧
        xs.length = (oneColumnEngine.performAll fresh rowAfterRun).formulation.columns := by
  have hengine : ("highs", oneColumnEngine) ∈ oneColumnBackends.catalogue .exact () :=
    List.mem_cons_of_mem _ List.mem_cons_self
  have hnew : oneColumnEngine.create 0 1 = .ok fresh := rfl
  have hread : (oneColumnEngine.values (oneColumnEngine.performAll fresh rowAfterRun)).result =
      .ok (.ofScalars [.one]) := rfl
  obtain ⟨xs, hxs, hlen⟩ := (length_reading hengine hnew rowAfterRun).1 _ hread
  exact ⟨hengine, hnew, xs, hxs ▸ hread, hlen⟩

/-- A row that is added after a run leaves duals that are one short. -/
theorem duals_shortOfRow :
    oneColumnEngine.create 0 1 = .ok fresh ∧
      (oneColumnEngine.duals (oneColumnEngine.performAll fresh rowAfterRun)).result =
        .ok (.ofScalars [.zero, .zero]) ∧
      (oneColumnEngine.performAll fresh rowAfterRun).formulation.rows.length = 1 ∧
      (oneColumnEngine.performAll fresh rowAfterRun).formulation.columns = 1 :=
  ⟨rfl, by with_unfolding_all rfl, rfl, rfl⟩

end LoadedProblem

end LinearPrograms
