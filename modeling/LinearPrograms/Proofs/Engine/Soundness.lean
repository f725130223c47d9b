import LinearPrograms.Engine.Catalogue
import LinearPrograms.Proofs.Engine.Agreement

/-!
# Engines on sound backends

`Backends.SoundFor` is all that is assumed of the backend of an engine: an answer that claims an
optimum has one for the model that was handed over, an answer that claims infeasibility was given
for a model that allows no point, and the solver's own fault is not among the backend's.
`Runner.Sound` is what follows for the formulation itself (`Translation.sound_runner`), whichever
form it was handed over in.
-/

namespace LinearPrograms

/-- A backend whose verdicts hold for the split models that it was handed. -/
structure SplitModel.SoundBackend {β : Type} (backend : SplitModel → Action β SplitAnswer) :
    Prop where
  optimal : ∀ {m b a}, (backend m b).result = .ok a → a.status.isInteger 0 = true →
    ∃ d x, a.point = some d ∧ d.ReadsAs x ∧ m.program.IsOptimal x
  infeasible : ∀ {m b a}, (backend m b).result = .ok a → a.status.isInteger 2 = true →
    ∀ x, m.program.allows x = false
  fault : ∀ {m b e}, (backend m b).result = .error e → ¬e.IsUnsolved

/-- A backend whose verdicts hold for the named models that it was handed. A point that is known to
be feasible only is not claimed to be optimal. -/
structure NamedModel.SoundBackend {β : Type} (backend : NamedModel → Action β NamedAnswer) :
    Prop where
  optimal : ∀ {m b a}, (backend m b).result = .ok a → a.status = .optimal →
    a.integerFeasible = false → ∃ xs, Document.toScalars a.values = .ok xs ∧
      Scalar.AllFinite xs ∧ m.program.IsOptimal (Scalar.rats xs)
  infeasible : ∀ {m b a}, (backend m b).result = .ok a → a.status = .infeasible →
    ∀ x, m.program.allows x = false
  fault : ∀ {m b e}, (backend m b).result = .error e → ¬e.IsUnsolved

/-- The name is that of an engine whose backend is sound. -/
def Backends.SoundFor {β : Type} (backends : Backends β) (name : String) : Prop :=
  name = "highs" ∧ SplitModel.SoundBackend backends.split ∨
    name = "cbc" ∧ NamedModel.SoundBackend backends.named

/-- A solution whose status holds for a formulation. -/
structure Solution.Answers (s : Solution) (f : Formulation) (k : Int) : Prop where
  status : s.status = .int k
  optimal : k = Status.optimal → ∃ xs ds,
    s = ⟨.int k, .float (Scalar.dot .exact f.objective xs), .ofScalars xs, .ofScalars ds⟩ ∧
      Scalar.AllFinite xs ∧ f.program.IsOptimal (Scalar.rats xs)
  infeasible : k = Status.infeasible → ∀ x, f.program.allows x = false

/-- A fault other than the want of a solution, in any state. -/
def Action.Other {σ : Type} (e : Fault) (_ : σ) : Prop := ¬e.IsUnsolved

/-- A runner whose solutions hold for the formulations that it ran. -/
def Runner.Sound {β : Type} (runner : Runner β) : Prop :=
  ∀ (f : Formulation) (b : β), f.WellFormed →
    (runner.run f).Ends b (fun s _ => ∃ k, s.Answers f k) Action.Other

theorem Action.ends_of_sound {σ α : Type} {x : Action σ α} {s : σ} {Q : α → σ → Prop}
    (hok : ∀ {a}, (x s).result = .ok a → Q a (x s).state)
    (herr : ∀ {e}, (x s).result = .error e → ¬e.IsUnsolved) :
    x.Ends s Q Action.Other := by
  unfold Ends
  split
  · exact hok ‹_›
  · exact herr ‹_›

/-- A runner is sound if the solutions that are made of the backend's answers hold for the formulation
whose form was handed over. -/
theorem Translation.sound_runner {β M A : Type} {t : Translation β M A} {backend : M → Action β A}
    (hfault : ∀ {m b e}, (backend m b).result = .error e → ¬e.IsUnsolved)
    (hsolution : ∀ {f b a}, f.WellFormed → (backend (t.form f) b).result = .ok a → ∀ b',
      (t.solution f a).Ends b' (fun s _ => ∃ k, s.Answers f k) Action.Other) :
    (t.runner backend).Sound := by
  intro f b hf
  refine ends_run hf (Action.ends_of_sound (fun ha => ?_) fun he => hfault he)
  exact hsolution hf ha _

namespace Formulation

variable {f g : Formulation}

/-- The optimum and the lack of points are the same for both programs. -/
theorem isOptimal_congr {p q : Program} (hallows : ∀ x, p.allows x = q.allows x)
    (hcost : p.cost = q.cost) {x : List Rat} : p.IsOptimal x ↔ q.IsOptimal x := by
  simp only [Program.IsOptimal, Program.costAt, hallows, hcost]

theorem isOptimal_splitForm (hf : f.WellFormed) {x : List Rat} :
    f.splitForm.program.IsOptimal x ↔ f.program.IsOptimal x :=
  isOptimal_congr (allows_splitForm hf) (cost_splitForm f)

theorem length_of_isOptimal (hf : f.WellFormed) {xs : List Scalar}
    (h : f.program.IsOptimal (Scalar.rats xs)) : xs.length = f.columns :=
  (Scalar.length_rats xs).symm.trans ((allows_iff hf).1 h.1).1

end Formulation

/-! ## Split models -/

namespace SplitModel

variable {f : Formulation} {a : SplitAnswer} {round : Rounding}

theorem clean_marginals (size : Nat) (d : Document) : Clean (marginals size d) := by
  unfold marginals
  split
  · refine clean_bind (Tensor.clean_ofDocument d) fun t => ?_
    split
    · exact clean_pure _
    · exact clean_pure _
  · exact clean_ok _

theorem clean_duals : Clean (duals round f a) := by
  unfold duals
  simp only
  split
  · exact clean_pure _
  · exact clean_bind (clean_marginals _ _) fun _ => clean_bind (clean_marginals _ _) fun _ =>
      clean_bind (clean_marginals _ _) fun _ => clean_bind (clean_marginals _ _) fun _ =>
        clean_pure _

theorem clean_objectiveAt (t : Tensor) : Clean (objectiveAt round f t) := by
  unfold objectiveAt
  simp only
  split
  · exact clean_error.2 id
  · split
    · exact clean_ok _
    · exact clean_error.2 id
  · split
    · exact clean_error.2 id
    · exact clean_error.2 id

theorem isInteger_of_optimal {status : Document} {point : Option Document}
    (h : statusOf status point = Status.optimal) : status.isInteger 0 = true := by
  revert h
  unfold statusOf
  split
  · exact fun _ => ‹_›
  · repeat' split
    all_goals exact fun h => absurd h (by decide)

theorem isInteger_of_infeasible {status : Document} {point : Option Document}
    (h : statusOf status point = Status.infeasible) : status.isInteger 2 = true := by
  revert h
  unfold statusOf
  repeat' split
  all_goals first
    | exact fun _ => ‹_›
    | exact fun h => absurd h (by decide)

/-- The solution that a sound answer gives holds for the formulation. -/
theorem ends_solution {β : Type} (hf : f.WellFormed)
    (hopt : a.status.isInteger 0 = true →
      ∃ d x, a.point = some d ∧ d.ReadsAs x ∧ f.splitForm.program.IsOptimal x)
    (hinf : a.status.isInteger 2 = true → ∀ x, f.splitForm.program.allows x = false) (b : β) :
    (solution .exact f a).Ends b (fun s _ => ∃ k, s.Answers f k) Action.Other := by
  have hinf' : statusOf a.status a.point = Status.infeasible → ∀ x, f.program.allows x = false := by
    intro h x
    rw [← Formulation.allows_splitForm hf]
    exact hinf (isInteger_of_infeasible h) x
  unfold solution
  simp only
  split
  · -- a status without a solution is not that of an optimum
    rename_i hk
    simp only [Action.ends_bind, Action.ends_write, Action.ends_pure]
    refine ⟨_, rfl, fun h => ?_, hinf'⟩
    rw [h] at hk
    cases hk
  · cases hpoint : a.point with
    | none =>
      simp only [Action.ends_fail]
      exact id
    | some d =>
      simp only [Action.ends_bind, Action.ends_ofExcept, Action.ends_pure]
      refine ⟨fun t ht => ⟨fun z hz => ⟨fun ds _ => ?_, ?_⟩, ?_⟩, ?_⟩
      · refine ⟨_, rfl, fun h => ?_, hpoint ▸ hinf'⟩
        obtain ⟨d', x, hd', ⟨xs, hxs, hfin, rfl⟩, hx⟩ :=
          hopt (isInteger_of_optimal h)
        rw [Formulation.isOptimal_splitForm hf] at hx
        obtain rfl : d = d' := Option.some.inj (hpoint.symm.trans hd')
        obtain rfl := Except.ok.inj (hxs.symm.trans ht)
        have hlen : xs.length = f.objective.length :=
          (Formulation.length_of_isOptimal hf hx).trans hf.objective.symm
        obtain rfl := Except.ok.inj ((objectiveAt_ofScalars hlen).symm.trans hz)
        exact ⟨xs, ds, by rw [Tensor.toDocument_ofScalars], hfin, hx⟩
      · exact clean_duals
      · exact clean_objectiveAt t
      · exact Tensor.clean_ofDocument d

theorem sound_runner {β : Type} {backend : SplitModel → Action β SplitAnswer}
    (h : SoundBackend backend) : (runner .exact backend).Sound :=
  Translation.sound_runner (t := translation .exact) h.fault fun hf ha =>
    ends_solution hf (h.optimal ha) (h.infeasible ha)

end SplitModel

/-! ## Named models -/

namespace NamedModel

variable {f : Formulation} {a : NamedAnswer}

theorem optimal_of_statusOf {status : NamedStatus} {feasible : Bool}
    (h : statusOf (some status) feasible = Status.optimal) :
    status = .optimal ∧ feasible = false := by
  revert h
  cases status <;> cases feasible <;> decide

theorem infeasible_of_statusOf {status : NamedStatus} {feasible : Bool}
    (h : statusOf (some status) feasible = Status.infeasible) : status = .infeasible := by
  revert h
  cases status <;> cases feasible <;> decide

/-- Columns that all have a value stand at these values. -/
theorem mapM_valueOf :
    ∀ {lower xs : List Scalar} {ds : List Document}, lower.length = ds.length →
      Document.toScalars ds = .ok xs →
      (lower.zip ds).mapM (fun p => valueOf p.1 p.2) = .ok xs
  | [], _, [], _, h => h
  | low :: lower, xs, d :: ds, hlen, h => by
    obtain ⟨x, ys, hx, hys, rfl⟩ :=
      List.forall₂_cons_left_iff.1 (Document.forall₂_of_toScalars h)
    have ih := mapM_valueOf (Nat.succ.inj hlen) (Computation.mapM_eq_ok.2 hys)
    have hvalue : valueOf low d = .ok x := by
      rw [valueOf, if_pos (Document.isPresent_of_toScalar hx)]
      exact hx
    rw [List.zip_cons_cons, List.mapM_cons, ih]
    simp only [hvalue]
    rfl

theorem point_of_values (hf : f.WellFormed) {xs : List Scalar}
    (h : Document.toScalars a.values = .ok xs) (hlen : xs.length = f.columns) :
    (f.lower.zip (firstOf f.columns a.values)).mapM (fun p => valueOf p.1 p.2) = .ok xs := by
  have hvalues : a.values.length = f.columns :=
    (Document.forall₂_of_toScalars h).length_eq.trans hlen
  rw [firstOf_of_length hvalues]
  exact mapM_valueOf (hf.lower.trans hvalues.symm) h

/-- The solution that a sound answer gives holds for the formulation. -/
theorem ends_solution {β : Type} (hf : f.WellFormed)
    (hopt : a.status = .optimal → a.integerFeasible = false →
      ∃ xs, Document.toScalars a.values = .ok xs ∧ Scalar.AllFinite xs ∧
        f.namedForm.program.IsOptimal (Scalar.rats xs))
    (hinf : a.status = .infeasible → ∀ x, f.namedForm.program.allows x = false) (b : β) :
    (solution .exact f a).Ends b (fun s _ => ∃ k, s.Answers f k) Action.Other := by
  rw [program_namedForm hf] at hopt hinf
  have hinf' : statusOf (some a.status) a.integerFeasible = Status.infeasible →
      ∀ x, f.program.allows x = false := fun h => hinf (infeasible_of_statusOf h)
  unfold solution
  simp only
  split
  · -- a status without a solution is not that of an optimum
    rename_i hk
    simp only [Action.ends_bind, Action.ends_write, Action.ends_pure]
    refine ⟨_, rfl, fun h => ?_, hinf'⟩
    rw [h] at hk
    cases hk
  · simp only [Action.ends_bind, Action.ends_ofExcept, Action.ends_pure]
    refine ⟨fun zs hzs => ⟨fun ds _ => ⟨_, rfl, fun h => ?_, hinf'⟩, clean_conversion _⟩,
      clean_conversion _⟩
    obtain ⟨hs, hi⟩ := optimal_of_statusOf h
    obtain ⟨xs, hxs, hfin, hx⟩ := hopt hs hi
    have hpoint := point_of_values hf hxs (Formulation.length_of_isOptimal hf hx)
    obtain rfl := Except.ok.inj (hpoint.symm.trans (Computation.mapError_eq_ok.1 hzs))
    exact ⟨xs, ds, rfl, hfin, hx⟩

theorem sound_runner {β : Type} {backend : NamedModel → Action β NamedAnswer}
    (h : SoundBackend backend) : (runner .exact backend).Sound :=
  Translation.sound_runner (t := translation .exact) h.fault fun hf ha =>
    ends_solution hf (h.optimal ha) (h.infeasible ha)

end NamedModel

end LinearPrograms
