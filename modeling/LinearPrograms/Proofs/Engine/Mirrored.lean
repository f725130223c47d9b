import LinearPrograms.Proofs.Action.Alike
import LinearPrograms.Proofs.Engine.Certificate
import LinearPrograms.Proofs.Engine.Histories
import LinearPrograms.Proofs.Scalar.Opposite
import LinearPrograms.Proofs.Solve.Handover

/-!
# Maximizing an objective and minimizing the opposite one

`Formulation.MirroredBy f g`: `f` maximizes an objective, `g` minimizes the opposite one, and they
agree in all else but how much they report. Two runs of such formulations are followed side by side
(`Computation.Alike`), up to the signs of zeros:

* both are handed over as one model but for the display (`SplitModel.ofFormulation_mirrored`), or
  refused with one fault;
* the sense enters the duals of rows and columns once each, so one answer gives opposite duals
  whatever the order of the relations and the shapes of its parts (`SplitModel.duals_mirrored`), and
  opposite values at its point (`SplitModel.objectiveAt_mirrored`);
* so one reply is turned into solutions that are `Solution.Opposed`, or into one fault
  (`SplitModel.run_mirrored`), and that is how they are read (`LoadedProblem.solve_mirrored`).
-/

namespace LinearPrograms

/-- One formulation maximizes an objective, and the other minimizes the opposite one. They agree in
all else but how much they report. -/
structure Formulation.MirroredBy (f g : Formulation) : Prop where
  maximized : f.maximize = true
  minimized : g.maximize = false
  objective : List.Forall₂ Scalar.Opposite f.objective g.objective
  rest : { f with maximize := g.maximize, objective := g.objective, verbosity := g.verbosity } = g

theorem Formulation.MirroredBy.eq {f g : Formulation} (h : f.MirroredBy g) :
    ∃ objective verbosity, g = { f with maximize := false, objective, verbosity } := by
  refine ⟨g.objective, g.verbosity, ?_⟩
  rw [← h.minimized]
  exact h.rest.symm

/-- The models that mirrored formulations are handed over as: only the display may differ. -/
structure SplitModel.Mirrored (f g : Formulation) (s t : SplitModel) : Prop where
  cost : List.Forall₂ Scalar.Same s.cost t.cost
  /-- The costs are the same to the signs of their zeros if the objectives are opposite so. -/
  exactCost : g.objective = f.objective.map Scalar.neg → s.cost = t.cost
  display : s.display = f.reports ∧ t.display = g.reports
  rest : { s with cost := t.cost, display := t.display } = t

/-- Solutions without a usable status have nothing but the status. Otherwise the values are the
same, and objective and duals are opposite. -/
inductive Solution.Opposed : Solution → Solution → Prop
  | unusable {k : Int} : Status.isUsable (.int k) = false →
      Opposed { status := .int k } { status := .int k }
  | usable {k : Int} {z w : Scalar} {xs ds es : List Scalar} : Status.isUsable (.int k) = true →
      z.Opposite w → List.Forall₂ Scalar.Opposite ds es →
      Opposed ⟨.int k, .float z, .ofScalars xs, .ofScalars ds⟩
        ⟨.int k, .float w, .ofScalars xs, .ofScalars es⟩

theorem Solution.Opposed.status {s s' : Solution} (h : s.Opposed s') :
    ∃ k, s.status = .int k ∧ s'.status = .int k := by
  cases h <;> exact ⟨_, rfl, rfl⟩

/-- All parts of the answer that a run looks at are arrays, the point one with an entry for each of
`n` coefficients. The marginals may be missing or of any shape. -/
structure SplitAnswer.Legible (a : SplitAnswer) (n : Nat) : Prop where
  point : Status.isUsable (.int (SplitModel.statusOf a.status a.point)) = true →
    ∃ d xs, a.point = some d ∧ Tensor.ofDocument d = .ok (.ofScalars xs) ∧ xs.length = n
  marginals : ∀ block ∈ [a.upperMarginals, a.equalMarginals, a.lowMarginals, a.highMarginals],
    block.isPresent = true → ∃ t, Tensor.ofDocument block = .ok t

/-- What is read after the two runs: status and values are the same, objective and duals opposite.
-/
structure LoadedProblem.Reading.Opposed (r r' : LoadedProblem.Reading) : Prop where
  status : r.status = r'.status
  values : r.values = r'.values
  objective : r.objective.Opposite r'.objective
  duals : ∃ ds es, r.duals = .ofScalars ds ∧ r'.duals = .ofScalars es ∧
    List.Forall₂ Scalar.Opposite ds es

namespace SplitModel

open Scalar LinearPrograms.Computation

variable {f g : Formulation} {a : SplitAnswer} {round : Rounding}

/-! ## What is handed over -/

/-- Nothing differs if the objectives are exactly opposite and both report or neither. -/
theorem Mirrored.eq {s t : SplitModel} (h : Mirrored f g s t)
    (hc : g.objective = f.objective.map neg) (hreports : f.reports = g.reports) : s = t := by
  rw [← h.rest, ← h.exactCost hc, h.display.2, ← hreports, ← h.display.1]

/-- Mirrored formulations are handed over as one model, or refused with one fault. -/
theorem ofFormulation_mirrored (h : f.MirroredBy g) :
    Alike (Mirrored f g) (ofFormulation f) (ofFormulation g) := by
  obtain ⟨c, v, rfl⟩ := h.eq
  unfold ofFormulation
  refine alike_bind_self fun les _ => alike_bind_self fun ges _ => alike_bind_self fun eqs _ => ?_
  have hcost : f.objective.map (negateIf f.maximize) = f.objective.map neg := by
    rw [h.maximized]
    rfl
  have hkept : c.map (negateIf false) = c := List.map_id c
  show Mirrored _ _ _ _
  simp only [hcost, hkept]
  exact {
    cost := List.forall₂_map_left_iff.2 (h.objective.imp fun _ _ hx => hx)
    exactCost := fun hc => hc.symm
    display := ⟨rfl, rfl⟩
    rest := rfl }

/-! ## What an answer comes to -/

theorem map_opposite {φ ψ : Scalar → Scalar} (h : ∀ x, Opposite (φ x) (ψ x)) (xs : List Scalar) :
    List.Forall₂ Opposite (xs.map φ) (xs.map ψ) := by
  rw [List.forall₂_map_left_iff, List.forall₂_map_right_iff, List.forall₂_same]
  exact fun x _ => h x

theorem headD_opposite {xs ys : List Scalar} (h : List.Forall₂ Opposite xs ys) :
    Opposite (xs.headD zero) (ys.headD zero) := by
  cases h with
  | nil => exact opposite_zero
  | cons hxy _ => exact hxy

theorem tail_opposite {xs ys : List Scalar} (h : List.Forall₂ Opposite xs ys) :
    List.Forall₂ Opposite xs.tail ys.tail := by
  cases h with
  | nil => exact .nil
  | cons _ hrest => exact hrest

/-- Opposite blocks give opposite duals to the rows, whatever the order of the relations. -/
theorem scatter_opposite :
    ∀ (rs : List Relation) {le ge eq le' ge' eq' : List Scalar}, List.Forall₂ Opposite le le' →
      List.Forall₂ Opposite ge ge' → List.Forall₂ Opposite eq eq' →
      List.Forall₂ Opposite (scatter rs le ge eq) (scatter rs le' ge' eq')
  | [], _, _, _, _, _, _, _, _, _ => .nil
  | .le :: rs, _, _, _, _, _, _, hle, hge, heq =>
    .cons (headD_opposite hle) (scatter_opposite rs (tail_opposite hle) hge heq)
  | .ge :: rs, _, _, _, _, _, _, hle, hge, heq =>
    .cons (headD_opposite hge) (scatter_opposite rs hle (tail_opposite hge) heq)
  | .eq :: rs, _, _, _, _, _, _, hle, hge, heq =>
    .cons (headD_opposite heq) (scatter_opposite rs hle hge (tail_opposite heq))

/-- One answer gives opposite duals to mirrored formulations, or the same fault. -/
theorem duals_mirrored (round : Rounding) (a : SplitAnswer) (h : f.MirroredBy g) :
    Alike (List.Forall₂ Opposite) (duals round f a) (duals round g a) := by
  obtain ⟨c, v, rfl⟩ := h.eq
  unfold duals
  show Alike _ (if f.hasInteger then _ else _) (if f.hasInteger then _ else _)
  split
  · exact List.forall₂_same.2 fun x hx => by
      rw [List.eq_of_mem_replicate hx]
      exact opposite_zero
  refine alike_bind_self fun upper _ => alike_bind_self fun equal _ => ?_
  refine alike_bind_self fun low _ => alike_bind_self fun high _ => ?_
  rw [h.maximized]
  have hsense : ∀ x, Opposite (negateIf true x) (negateIf false x) := neg_opposite
  have hturned : ∀ x, Opposite (-negateIf true x) (-negateIf false x) := fun x => neg_opposite (-x)
  show List.Forall₂ _ (List.map _ _) (List.map _ _)
  rw [List.forall₂_map_left_iff, List.forall₂_map_right_iff]
  refine List.Forall₂.imp (fun _ _ hxy => hxy.plusZero)
    (List.rel_append (.cons opposite_zero ?_) ?_)
  · exact scatter_opposite _ (map_opposite hsense _) (map_opposite hturned _)
      (map_opposite hsense _)
  · exact map_opposite hsense _

/-- One point has opposite values under mirrored formulations, or is refused with one fault. -/
theorem objectiveAt_mirrored (hround : round.Symmetric) (h : f.MirroredBy g) (t : Tensor) :
    Alike (fun z w => Opposite z w ∧ t.shape = [f.objective.length]) (objectiveAt round f t)
      (objectiveAt round g t) := by
  cases hz : objectiveAt round f t with
  | ok z =>
    have hshape := shape_of_objectiveAt hz
    have hother : objectiveAt round g t = .ok (dot round g.objective t.entries) := by
      simp [objectiveAt, hshape, h.objective.length_eq]
    have hown : objectiveAt round f t = .ok (dot round f.objective t.entries) := by
      simp [objectiveAt, hshape]
    obtain rfl := Except.ok.inj (hz.symm.trans hown)
    rw [hother]
    exact ⟨opposite_dot hround h.objective _, hshape⟩
  | error e =>
    -- a point is refused for its shape alone
    suffices hother : objectiveAt round g t = .error e by rw [hother]; exact rfl
    rw [← hz]
    unfold objectiveAt at hz ⊢
    simp only [h.objective.length_eq] at hz ⊢
    split
    · rfl
    · split
      · rename_i hn
        simp_all
      · rfl
    · split <;> rfl

/-- Where an answer's point is looked at, the status is usable. -/
theorem isUsable_of_pointed {k : Int}
    (h : ¬(k != Status.optimal && k != Status.suboptimal) = true) :
    Status.isUsable (.int k) = true := by
  have hk : k = Status.optimal ∨ k = Status.suboptimal := by
    simpa [or_iff_not_imp_left] using h
  rcases hk with rfl | rfl <;> rfl

/-- One answer comes to opposed solutions of mirrored formulations, or to the same fault. -/
theorem solution_mirrored {β γ : Type} (hround : round.Symmetric) (h : f.MirroredBy g)
    (a : SplitAnswer) :
    Action.Alike Solution.Opposed (solution round f a : Action β Solution)
      (solution round g a : Action γ Solution) := by
  unfold solution
  simp only
  split
  · rename_i hk
    refine (Action.alike_write _ _).bind fun _ _ _ => Action.alike_pure (.unusable ?_)
    rw [Bool.eq_false_iff]
    intro hu
    rcases statusOf_of_usable hu with h | h <;> simp [h] at hk
  · rename_i hk
    have husable := isUsable_of_pointed hk
    generalize statusOf a.status a.point = k at husable
    cases a.point with
    | none => exact Action.alike_fail _
    | some d =>
      refine (Action.alike_ofExcept (alike_self _)).bind fun t u ⟨htu, hpoint⟩ => ?_
      subst htu
      refine (Action.alike_ofExcept (objectiveAt_mirrored hround h t)).bind fun z w ⟨hzw, hn⟩ => ?_
      refine (Action.alike_ofExcept (duals_mirrored round a h)).bind fun ds es hds => ?_
      have hvalues : t.toDocument = .ofScalars t.entries := by
        rw [Tensor.eq_ofScalars hpoint hn, Tensor.toDocument_ofScalars]
        rfl
      rw [hvalues]
      exact Action.alike_pure (.usable husable hzw hds)

/-- A run with an answer comes to what is made of the answer. -/
theorem result_run {β : Type} {backend : SplitModel → Action β SplitAnswer} {b : β} {m : SplitModel}
    (hm : ofFormulation f = .ok m) (ha : (backend m b).result = .ok a) :
    ((runner round backend).run f b).result = (solution round f a (backend m b).state).result := by
  simp only [runner, hm, Action.ofExcept_ok_bind]
  rw [Action.result_bind_of_ok (a := ()) rfl]
  exact Action.result_bind_of_ok ha

/-- Mirrored formulations run to opposed solutions or to the same fault, wherever the backend gives
the same reply to what they are handed over as. -/
theorem run_mirrored {β : Type} {backend : SplitModel → Action β SplitAnswer} {b c : β}
    (hround : round.Symmetric) (h : f.MirroredBy g)
    (hreply : ∀ s t, ofFormulation f = .ok s → ofFormulation g = .ok t →
      (backend s b).result = (backend t c).result) :
    Alike Solution.Opposed ((runner round backend).run f b).result
      ((runner round backend).run g c).result := by
  have hforms := ofFormulation_mirrored h
  rcases alike_iff.1 hforms with ⟨e, hs, ht⟩ | ⟨s, t, hs, ht, -⟩
  · simp only [runner, hs, ht]
    exact rfl
  · have hanswer : Alike (fun a a' => a = a') (backend s b).result (backend t c).result := by
      rw [hreply s t hs ht]
      exact (alike_self _).imp fun _ _ ha => ha.1
    simp only [runner, hs, ht, Action.ofExcept_ok_bind]
    rw [Action.result_bind_of_ok (a := ()) rfl, Action.result_bind_of_ok (a := ()) rfl]
    exact Action.alike_result_bind hanswer fun a _ ha => ha ▸ solution_mirrored hround h a

/-! ## Answers that can be read -/

theorem exists_marginals (size : Nat) {block : Document}
    (h : block.isPresent = true → ∃ t, Tensor.ofDocument block = .ok t) :
    ∃ xs, marginals size block = .ok xs := by
  unfold marginals
  split
  · rename_i hpresent
    obtain ⟨t, ht⟩ := h hpresent
    rw [ht]
    by_cases hshape : t.shape = [size]
    · exact ⟨t.entries.map clamped, by simp [bind, Except.bind, hshape, pure, Except.pure]⟩
    · exact ⟨List.replicate size zero, by simp [bind, Except.bind, hshape, pure, Except.pure]⟩
  · exact ⟨_, rfl⟩

/-- Marginals that can be read leave duals, whatever their shapes. -/
theorem exists_duals_of_legible {n : Nat} (h : a.Legible n) (round : Rounding)
    (f : Formulation) : ∃ ds, duals round f a = .ok ds := by
  unfold duals
  simp only
  split
  · exact ⟨_, rfl⟩
  · obtain ⟨upper, hupper⟩ := exists_marginals (count .le f.relations + count .ge f.relations)
      (h.marginals a.upperMarginals (by simp))
    obtain ⟨equal, hequal⟩ := exists_marginals (count .eq f.relations)
      (h.marginals a.equalMarginals (by simp))
    obtain ⟨low, hlow⟩ := exists_marginals f.columns (h.marginals a.lowMarginals (by simp))
    obtain ⟨high, hhigh⟩ := exists_marginals f.columns (h.marginals a.highMarginals (by simp))
    rw [hupper, hequal, hlow, hhigh]
    exact ⟨_, rfl⟩

/-- The status of an answer that can be read is the one that the run ends with. -/
theorem solution_of_legible {β : Type} (h : a.Legible f.objective.length) (round : Rounding)
    (b : β) : ∃ s, (solution round f a b).result = .ok s ∧
      s.status = .int (statusOf a.status a.point) := by
  by_cases hu : Status.isUsable (.int (statusOf a.status a.point)) = true
  · obtain ⟨d, xs, hd, hx, hn⟩ := h.point hu
    obtain ⟨ds, hds⟩ := exists_duals_of_legible h round f
    rw [solution_of_point hu hd hx hn hds b]
    exact ⟨_, rfl, rfl⟩
  · have hk := not_not.1 (mt isUsable_of_pointed hu)
    have hends : (solution round f a).Ends b
        (fun s _ => s.status = .int (statusOf a.status a.point)) fun _ _ => False := by
      unfold solution
      simp only [hk, if_true, Action.ends_bind, Action.ends_write, Action.ends_pure]
    obtain ⟨s, hs, hstatus⟩ := hends.exists_result
    exact ⟨s, hs, hstatus⟩

end SplitModel

namespace LoadedProblem

open SplitModel LinearPrograms.Computation

variable {β : Type} {p q : LoadedProblem β} {round : Rounding}
variable {backend : SplitModel → Action β SplitAnswer} {runner : Runner β}

/-! ## The calls of a backend -/

/-- The models that the backend is called with when a problem is solved. -/
def calls (round : Rounding) (backend : SplitModel → Action β SplitAnswer) (p : LoadedProblem β) :
    List SplitModel :=
  (solve (SplitModel.runner round fun m => Action.noting m (backend m))
    { p with backend := (p.backend, []) }).state.backend.2

/-- The backend is called once, with the model that the formulation is handed over as, if any. -/
theorem calls_eq (hp : p.released = false) :
    calls round backend p = (ofFormulation p.formulation).toOption.toList := by
  have hends : (solve (SplitModel.runner round fun m => Action.noting m (backend m))).Ends
    { p with backend := (p.backend, []) } _ _ := ends_solve_any hp
  obtain ⟨solution, hstate⟩ := hends.state
  rw [calls, hstate]
  refine Action.Ends.state
    (P := fun s : β × List SplitModel => s.2 = (ofFormulation p.formulation).toOption.toList) ?_
  simp only [SplitModel.runner, Action.ends_bind, Action.ends_ofExcept, Action.ends_write]
  constructor
  · intro m hm
    rw [hm]
    refine Action.ends_noting.2 (Action.ends_of_forall (fun a b => ?_) fun _ _ => rfl)
    refine (reads_solution p.formulation a (b, [m])).mono ?_ ?_
    · rintro _ _ rfl
      rfl
    · rintro _ _ rfl
      rfl
  · intro e he
    rw [he]
    rfl

/-! ## What a run comes to -/

/-- The status of a solve is that of its run, where every answer of the run has an integer one. -/
theorem result_solve (hp : p.released = false)
    (h : ∀ s, (runner.run p.formulation p.backend).result = .ok s → ∃ k, s.status = .int k) :
    (solve runner p).result =
      (runner.run p.formulation p.backend).result.map Solution.status := by
  have hends : (solve runner).Ends p
      (fun d _ => (runner.run p.formulation p.backend).result.map Solution.status = .ok d)
      fun e _ => (runner.run p.formulation p.backend).result.map Solution.status = .error e := by
    refine ends_solve hp ?_
    unfold Action.Ends
    split
    · rename_i s hs
      obtain ⟨k, hk⟩ := h s hs
      exact ⟨k, hk, by rw [hs, ← hk]; rfl⟩
    · rename_i e he
      rw [he]
      rfl
  unfold Action.Ends at hends
  split at hends
  · rw [hends]
    assumption
  · rw [hends]
    assumption

/-- A usable solution of a run is read back as it was written. -/
theorem result_reading {k : Int} {z : Scalar} {xs ds : List Scalar} (hp : p.released = false)
    (hk : Status.isUsable (.int k) = true)
    (h : (runner.run p.formulation p.backend).result =
      .ok ⟨.int k, .float z, .ofScalars xs, .ofScalars ds⟩) :
    (reading runner p).result = .ok ⟨.int k, z, .ofScalars xs, .ofScalars ds⟩ := by
  have hends : (reading runner).Ends p
      (fun r _ => r = ⟨.int k, z, .ofScalars xs, .ofScalars ds⟩) fun _ _ => False := by
    refine ends_reading hp (Action.ends_of_result h ?_)
    exact ⟨_, _, _, _, rfl, hk, rfl⟩
  obtain ⟨r, hr, rfl⟩ := hends.exists_result
  exact hr

section
variable {runner' : Runner β}

/-- Runs that end in opposed solutions or in the same fault are solves that end alike. -/
theorem solve_opposed (hp : p.released = false) (hq : q.released = false)
    (h : Alike Solution.Opposed (runner.run p.formulation p.backend).result
      (runner'.run q.formulation q.backend).result) :
    (solve runner p).result = (solve runner' q).result := by
  rcases alike_iff.1 h with ⟨e, hs, hs'⟩ | ⟨s, s', hs, hs', hopposed⟩
  · rw [result_solve hp (by simp [hs]), result_solve hq (by simp [hs']), hs, hs']
  · obtain ⟨k, hk, hk'⟩ := hopposed.status
    rw [result_solve hp (by simp [hs, hk]), result_solve hq (by simp [hs', hk']), hs, hs']
    exact congrArg Except.ok (hk.trans hk'.symm)

/-- Opposed usable solutions are read as opposed. -/
theorem reading_opposed {s s' : Solution} {k : Int} (hp : p.released = false)
    (hq : q.released = false) (hs : (runner.run p.formulation p.backend).result = .ok s)
    (hs' : (runner'.run q.formulation q.backend).result = .ok s') (h : s.Opposed s')
    (hstatus : s.status = .int k) (hk : Status.isUsable (.int k) = true) :
    ∃ r r', (reading runner p).result = .ok r ∧ (reading runner' q).result = .ok r' ∧
      r.Opposed r' := by
  cases h with
  | unusable hu =>
    obtain rfl := Document.int.inj hstatus
    rw [hk] at hu
    cases hu
  | usable hu hz hds =>
    exact ⟨_, _, result_reading hp hu hs, result_reading hq hu hs', rfl, rfl, hz, _, _, rfl, rfl,
      hds⟩

end

/-- Mirrored problems call the backend with one model but for the display. -/
theorem calls_mirrored (round : Rounding) (backend : SplitModel → Action β SplitAnswer)
    (hp : p.released = false) (hq : q.released = false)
    (h : p.formulation.MirroredBy q.formulation) :
    List.Forall₂ (Mirrored p.formulation q.formulation) (calls round backend p)
      (calls round backend q) := by
  rw [calls_eq hp, calls_eq hq]
  rcases alike_iff.1 (ofFormulation_mirrored h) with ⟨e, hs, ht⟩ | ⟨s, t, hs, ht, hst⟩
  · simp [hs, ht, Except.toOption]
  · simp [hs, ht, hst, Except.toOption]

/-- Maximizing an objective and minimizing the opposite one come to the same. The backend is called
with one model but for the display, which follows how much each engine reports. Wherever it gives
the same reply to both, both solves end with the same status or the same fault; the status is that
of any answer that can be read, and if it is usable, the values are the same, and objective and
duals are opposite. -/
theorem solve_mirrored (hround : round.Symmetric) (hp : p.released = false)
    (hq : q.released = false) (h : p.formulation.MirroredBy q.formulation)
    (hreplies : ∀ m ∈ calls round backend p, ∀ m' ∈ calls round backend q,
      (backend m p.backend).result = (backend m' q.backend).result) :
    let runner := SplitModel.runner round backend
    List.Forall₂ (Mirrored p.formulation q.formulation) (calls round backend p)
        (calls round backend q) ∧
      (q.formulation.objective = p.formulation.objective.map Scalar.neg →
        p.formulation.reports = q.formulation.reports →
        calls round backend p = calls round backend q) ∧
      (solve runner p).result = (solve runner q).result ∧
      ∀ m ∈ calls round backend p, ∀ a, (backend m p.backend).result = .ok a →
        a.Legible p.formulation.objective.length →
        (solve runner p).result = .ok (.int (statusOf a.status a.point)) ∧
        (Status.isUsable (.int (statusOf a.status a.point)) = true →
          ∃ r r', (reading runner p).result = .ok r ∧ (reading runner q).result = .ok r' ∧
            r.Opposed r') := by
  intro runner
  have hcalls := calls_mirrored round backend hp hq h
  have hruns : Alike Solution.Opposed (runner.run p.formulation p.backend).result
      (runner.run q.formulation q.backend).result := by
    refine SplitModel.run_mirrored hround h fun s t hs ht => hreplies s ?_ t ?_
    · simp [calls_eq hp, hs, Except.toOption]
    · simp [calls_eq hq, ht, Except.toOption]
  refine ⟨hcalls, fun hc hreports => ?_, solve_opposed hp hq hruns, fun m hm a ha hlegible => ?_⟩
  · exact List.forall₂_eq_eq_eq ▸ hcalls.imp fun s t hst => hst.eq hc hreports
  · have hform : ofFormulation p.formulation = .ok m := by
      rw [calls_eq hp] at hm
      cases hf : ofFormulation p.formulation <;> simp_all [Except.toOption]
    obtain ⟨s, hsolution, hstatus⟩ := solution_of_legible hlegible round
      (backend m p.backend).state
    have hs : (runner.run p.formulation p.backend).result = .ok s :=
      (result_run hform ha).trans hsolution
    rw [hs] at hruns
    rcases alike_iff.1 hruns with ⟨e, he, -⟩ | ⟨_, s', hs₁, hs', hopposed⟩
    · cases he
    · obtain rfl := Except.ok.inj hs₁
      refine ⟨?_, reading_opposed hp hq hs hs' hopposed hstatus⟩
      rw [result_solve hp (by simp [hs, hstatus]), hs, ← hstatus]
      rfl

/-- Minimize `-3x - 2y` under the bounds and rows of `mixedRowEdits`. -/
def mirroredRowEdits : List Edit :=
  let row := fun qs : List Rat => Document.ofScalars (qs.map Scalar.finite)
  [.minimize, .objective (row [0, -3, -2]), .upper (.int 1) (.float (.finite 3)),
   .constraint (row [0, 1, 1]) (.int 2) (.float (.finite 1)),
   .constraint (row [0, 1, -1]) (.int 3) (.float (.finite 1)),
   .constraint (row [0, 1, 2]) (.int 1) (.float (.finite 7))]

/-- A new problem with two columns after edits. -/
def edited (edits : List Edit) : LoadedProblem Unit :=
  (editAll edits { formulation := .ofSize 0 2, backend := () }).state

theorem solve_mirrored_mixed :
    let p := edited mixedRowEdits
    let q := edited mirroredRowEdits
    let runner := SplitModel.runner .nearest mixedRowBackend
    p.formulation.MirroredBy q.formulation ∧ p.formulation.relations = [.ge, .eq, .le] ∧
      calls .nearest mixedRowBackend p = calls .nearest mixedRowBackend q ∧
      ∃ r r', (reading runner p).result = .ok r ∧ (reading runner q).result = .ok r' ∧
        r.Opposed r' := by
  intro p q runner
  have hmirrored : p.formulation.MirroredBy q.formulation := ⟨rfl, rfl, by decide, rfl⟩
  have hcall : ∃ m, m ∈ calls .nearest mixedRowBackend p := ⟨_, List.mem_singleton_self _⟩
  obtain ⟨m, hm⟩ := hcall
  have hlegible : mixedRowAnswer.Legible p.formulation.objective.length := by
    refine ⟨fun _ => ⟨_, _, rfl, Tensor.ofDocument_ofScalars _, rfl⟩, ?_⟩
    intro block hblock _
    simp only [List.mem_cons, List.not_mem_nil, or_false] at hblock
    rcases hblock with rfl | rfl | rfl | rfl <;> exact ⟨_, Tensor.ofDocument_ofScalars _⟩
  have hreplies : ∀ m ∈ calls .nearest mixedRowBackend p, ∀ m' ∈ calls .nearest mixedRowBackend q,
      (mixedRowBackend m p.backend).result = (mixedRowBackend m' q.backend).result :=
    fun _ _ _ _ => rfl
  obtain ⟨-, hsame, -, hread⟩ :=
    solve_mirrored Rounding.symmetric_nearest rfl rfl hmirrored hreplies
  exact ⟨hmirrored, rfl, hsame rfl rfl, (hread m hm mixedRowAnswer rfl hlegible).2 (by decide)⟩

/-- How much is reported is no part of the mirroring, and the display follows it. -/
theorem calls_verbosity :
    ∃ p q : LoadedProblem Unit, p.formulation.MirroredBy q.formulation ∧
      q.formulation.objective = p.formulation.objective.map Scalar.neg ∧
      calls .nearest mixedRowBackend p ≠ calls .nearest mixedRowBackend q := by
  refine ⟨edited mixedRowEdits, edited (.verbosity (.int 4) :: mirroredRowEdits),
    ⟨rfl, rfl, by decide, rfl⟩, rfl, fun h => ?_⟩
  rw [calls_eq rfl, calls_eq rfl] at h
  have hdisplay := congrArg (List.map SplitModel.display) h
  revert hdisplay
  decide

end LoadedProblem

end LinearPrograms
