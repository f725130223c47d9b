import LinearPrograms.Proofs.Solve.Admission
import LinearPrograms.Proofs.Solve.Formulating

/-!
# What a solve collects

The outcome of a solve is put together from three answers of its engine, which are asked for after the
last run (`Request.collected_of_solve`): the objective as it is, and the values and the duals as rows
of known lengths. If the arrays that an engine answers have as many entries as their shapes say
(`Engine.AnswersArrays`), so do the rows, and the outcome has a value for each variable, and a dual
for each variable and constraint behind a first one (`Request.lengths_of_solve`).
-/

namespace LinearPrograms

namespace Engine

variable {σ β : Type}

/-- The values and the duals that the engine answers have as many entries as their shapes say. -/
structure AnswersArrays (engine : Engine σ) : Prop where
  values : ∀ s t, (engine.values s).result = .ok t → t.Full
  duals : ∀ s t, (engine.duals s).result = .ok t → t.Full

theorem full_sensitivities {s : Solution} {f : Formulation} {t : Tensor}
    (h : s.sensitivities f = .ok t) : t.Full := by
  unfold Solution.sensitivities at h
  split at h
  · exact Tensor.full_ofDocument h
  · obtain rfl := Except.ok.inj h
    exact Tensor.full_ofScalars _

/-- An engine that keeps a formulation reads its arrays from documents. -/
theorem answersArrays_ofRunner (runner : Runner β) (initial : β) :
    (ofRunner runner initial).AnswersArrays where
  values p t h := by
    obtain ⟨-, s, -, ht⟩ := (LoadedProblem.reads_values p).ok h
    exact Tensor.full_ofDocument ht
  duals p t h := by
    obtain ⟨-, s, -, ht⟩ := (LoadedProblem.reads_duals p).ok h
    exact full_sensitivities ht

end Engine

namespace Request

variable {σ : Type} {engine : Engine σ} {r : Request} {choice : EngineChoice σ} {o : Outcome}
  {n m : Nat}

/-- The outcome is put together from answers of the engine. -/
structure Collected (engine : Engine σ) (n m : Nat) (o : Outcome) : Prop where
  objective : ∃ z, o.objective = .float z
  values : ∃ s t, (engine.values s).result = .ok t ∧ t.spread n = .ok o.values
  duals : ∃ s t, (engine.duals s).result = .ok t ∧ t.spread (n + m + 1) = .ok o.duals

theorem ends_collect (engine : Engine σ) (n m : Nat) (s : Session σ) :
    (collect engine n m).Ends s (fun o _ => Collected engine n m o) fun _ _ => True := by
  have hask : ∀ {α : Type} (x : Action σ α) (s : Session σ), (Session.ask x).Ends s
      (fun a _ => (x s.state).result = .ok a) fun _ _ => True := fun x s =>
    Session.ends_ask.2 (Action.ends_reply x s.state)
  rw [collect]
  refine Action.ends_bind_of_forall fun z s => ?_
  refine (hask engine.values s).bind fun point t hpoint => ?_
  rw [Action.ends_bind, Action.ends_ofExcept]
  refine ⟨fun values hvalues => ?_, fun _ _ => trivial⟩
  refine (hask engine.duals t).bind fun sensitivities u hsensitivities => ?_
  rw [Action.ends_bind, Action.ends_ofExcept]
  refine ⟨fun duals hduals => ?_, fun _ _ => trivial⟩
  exact ⟨⟨z, rfl⟩, ⟨_, point, hpoint, Computation.mapError_eq_ok.1 hvalues⟩,
    _, sensitivities, hsensitivities, Computation.mapError_eq_ok.1 hduals⟩

/-- What comes after an outcome is collected leaves it as it is. -/
theorem ends_drive_collected (engine : Engine σ) (r : Request) (n : Nat) (cs : List Constraint)
    (s : Session σ) :
    (drive engine r n cs).Ends s (fun o _ => Collected engine n cs.length o) fun _ _ => True := by
  have hsession : (session engine r n cs).Ends s
      (fun ko _ => Collected engine n cs.length ko.2) fun _ _ => True := by
    rw [session]
    refine Action.ends_bind_of_forall fun _ t => ?_
    refine Action.ends_bind_of_forall fun kind t => ?_
    exact (ends_collect engine n cs.length t).bind fun o t ho => ho
  rw [drive, Action.ends_bind, Action.ends_finallyDo]
  refine hsession.mono (fun ko t hko => ?_) fun e t _ => ?_
  · exact Action.ends_of_forall (fun _ _ => hko) fun _ _ => trivial
  · exact Action.ends_of_forall (fun _ _ => trivial) fun _ _ => trivial

/-- A solve that returns has collected its outcome from the engine that was chosen, for the numbers
of variables and constraints that were checked. -/
theorem collected_of_solve (h : (r.solve choice).result = .ok o) :
    ∃ n cs engine, r.check = .ok (n, cs) ∧ choice.resolve = .ok engine ∧
      Collected engine n cs.length o := by
  unfold solve at h
  split at h
  · cases h
  · rename_i n cs hcheck
    split at h
    · cases h
    · rename_i engine hresolve
      simp only at h
      split at h
      · cases h
      · exact ⟨n, cs, engine, hcheck, hresolve, (ends_drive_collected _ _ _ _ _).ok h⟩

/-- A solve that returns has a scalar for its objective. -/
theorem objective_of_solve (h : (r.solve choice).result = .ok o) : ∃ z, o.objective = .float z := by
  obtain ⟨n, cs, engine, -, -, hcollected⟩ := collected_of_solve h
  exact hcollected.objective

/-- A solve that returns has a value for each variable, and a dual for each variable and constraint
behind a first one. -/
theorem lengths_of_solve (hchoice : ∀ engine, choice.resolve = .ok engine → engine.AnswersArrays)
    (h : (r.solve choice).result = .ok o) :
    r.objective.length? = some o.values.length ∧
      o.duals.length = o.values.length + r.constraints.length + 1 := by
  obtain ⟨n, cs, engine, hcheck, hresolve, hcollected⟩ := collected_of_solve h
  obtain ⟨hn, hcs⟩ := length_of_check hcheck
  have hengine : engine.AnswersArrays := hchoice engine hresolve
  obtain ⟨s, t, ht, hvalues⟩ := hcollected.values
  obtain ⟨s', t', ht', hduals⟩ := hcollected.duals
  have hlenValues : o.values.length = n := Tensor.length_of_spread (hengine.values s t ht) hvalues
  have hlenDuals := Tensor.length_of_spread (hengine.duals s' t' ht') hduals
  rw [hlenValues, hlenDuals, hcs]
  exact ⟨hn, rfl⟩

end Request

end LinearPrograms
