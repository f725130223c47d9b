import LinearPrograms.Proofs.Solve.Runs

/-!
# The models that a solve hands over

The backends note each model before they answer it (`Backends.noting`). A run of an engine of the
catalogue hands over one model, the form of the formulation that it runs
(`Translation.notes_runner`), so the models of a solve follow from its runs:
there are at most two, and the second is the first one but for what turns scaling off
(`Request.solve_handover`).
-/

namespace LinearPrograms

/-- The backends, with a note of each model that they are handed. -/
def Backends.noting {β : Type} (backends : Backends β) :
    Backends (β × List (SplitModel ⊕ NamedModel)) where
  split := fun m => Action.noting (.inl m) (backends.split m)
  named := fun m => Action.noting (.inr m) (backends.named m)

/-- If making a solution of an answer leaves the backend alone, each run adds the one note of the form
that it hands over. -/
theorem Translation.notes_runner {β ν M A : Type} {t : Translation (β × List ν) M A}
    (h : ∀ f a s, (t.solution f a).Ends s (fun _ s' => s' = s) fun _ s' => s' = s) (note : M → ν)
    (backend : M → Action β A) :
    (t.runner fun m => Action.noting (note m) (backend m)).Notes fun f => note (t.form f) := by
  intro f b notes hf
  have hrun : ((t.runner fun m => Action.noting (note m) (backend m)).run f).Ends (b, notes)
      (fun _ s => ∃ b', s = (b', notes ++ [note (t.form f)]))
      fun _ s => ∃ b', s = (b', notes ++ [note (t.form f)]) :=
    ends_run hf (Action.noted_of_reads fun a s => h f a s)
  exact hrun.state

namespace SplitModel

variable {β : Type} {round : Rounding}

/-- Making a solution of an answer leaves the backend alone. -/
theorem reads_solution (f : Formulation) (a : SplitAnswer) (b : β) :
    (solution round f a).Ends b (fun _ b' => b' = b) fun _ b' => b' = b := by
  unfold solution
  simp only
  split
  · simp only [Action.ends_bind, Action.ends_write, Action.ends_pure]
  · cases a.point with
    | none => exact rfl
    | some d =>
      simp only [Action.ends_bind, Action.ends_ofExcept, Action.ends_pure]
      exact ⟨fun _ _ => ⟨fun _ _ => ⟨fun _ _ => trivial, fun _ _ => trivial⟩, fun _ _ => trivial⟩,
        fun _ _ => trivial⟩

theorem notes_runner (backends : Backends β) :
    (runner round backends.noting.split).Notes fun f => .inl f.splitForm :=
  Translation.notes_runner (t := translation round) reads_solution Sum.inl backends.split

/-- Without scaling the form differs in one place. -/
theorem splitForm_unscaled (f : Formulation) :
    f.unscaled.splitForm = { f.splitForm with presolve := false } := rfl

theorem presolve_splitForm (f : Formulation) :
    f.splitForm.presolve = false ↔ f.scaling % 8 = 0 := by
  simp [Formulation.splitForm, Formulation.scalingDisabled]

end SplitModel

namespace NamedModel

variable {β : Type} {round : Rounding}

/-- Making a solution of an answer leaves the backend alone. -/
theorem reads_solution (f : Formulation) (a : NamedAnswer) (b : β) :
    (solution round f a).Ends b (fun _ b' => b' = b) fun _ b' => b' = b := by
  unfold solution
  simp only
  split
  · simp only [Action.ends_bind, Action.ends_write, Action.ends_pure]
  · simp only [Action.ends_bind, Action.ends_ofExcept, Action.ends_pure]
    exact ⟨fun _ _ => ⟨fun _ _ => trivial, fun _ _ => trivial⟩, fun _ _ => trivial⟩

theorem notes_runner (backends : Backends β) :
    (runner round backends.noting.named).Notes fun f => .inr f.namedForm :=
  Translation.notes_runner (t := translation round) reads_solution Sum.inr backends.named

/-- Without scaling the form differs in one place. -/
theorem namedForm_unscaled (f : Formulation) :
    f.unscaled.namedForm = { f.namedForm with options := ["scaling off"] } := rfl

theorem options_namedForm (f : Formulation) :
    f.namedForm.options = ((scalingKeyword? f.scaling).map ("scaling " ++ ·)).toList := by
  show scalingOptions f.scaling = _
  unfold scalingOptions
  cases scalingKeyword? f.scaling with
  | none => rfl
  | some keyword => rfl

end NamedModel

namespace Request

variable {β : Type} {r : Request} {c : List Scalar} {cs : List Constraint} {mode : Int}

/-- A solve hands over one model for each of its runs. A second model is the first one over again, but
without presolving or with the option that turns scaling off; the first one says what the scaling mode
in force asks for. -/
theorem solve_handover (backends : Backends β) (round : Rounding) (initial : β)
    (hr : r.Shaped c cs) (hmode : r.InForce mode) :
    (∃ b calls m,
      (r.solve (.named (backends.noting.catalogue round (initial, [])) (.ofString "highs"))).Ran
        calls.length (b, calls) ∧
      (r.Valid c cs → calls ≠ []) ∧ calls <+: [.inl m, .inl { m with presolve := false }] ∧
      (m.presolve = false ↔ mode % 8 = 0)) ∧
    ∃ b calls m,
      (r.solve (.named (backends.noting.catalogue round (initial, [])) (.ofString "cbc"))).Ran
        calls.length (b, calls) ∧
      (r.Valid c cs → calls ≠ []) ∧
      calls <+: [.inr m, .inr { m with options := ["scaling off"] }] ∧
      m.options = ((NamedModel.scalingKeyword? mode).map ("scaling " ++ ·)).toList := by
  have hscaling : (r.posed c cs).scaling = mode := scalingOf_of_inForce hmode
  constructor
  · obtain ⟨b, calls, hran, hvalid, hcalls⟩ :=
      solve_notes (SplitModel.notes_runner backends) hr (resolve_highs backends.noting round _)
    simp only [SplitModel.splitForm_unscaled] at hcalls
    refine ⟨b, calls, (r.posed c cs).splitForm, hran, hvalid, hcalls, ?_⟩
    rw [SplitModel.presolve_splitForm, hscaling]
  · obtain ⟨b, calls, hran, hvalid, hcalls⟩ :=
      solve_notes (NamedModel.notes_runner backends) hr (resolve_cbc backends.noting round _)
    simp only [NamedModel.namedForm_unscaled] at hcalls
    refine ⟨b, calls, (r.posed c cs).namedForm, hran, hvalid, hcalls, ?_⟩
    rw [NamedModel.options_namedForm, hscaling]

/-- Backends that find no point. -/
def pointlessBackends : Backends Unit where
  split := fun _ => Action.give { status := .int 4 }
  named := fun _ => Action.give { status := .notSolved }

theorem solve_handover_retried :
    (∃ b m,
      (retriedRequest.solve (.named (pointlessBackends.noting.catalogue .exact ((), []))
        (.ofString "highs"))).Ran 2 (b, [.inl m, .inl { m with presolve := false }]) ∧
      m.presolve = true) ∧
    ∃ b m,
      (retriedRequest.solve (.named (pointlessBackends.noting.catalogue .exact ((), []))
        (.ofString "cbc"))).Ran 2 (b, [.inr m, .inr { m with options := ["scaling off"] }]) ∧
      m.options = ["scaling geometric"] := by
  have hmode : retriedRequest.InForce 4 := .inr ⟨rfl, rfl⟩
  obtain ⟨⟨b, calls, m, hran, -, hcalls, hpresolve⟩, b', calls', m', hran', -, hcalls', hoptions⟩ :=
    solve_handover pointlessBackends .exact () valid_retriedRequest.shaped hmode
  have htwo : calls.length = 2 := hran.1.symm
  have htwo' : calls'.length = 2 := hran'.1.symm
  obtain rfl := hcalls.eq_of_length htwo
  obtain rfl := hcalls'.eq_of_length htwo'
  refine ⟨⟨b, m, hran, ?_⟩, b', m', hran', hoptions⟩
  rw [← Bool.not_eq_false, hpresolve]
  decide

end Request

end LinearPrograms
