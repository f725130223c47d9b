import LinearPrograms.Engine.Basic
import LinearPrograms.Proofs.Action.Ending
import LinearPrograms.Proofs.Tensor.Rows

/-!
# The formulations that engines reach

`Edit.Effect e f g` says once what an edit that succeeds does to a formulation (`edit_eq_ok`); all
facts about edits are read off it. A formulation is `WellFormed` if each of its lists has the length
that the numbers of rows and columns ask for: a new one is (`wellFormed_ofSize`), and every edit
that succeeds keeps it so (`WellFormed.edit`).

`LoadedProblem.Formed` describes the states of an engine between its creation and its release: it
was created, and from then on received edits that succeeded and was run. All of them hold a
well-formed formulation and are not released (`Formed.sound`).
-/

namespace LinearPrograms

/-! ## What an edit does -/

/-- What an edit that succeeds makes of a formulation. -/
def Edit.Effect (f g : Formulation) : Edit → Prop
  | .verbosity level =>
    ∃ v, Formulation.verbosityLevel level = .ok v ∧ g = { f with verbosity := v }
  | .maximize => g = { f with maximize := true }
  | .minimize => g = { f with maximize := false }
  | .objective row => ∃ c, f.unpadded row = .ok c ∧ g = { f with objective := c }
  | .lower column value =>
    ∃ b j, Formulation.lowerBound value = .ok b ∧ f.position column = .ok j ∧
      g = { f with lower := f.lower.set j b }
  | .upper column value =>
    ∃ b j, Formulation.upperBound value = .ok b ∧ f.position column = .ok j ∧
      g = { f with upper := f.upper.set j b }
  | .integer column flag =>
    ∃ j, f.position column = .ok j ∧ g = { f with integer := f.integer.set j flag.isTrue }
  | .scaling mode => ∃ m, mode.toInt = .ok m ∧ g = { f with scaling := m }
  | .constraint row relation rhs =>
    ∃ c r b, f.unpadded row = .ok c ∧ Formulation.relationOf relation = .ok r ∧
      rhs.toScalar = .ok b ∧
      g = { f with
            rows := f.rows ++ [c], relations := f.relations ++ [r], rhs := f.rhs ++ [b] }

namespace Formulation

open LinearPrograms.Computation

theorem effect_of_addConstraint {f g : Formulation} {row relation rhs : Document}
    (h : f.addConstraint row relation rhs = (.ok (), g)) :
    (Edit.constraint row relation rhs).Effect f g := by
  unfold addConstraint at h
  cases hr : relationOf relation with
  | error e => simp [hr] at h
  | ok r =>
    cases hc : f.unpadded row with
    | error e => simp [hr, hc] at h
    | ok c =>
      cases hb : rhs.toScalar with
      | error e => simp [hr, hc, hb] at h
      | ok b =>
        simp only [hr, hc, hb, Prod.mk.injEq, true_and] at h
        exact ⟨c, r, b, hc, hr, hb, h.symm⟩

theorem effect_of_revised {f g : Formulation} {e : Edit} (h : f.revised e = .ok g)
    (he : ∀ row relation rhs, e ≠ .constraint row relation rhs) : e.Effect f g := by
  cases e with
  | constraint row relation rhs => exact absurd rfl (he row relation rhs)
  | maximize => exact (Except.ok.inj h).symm
  | minimize => exact (Except.ok.inj h).symm
  | verbosity level =>
    obtain ⟨v, hv, hg⟩ := bind_eq_ok.1 h
    exact ⟨v, hv, (pure_eq_ok.1 hg).symm⟩
  | objective row =>
    obtain ⟨c, hc, hg⟩ := bind_eq_ok.1 h
    exact ⟨c, hc, (pure_eq_ok.1 hg).symm⟩
  | lower column value =>
    obtain ⟨b, hb, h⟩ := bind_eq_ok.1 h
    obtain ⟨j, hj, hg⟩ := bind_eq_ok.1 h
    exact ⟨b, j, mapError_eq_ok.1 hb, hj, (pure_eq_ok.1 hg).symm⟩
  | upper column value =>
    obtain ⟨b, hb, h⟩ := bind_eq_ok.1 h
    obtain ⟨j, hj, hg⟩ := bind_eq_ok.1 h
    exact ⟨b, j, mapError_eq_ok.1 hb, hj, (pure_eq_ok.1 hg).symm⟩
  | integer column flag =>
    obtain ⟨j, hj, hg⟩ := bind_eq_ok.1 h
    exact ⟨j, hj, (pure_eq_ok.1 hg).symm⟩
  | scaling mode =>
    obtain ⟨m, hm, hg⟩ := bind_eq_ok.1 h
    exact ⟨m, mapError_eq_ok.1 hm, (pure_eq_ok.1 hg).symm⟩

/-- An edit that succeeds has its effect and no other. -/
theorem effect_of_edit {f g : Formulation} {e : Edit} (h : f.edit e = (.ok (), g)) :
    e.Effect f g := by
  unfold edit at h
  split at h
  · exact effect_of_addConstraint h
  · rename_i hne
    split at h
    · rename_i g' hg
      simp only [Prod.mk.injEq, true_and] at h
      subst h
      exact effect_of_revised hg hne
    · simp at h

/-- An edit whose effect can be had succeeds. -/
theorem edit_of_effect {f g : Formulation} {e : Edit} (h : e.Effect f g) :
    f.edit e = (.ok (), g) := by
  cases e with
  | maximize => rw [h]; rfl
  | minimize => rw [h]; rfl
  | verbosity level =>
    obtain ⟨v, hv, rfl⟩ := h
    simp only [edit, revised, hv]
    rfl
  | objective row =>
    obtain ⟨c, hc, rfl⟩ := h
    simp only [edit, revised, hc]
    rfl
  | lower column value =>
    obtain ⟨b, j, hb, hj, rfl⟩ := h
    simp only [edit, revised, hb, hj]
    rfl
  | upper column value =>
    obtain ⟨b, j, hb, hj, rfl⟩ := h
    simp only [edit, revised, hb, hj]
    rfl
  | integer column flag =>
    obtain ⟨j, hj, rfl⟩ := h
    simp only [edit, revised, hj]
    rfl
  | scaling mode =>
    obtain ⟨m, hm, rfl⟩ := h
    simp only [edit, revised, hm]
    rfl
  | constraint row relation rhs =>
    obtain ⟨c, r, b, hc, hr, hb, rfl⟩ := h
    simp only [edit, addConstraint, hr, hc, hb]

/-- The edits that succeed are those with an effect. -/
theorem edit_eq_ok {f g : Formulation} {e : Edit} : f.edit e = (.ok (), g) ↔ e.Effect f g :=
  ⟨effect_of_edit, edit_of_effect⟩

/-! ## Lengths -/

/-- Each list of a formulation has the length that its numbers of rows and columns ask for. -/
structure WellFormed (f : Formulation) : Prop where
  objective : f.objective.length = f.columns
  lower : f.lower.length = f.columns
  upper : f.upper.length = f.columns
  integer : f.integer.length = f.columns
  row : ∀ row ∈ f.rows, row.length = f.columns
  relations : f.relations.length = f.rows.length
  rhs : f.rhs.length = f.rows.length

theorem wellFormed_ofSize (rows columns : Nat) : (ofSize rows columns).WellFormed where
  objective := List.length_replicate
  lower := List.length_replicate
  upper := List.length_replicate
  integer := List.length_replicate
  row := fun row h => by rw [List.eq_of_mem_replicate h, List.length_replicate]; rfl
  relations := by simp [ofSize]
  rhs := by simp [ofSize]

/-- A row that is taken over has one entry per column. -/
theorem length_of_unpadded {f : Formulation} {row : Document} {c : List Scalar}
    (h : f.unpadded row = .ok c) : c.length = f.columns := by
  obtain ⟨t, ht, h⟩ := bind_eq_ok.1 h
  rw [mapError_eq_ok, Tensor.unpadded] at h
  split at h
  · rename_i hshape
    rw [Except.ok.injEq] at h
    rw [← h, List.length_drop, Tensor.length_entries ht hshape, Nat.add_sub_cancel]
  · cases h

theorem WellFormed.effect {f g : Formulation} {e : Edit} (hf : f.WellFormed)
    (h : e.Effect f g) : g.WellFormed := by
  cases e with
  | verbosity level => obtain ⟨v, -, rfl⟩ := h; exact { hf with }
  | maximize => obtain rfl := h; exact { hf with }
  | minimize => obtain rfl := h; exact { hf with }
  | objective row =>
    obtain ⟨c, hc, rfl⟩ := h
    exact { hf with objective := length_of_unpadded hc }
  | lower column value =>
    obtain ⟨b, j, -, -, rfl⟩ := h
    exact { hf with lower := (List.length_set).trans hf.lower }
  | upper column value =>
    obtain ⟨b, j, -, -, rfl⟩ := h
    exact { hf with upper := (List.length_set).trans hf.upper }
  | integer column flag =>
    obtain ⟨j, -, rfl⟩ := h
    exact { hf with integer := (List.length_set).trans hf.integer }
  | scaling mode => obtain ⟨m, -, rfl⟩ := h; exact { hf with }
  | constraint row relation rhs =>
    obtain ⟨c, r, b, hc, -, -, rfl⟩ := h
    refine { hf with row := fun row' hrow => ?_, relations := ?_, rhs := ?_ }
    · rcases List.mem_append.1 hrow with hrow | hrow
      · exact hf.row row' hrow
      · rw [List.mem_singleton.1 hrow]
        exact length_of_unpadded hc
    · simp [hf.relations]
    · simp [hf.rhs]

theorem WellFormed.edit {f g : Formulation} {e : Edit} (hf : f.WellFormed)
    (h : f.edit e = (.ok (), g)) : g.WellFormed := hf.effect (edit_eq_ok.1 h)

end Formulation

/-! ## The states between creation and release -/

namespace LoadedProblem

variable {β : Type} {p : LoadedProblem β}

@[simp] theorem ends_checkAlive {Q : Unit → LoadedProblem β → Prop}
    {E : Fault → LoadedProblem β → Prop} :
    checkAlive.Ends p Q E ↔ if p.released then E (.engine .deleted) p else Q () p := by
  cases h : p.released <;> simp [checkAlive, Action.Ends, h]

theorem checkAlive_of_alive (h : p.released = false) : checkAlive p = ⟨.ok (), p, []⟩ := by
  simp [checkAlive, h]

theorem checkAlive_of_released (h : p.released = true) :
    checkAlive p = ⟨.error (.engine .deleted), p, []⟩ := by
  simp [checkAlive, h]

/-- An edit of a problem that was not released is an edit of its formulation. -/
theorem edit_of_alive (h : p.released = false) (e : Edit) :
    edit e p = ⟨(p.formulation.edit e).1,
      { p with formulation := (p.formulation.edit e).2 }, []⟩ := by
  simp [edit, checkAlive, bind, Action.andThen, h]

theorem edit_of_released (h : p.released = true) (e : Edit) :
    edit e p = ⟨.error (.engine .deleted), p, []⟩ := by
  simp [edit, checkAlive, bind, Action.andThen, h]

theorem solve_of_released {runner : Runner β} (h : p.released = true) :
    solve runner p = ⟨.error (.engine .deleted), p, []⟩ :=
  Action.bind_eq_of_error (checkAlive_of_released h)

/-- An edit changes nothing but the formulation. -/
theorem edit_formulates (e : Edit) (p : LoadedProblem β) :
    ∃ f, (edit e p).state = { p with formulation := f } := by
  cases h : p.released with
  | true => exact ⟨p.formulation, by rw [edit_of_released h, ← h]⟩
  | false => exact ⟨_, by rw [edit_of_alive h, ← h]⟩

/-- A run changes neither the formulation nor whether the problem was released. -/
theorem solve_keeps (runner : Runner β) (p : LoadedProblem β) :
    (solve runner p).state.formulation = p.formulation ∧
      (solve runner p).state.released = p.released := by
  have h : (solve runner).Ends p
      (fun _ t => t.formulation = p.formulation ∧ t.released = p.released)
      (fun _ t => t.formulation = p.formulation ∧ t.released = p.released) := by
    simp only [solve, Action.ends_bind, ends_checkAlive, Action.ends_change, Action.ends_read,
      Action.ends_onPart, Action.ends_ofExcept, Action.ends_ite, Action.ends_pure,
      Action.ends_write]
    split
    · exact ⟨trivial, trivial⟩
    · exact Action.ends_of_forall (fun _ _ => by simp) fun _ _ => ⟨trivial, trivial⟩
  unfold Action.Ends at h
  split at h <;> exact h

/-- The states of an engine from its creation on, through edits that succeed and runs. -/
inductive Formed : LoadedProblem β → Prop
  | created {backend : β} {rows columns : Int} {p : LoadedProblem β} :
      create backend rows columns = .ok p → Formed p
  | edited {p : LoadedProblem β} {e : Edit} :
      Formed p → (edit e p).result = .ok () → Formed (edit e p).state
  | ran {p : LoadedProblem β} (runner : Runner β) : Formed p → Formed (solve runner p).state

/-- Edits one after the other, up to the first that is refused. -/
def editAll : List Edit → Action (LoadedProblem β) Unit
  | [] => pure ()
  | e :: es => do
    edit e
    editAll es

theorem Formed.editAll :
    ∀ {es : List Edit} {p : LoadedProblem β}, p.Formed → (editAll es p).result = .ok () →
      (editAll es p).state.Formed
  | [], _, h, _ => h
  | e :: es, p, h, hes => by
    rcases he : edit e p with ⟨r, t, log⟩
    cases r with
    | error fault =>
      rw [LoadedProblem.editAll, Action.bind_eq_of_error he] at hes
      cases hes
    | ok u =>
      have ht : t.Formed := by simpa only [he] using Formed.edited h (e := e) (by rw [he])
      rw [LoadedProblem.editAll, Action.bind_eq_of_ok he] at hes ⊢
      exact Formed.editAll ht hes

theorem Formed.sound (h : p.Formed) : p.released = false ∧ p.formulation.WellFormed := by
  induction h with
  | @created backend rows columns p h =>
    unfold create at h
    split at h
    · cases h
    · cases h
      exact ⟨rfl, Formulation.wellFormed_ofSize _ _⟩
  | @edited p e _ he ih =>
    rw [edit_of_alive ih.1] at he ⊢
    exact ⟨ih.1, ih.2.edit (Prod.ext he rfl)⟩
  | @ran p runner _ ih =>
    obtain ⟨hf, hr⟩ := solve_keeps runner p
    exact ⟨hr.trans ih.1, hf ▸ ih.2⟩

end LoadedProblem

end LinearPrograms
