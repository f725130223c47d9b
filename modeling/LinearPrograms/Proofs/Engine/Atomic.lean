import LinearPrograms.Proofs.Engine.Formed

/-!
# Edits that fail

An edit checks its arguments before it writes, so an edit that fails leaves an engine's problem as
it was. Adding a row is the exception: the row and its relation are in place before the right-hand
side is read. `Edit.Tears` says when that happens, and `LoadedProblem.edit_atomic` that it is the
only case.
-/

namespace LinearPrograms

/-- Is the edit a row that is taken over, with a relation, and a right-hand side that is not? -/
def Edit.Tears (f : Formulation) : Edit → Prop
  | .constraint row relation rhs =>
    (∃ r, Formulation.relationOf relation = .ok r) ∧ (∃ c, f.unpadded row = .ok c) ∧
      ∀ b, rhs.toScalar ≠ .ok b
  | _ => False

namespace Formulation

variable {f : Formulation} {e : Edit} {fault : Fault}

/-- A row that fails either leaves no trace, or loses its right-hand side only. -/
theorem addConstraint_of_error {row relation rhs : Document}
    (h : (f.addConstraint row relation rhs).1 = .error fault) :
    (f.addConstraint row relation rhs).2 = f ∧ ¬(Edit.constraint row relation rhs).Tears f ∨
      ∃ r c, (Edit.constraint row relation rhs).Tears f ∧
        (f.addConstraint row relation rhs).2 =
          { f with rows := f.rows ++ [c], relations := f.relations ++ [r] } := by
  unfold addConstraint at h ⊢
  cases hr : relationOf relation with
  | error e =>
    refine .inl ⟨rfl, ?_⟩
    rintro ⟨⟨r, hr'⟩, -⟩
    rw [hr] at hr'
    cases hr'
  | ok r =>
    cases hc : f.unpadded row with
    | error e =>
      refine .inl ⟨rfl, ?_⟩
      rintro ⟨-, ⟨c, hc'⟩, -⟩
      rw [hc] at hc'
      cases hc'
    | ok c =>
      cases hb : rhs.toScalar with
      | ok b =>
        simp only [hr, hc, hb] at h
        cases h
      | error cause =>
        refine .inr ⟨r, c, ⟨⟨r, hr⟩, ⟨c, hc⟩, fun b hb' => ?_⟩, rfl⟩
        rw [hb] at hb'
        cases hb'

/-- An edit that fails leaves the formulation as it was, unless it tears a row. -/
theorem edit_of_error (h : (f.edit e).1 = .error fault) :
    (f.edit e).2 = f ∧ ¬e.Tears f ∨ ∃ r c, e.Tears f ∧
      (f.edit e).2 = { f with rows := f.rows ++ [c], relations := f.relations ++ [r] } := by
  cases e with
  | constraint row relation rhs => exact addConstraint_of_error h
  | verbosity _ | maximize | minimize | objective _ | lower _ _ | upper _ _ | integer _ _
  | scaling _ =>
    refine .inl ⟨?_, id⟩
    simp only [edit] at h ⊢
    split at h
    · cases h
    · rfl

end Formulation

namespace LoadedProblem

variable {β : Type} {p : LoadedProblem β} {e : Edit} {fault : Fault}

/-- An edit that fails leaves the whole problem as it was, released or not, exactly if it does not
tear a row; a torn row is there with its relation and lacks its right-hand side. -/
theorem edit_atomic (h : (edit e p).result = .error fault) :
    ((edit e p).state = p ↔ p.released = true ∨ ¬e.Tears p.formulation) ∧
      ((edit e p).state = p ∨ ∃ r c, (edit e p).state =
        { p with formulation :=
          { p.formulation with
            rows := p.formulation.rows ++ [c], relations := p.formulation.relations ++ [r] } }) := by
  by_cases hreleased : p.released = true
  · rw [edit_of_released hreleased]
    exact ⟨iff_of_true rfl (.inl hreleased), .inl rfl⟩
  · rw [edit_of_alive (by simpa using hreleased)] at h ⊢
    obtain ⟨hf, htears⟩ | ⟨r, c, htears, hf⟩ := Formulation.edit_of_error h
    · rw [hf]
      exact ⟨iff_of_true rfl (.inr htears), .inl rfl⟩
    · rw [hf]
      refine ⟨iff_of_false (fun heq => ?_) (by simp [hreleased, htears]), .inr ⟨r, c, rfl⟩⟩
      have hrows := congrArg (fun q => q.formulation.rows.length) heq
      simp at hrows

/-- A problem with one column that was just created. -/
def fresh : LoadedProblem Unit := { formulation := .ofSize 0 1, backend := () }

/-- The row `x ≤ ?` with nothing for a right-hand side. -/
def tornRow : Edit := .constraint (.ofScalars [.zero, .one]) (.int 1) .null

theorem edit_atomic_badColumn :
    (edit (.integer (.int 2) (.bool true)) fresh).result =
        .error (.engine (.column (.int 2) 1)) ∧
      (edit (.integer (.int 2) (.bool true)) fresh).state = fresh := by
  have hresult : (edit (.integer (.int 2) (.bool true)) fresh).result =
      .error (.engine (.column (.int 2) 1)) := rfl
  exact ⟨hresult, (edit_atomic hresult).1.2 (.inr id)⟩

/-- A row is refused for its right-hand side and is there all the same. -/
theorem edit_tornRow :
    (edit tornRow fresh).result = .error (.conversion (.notNumber "NoneType")) ∧
      (edit tornRow fresh).state.formulation.rows = [[.one]] ∧
      (edit tornRow fresh).state.formulation.rhs = [] ∧ (edit tornRow fresh).state ≠ fresh := by
  refine ⟨rfl, rfl, rfl, fun h => ?_⟩
  have hrows : (edit tornRow fresh).state.formulation.rows = [[.one]] := rfl
  rw [h] at hrows
  cases hrows

end LoadedProblem

end LinearPrograms
