import LinearPrograms.Document.Number
import LinearPrograms.Proofs.Scalar.Range

/-!
# Integers and floats as integers

When a value is a given integer (`isInteger_int`, `isInteger_finite`), when it is that integer once
its fraction is dropped (`tdiv_eq_iff`), and when an integer is read as a float
(`exists_scalarOfInt`), which is all that keeps a number from being read (`toScalar_of_number`).
-/

namespace LinearPrograms.Document

variable {q : Rat} {i k : Int} {d : Document} {x : Scalar} {e : ConversionFault}

/-! ## Values that are integers -/

theorem isInteger_int (k i : Int) : (int k).isInteger i = decide (i = k) := by
  have h : (int k).isInteger i = (decide ((k : Rat) ≤ i) && decide ((i : Rat) ≤ k)) := rfl
  rw [h, ← Bool.decide_and]
  simp only [Rat.intCast_le_intCast]
  exact decide_eq_decide.2 (by omega)

theorem isInteger_finite : (float (.finite q)).isInteger i = true ↔ q = i := by
  have h : (float (.finite q)).isInteger i = (decide (q ≤ i) && decide ((i : Rat) ≤ q)) := rfl
  rw [h, Bool.and_eq_true, decide_eq_true_eq, decide_eq_true_eq]
  exact le_antisymm_iff.symm

/-- A rational without its fraction is a positive integer if it is at least that integer and less
than the next one. -/
theorem tdiv_eq_iff (hk : 0 < k) : q.num.tdiv q.den = k ↔ (k : Rat) ≤ q ∧ q < k + 1 := by
  by_cases hq : 0 ≤ q
  · rw [Int.tdiv_eq_ediv_of_nonneg (Rat.num_nonneg.2 hq), ← Rat.floor_def', Int.floor_eq_iff]
  · have hnum : q.num ≤ 0 := (Rat.num_neg.2 (not_le.1 hq)).le
    have hright : 0 ≤ (-q.num).tdiv q.den := Int.tdiv_nonneg (by omega) (Int.natCast_nonneg _)
    rw [Int.neg_tdiv] at hright
    refine iff_of_false (by omega) fun h => hq ?_
    exact (Int.cast_nonneg hk.le).trans h.1

/-! ## Integers as floats -/

theorem exists_scalarOfInt : (∃ x, scalarOfInt i = .ok x) ↔ i.natAbs < overflowThreshold := by
  rw [← isFinite_nearest, scalarOfInt]
  by_cases hfinite : (Rounding.nearest i).isFinite = true
  · simp [hfinite]
  · simp [hfinite]

theorem scalarOfInt_eq_error :
    scalarOfInt i = .error e ↔ overflowThreshold ≤ i.natAbs ∧ e = .integerTooLarge := by
  rw [← not_lt, ← isFinite_nearest, scalarOfInt]
  by_cases hfinite : (Rounding.nearest i).isFinite = true
  · simp [hfinite]
  · simp [hfinite, eq_comm]

/-- The value is an integer that no double represents. -/
def IsTooLarge (d : Document) : Prop := ∃ i, d = int i ∧ overflowThreshold ≤ i.natAbs

theorem toScalar_of_number (h : d.number? = some x) :
    (∃ z, d.toScalar = .ok z) ∨ d.IsTooLarge := by
  cases d with
  | bool _ | float _ => exact .inl ⟨_, rfl⟩
  | int i =>
    rcases lt_or_ge i.natAbs overflowThreshold with hi | hi
    · exact .inl (exists_scalarOfInt.2 hi)
    · exact .inr ⟨i, rfl, hi⟩
  | null | text _ | list _ | object _ => cases h

end LinearPrograms.Document
