import LinearPrograms.Proofs.Engine.Sensitivities
import Mathlib.Algebra.BigOperators.Group.Finset.Sigma
import Mathlib.Algebra.Order.BigOperators.Group.Finset
import Mathlib.Tactic.Linarith
import Mathlib.Tactic.LinearCombination

/-!
# Duals that certify an optimum

`Formulation.Certificate f x ds z` says that the array `ds` certifies the point `x` with objective
value `z`: row duals and reduced costs make up every objective coefficient, they have the signs that
the relations and the sense ask for, they vanish wherever `x` is off the row or off the bound, and
they account for `z`. `Certificate.isOptimal` draws the conclusion that no allowed point is better.

`SplitModel.Kkt` is what a backend promises of its answer, in the layout and the sense of the model
that it was handed. `certificate_of_kkt` turns the one into the other, field by field
(`SplitModel.Exported`): the signs of the sense, of the rows `≥` and of the bounds cancel for every
order of the relations.
-/

namespace LinearPrograms

open Finset (range)

namespace Formulation

/-- The coefficient of a column in the objective. -/
def gain (f : Formulation) (j : Nat) : Rat := (f.objective.getD j .zero).toRat

/-- The coefficient of a column in a row. -/
def coefficient (f : Formulation) (i j : Nat) : Rat := ((f.rows.getD i []).getD j .zero).toRat

/-- The right-hand side of a row. -/
def constant (f : Formulation) (i : Nat) : Rat := (f.rhs.getD i .zero).toRat

/-- The left-hand side of a row at a point. -/
def rowAt (f : Formulation) (i : Nat) (x : List Rat) : Rat :=
  product (Scalar.rats (f.rows.getD i [])) x

/-- The dual of a row in an array of duals. -/
def rowDual (ds : List Rat) (i : Nat) : Rat := ds.getD (1 + i) 0

/-- The reduced cost of a column in an array of duals. -/
def reducedCost (f : Formulation) (ds : List Rat) (j : Nat) : Rat :=
  ds.getD (1 + f.rows.length + j) 0

/-- An array of duals certifies a point and its objective value. -/
structure Certificate (f : Formulation) (x ds : List Rat) (z : Rat) : Prop where
  size : ds.length = 1 + f.rows.length + f.columns
  padding : ds.getD 0 0 = 0
  stationary : ∀ j < f.columns, f.gain j =
    ∑ i ∈ range f.rows.length, rowDual ds i * f.coefficient i j + f.reducedCost ds j
  le : ∀ i, f.relations[i]? = some .le →
    if f.maximize then 0 ≤ rowDual ds i else rowDual ds i ≤ 0
  ge : ∀ i, f.relations[i]? = some .ge →
    if f.maximize then rowDual ds i ≤ 0 else 0 ≤ rowDual ds i
  tight : ∀ i < f.rows.length, f.rowAt i x ≠ f.constant i → rowDual ds i = 0
  bound : ∀ j < f.columns, f.reducedCost ds j ≠ 0 →
    (f.lower.getD j .nan).bound? = some (x.getD j 0) ∨
      (f.upper.getD j .nan).bound? = some (x.getD j 0)
  /-- A reduced cost in the direction of the minimum holds its column at the lower bound. -/
  low : ∀ j < f.columns, 0 < f.sense * f.reducedCost ds j →
    (f.lower.getD j .nan).bound? = some (x.getD j 0)
  high : ∀ j < f.columns, f.sense * f.reducedCost ds j < 0 →
    (f.upper.getD j .nan).bound? = some (x.getD j 0)
  value : z = ∑ i ∈ range f.rows.length, rowDual ds i * f.constant i +
    ∑ j ∈ range f.columns, f.reducedCost ds j * x.getD j 0

variable {f : Formulation}

theorem sense_mul_sense (f : Formulation) : f.sense * f.sense = 1 := by
  unfold sense
  split <;> norm_num

theorem sense_ne_zero (f : Formulation) : f.sense ≠ 0 := by
  unfold sense
  split <;> norm_num

theorem rowAt_eq_sum (hf : f.WellFormed) {i : Nat} (hi : i < f.rows.length) (x : List Rat) :
    f.rowAt i x = ∑ j ∈ range f.columns, f.coefficient i j * x.getD j 0 := by
  have hrow : f.rows.getD i [] = f.rows[i] := (List.getElem_eq_getD _).symm
  have hlen : (Scalar.rats (f.rows.getD i [])).length = f.columns := by
    rw [Scalar.length_rats, hrow]
    exact hf.row _ (List.getElem_mem hi)
  rw [rowAt, product_eq_sum hlen]
  exact Finset.sum_congr rfl fun j _ => by rw [Scalar.getD_rats]; rfl

theorem product_objective (hf : f.WellFormed) (x : List Rat) :
    product (Scalar.rats f.objective) x = ∑ j ∈ range f.columns, f.gain j * x.getD j 0 := by
  rw [product_eq_sum ((Scalar.length_rats _).trans hf.objective)]
  exact Finset.sum_congr rfl fun j _ => by rw [Scalar.getD_rats]; rfl

/-- What a point is worth, in terms of duals that make up the objective. -/
theorem product_of_stationary (hf : f.WellFormed) {ds : List Rat}
    (h : ∀ j < f.columns, f.gain j =
      ∑ i ∈ range f.rows.length, rowDual ds i * f.coefficient i j + f.reducedCost ds j)
    (x : List Rat) :
    product (Scalar.rats f.objective) x =
      ∑ i ∈ range f.rows.length, rowDual ds i * f.rowAt i x +
        ∑ j ∈ range f.columns, f.reducedCost ds j * x.getD j 0 := by
  have hrows : ∑ i ∈ range f.rows.length, rowDual ds i * f.rowAt i x =
      ∑ j ∈ range f.columns,
        (∑ i ∈ range f.rows.length, rowDual ds i * f.coefficient i j) * x.getD j 0 := by
    simp only [Finset.sum_mul]
    rw [Finset.sum_comm]
    refine Finset.sum_congr rfl fun i hi => ?_
    rw [rowAt_eq_sum hf (Finset.mem_range.1 hi), Finset.mul_sum]
    exact Finset.sum_congr rfl fun j _ => (mul_assoc _ _ _).symm
  rw [product_objective hf, hrows, ← Finset.sum_add_distrib]
  refine Finset.sum_congr rfl fun j hj => ?_
  rw [h j (Finset.mem_range.1 hj), add_mul]

/-- A point that is allowed satisfies every row. -/
theorem holds_of_allows (hf : f.WellFormed) {x : List Rat} (h : f.program.allows x = true)
    {i : Nat} {r : Relation} (hi : f.relations[i]? = some r) :
    (Row.mk (Scalar.rats (f.rows.getD i [])) r (f.constant i)).holds x = true := by
  obtain ⟨hlt, hr⟩ := List.getElem?_eq_some_iff.1 hi
  have h1 := hf.relations
  have h2 := hf.rhs
  have hrow : f.rows.getD i [] = f.rows[i] := (List.getElem_eq_getD _).symm
  have hrhs : f.rhs.getD i .zero = f.rhs[i] := (List.getElem_eq_getD _).symm
  have hmem : Row.mk (Scalar.rats f.rows[i]) r f.rhs[i].toRat ∈ f.statedRows := by
    refine List.mem_iff_getElem.2 ⟨i, by simp [statedRows]; omega, ?_⟩
    simp [statedRows, hr]
  rw [constant, hrow, hrhs]
  exact ((allows_iff hf).1 h).2.1 _ hmem

theorem costAt_program (f : Formulation) (x : List Rat) :
    f.program.costAt x = f.sense * product (Scalar.rats f.objective) x := product_map_mul _ _ _

theorem Certificate.sense_le {x ds : List Rat} {z : Rat} (hc : f.Certificate x ds z) {i : Nat}
    (hi : f.relations[i]? = some .le) : f.sense * rowDual ds i ≤ 0 := by
  have h := hc.le i hi
  unfold sense
  split at h
  · rw [if_pos ‹_›]
    linarith
  · rw [if_neg ‹_›]
    linarith

theorem Certificate.sense_ge {x ds : List Rat} {z : Rat} (hc : f.Certificate x ds z) {i : Nat}
    (hi : f.relations[i]? = some .ge) : 0 ≤ f.sense * rowDual ds i := by
  have h := hc.ge i hi
  unfold sense
  split at h
  · rw [if_pos ‹_›]
    linarith
  · rw [if_neg ‹_›]
    linarith

/-- On each row another allowed point falls behind a certified one, weighed by the dual. -/
theorem Certificate.sense_rowDual_le (hf : f.WellFormed) {x y ds : List Rat} {z : Rat}
    (hc : f.Certificate x ds z) (hy : f.program.allows y = true) {i : Nat}
    (hi : i < f.rows.length) :
    f.sense * (rowDual ds i * f.rowAt i x) ≤ f.sense * (rowDual ds i * f.rowAt i y) := by
  -- off a tight row the dual is zero, on one the relation and the sign of the dual agree
  by_cases hne : f.rowAt i x = f.constant i
  · have hlt : i < f.relations.length := hf.relations.symm ▸ hi
    have hget := List.getElem?_eq_getElem hlt
    have hholds := holds_of_allows hf hy hget
    rw [hne, ← mul_assoc, ← mul_assoc]
    cases hrel : f.relations[i] with
    | le =>
      rw [hrel] at hholds hget
      have hle : f.rowAt i y ≤ f.constant i := of_decide_eq_true hholds
      exact mul_le_mul_of_nonpos_left hle (hc.sense_le hget)
    | ge =>
      rw [hrel] at hholds hget
      have hle : f.constant i ≤ f.rowAt i y := of_decide_eq_true hholds
      exact mul_le_mul_of_nonneg_left hle (hc.sense_ge hget)
    | eq =>
      rw [hrel] at hholds
      have heq : f.rowAt i y = f.constant i := of_decide_eq_true hholds
      rw [heq]
  · rw [hc.tight i hi hne, zero_mul, zero_mul]

/-- And so it does in each column, weighed by the reduced cost. -/
theorem Certificate.sense_reducedCost_le (hf : f.WellFormed) {x y ds : List Rat} {z : Rat}
    (hc : f.Certificate x ds z) (hy : f.program.allows y = true) {j : Nat} (hj : j < f.columns) :
    f.sense * (f.reducedCost ds j * x.getD j 0) ≤
      f.sense * (f.reducedCost ds j * y.getD j 0) := by
  have hb := ((allows_iff hf).1 hy).2.2.1 j hj
  rw [← mul_assoc, ← mul_assoc]
  rcases lt_trichotomy (f.sense * f.reducedCost ds j) 0 with h | h | h
  · rw [hc.high j hj h] at hb
    have hle : y.getD j 0 ≤ x.getD j 0 := of_decide_eq_true (Bool.and_eq_true_iff.1 hb).2
    exact mul_le_mul_of_nonpos_left hle h.le
  · rw [h, zero_mul, zero_mul]
  · rw [hc.low j hj h] at hb
    have hle : x.getD j 0 ≤ y.getD j 0 := of_decide_eq_true (Bool.and_eq_true_iff.1 hb).1
    exact mul_le_mul_of_nonneg_left hle h.le

/-- A certified point is best among the points that are allowed. -/
theorem Certificate.isOptimal (hf : f.WellFormed) {x ds : List Rat} {z : Rat}
    (hc : f.Certificate x ds z) {y : List Rat} (hy : f.program.allows y = true) :
    f.program.costAt x ≤ f.program.costAt y := by
  rw [costAt_program, costAt_program, product_of_stationary hf hc.stationary x,
    product_of_stationary hf hc.stationary y, mul_add, mul_add, Finset.mul_sum, Finset.mul_sum,
    Finset.mul_sum, Finset.mul_sum]
  refine add_le_add (Finset.sum_le_sum fun i hi => ?_) (Finset.sum_le_sum fun j hj => ?_)
  · exact hc.sense_rowDual_le hf hy (Finset.mem_range.1 hi)
  · exact hc.sense_reducedCost_le hf hy (Finset.mem_range.1 hj)

end Formulation

/-- The conditions under which marginals belong to a minimum of a split model at a point. -/
structure SplitModel.Kkt (m : SplitModel) (x u v l w : List Rat) : Prop where
  stationary : ∀ j < m.cost.length, (m.cost.getD j .zero).toRat =
    product u (m.upperRows.map fun row => (row.getD j .zero).toRat) +
      product v (m.equalRows.map fun row => (row.getD j .zero).toRat) + l.getD j 0 + w.getD j 0
  upperSign : ∀ q ∈ u, q ≤ 0
  lowSign : ∀ q ∈ l, 0 ≤ q
  highSign : ∀ q ∈ w, q ≤ 0
  upperSlack : ∀ i < m.upperRows.length,
    product (Scalar.rats (m.upperRows.getD i [])) x ≠ (m.upperRhs.getD i .zero).toRat →
      u.getD i 0 = 0
  lowSlack : ∀ j < m.cost.length,
    ((m.bounds[j]?).bind Prod.fst).map Scalar.toRat ≠ some (x.getD j 0) → l.getD j 0 = 0
  highSlack : ∀ j < m.cost.length,
    ((m.bounds[j]?).bind Prod.snd).map Scalar.toRat ≠ some (x.getD j 0) → w.getD j 0 = 0

namespace SplitModel

open Formulation Scalar

variable {f : Formulation} {x u v l w : List Rat} {us vs : List Scalar}

/-! ## The split form, row by row -/

theorem getD_nonpos {qs : List Rat} (h : ∀ q ∈ qs, q ≤ 0) (k : Nat) : qs.getD k 0 ≤ 0 := by
  rw [List.getD_eq_getElem?_getD]
  cases hk : qs[k]? with
  | none => exact le_refl _
  | some q => exact h q (List.mem_of_getElem? hk)

theorem getD_nonneg {qs : List Rat} (h : ∀ q ∈ qs, 0 ≤ q) (k : Nat) : 0 ≤ qs.getD k 0 := by
  rw [List.getD_eq_getElem?_getD]
  cases hk : qs[k]? with
  | none => exact le_refl _
  | some q => exact h q (List.mem_of_getElem? hk)

theorem getD_of_getElem? {α : Type} {xs ys : List α} {i k : Nat} (h : xs[k]? = ys[i]?) (d : α) :
    xs.getD k d = ys.getD i d := by
  rw [List.getD_eq_getElem?_getD, List.getD_eq_getElem?_getD, h]

/-- A row `≤` and its right-hand side, in the slot of the row. -/
theorem upper_of_le (hf : f.WellFormed) {i : Nat} (hi : f.relations[i]? = some .le) :
    f.splitForm.upperRows[slot .le f.relations i]? = f.rows[i]? ∧
      f.splitForm.upperRhs[slot .le f.relations i]? = f.rhs[i]? := by
  have hrows : f.relations.length = f.rows.length := hf.relations
  have hrhs : f.relations.length = f.rhs.length := hf.relations.trans hf.rhs.symm
  have hslot := slot_lt_count hi
  constructor
  · rw [← getElem?_select hrows hi]
    exact List.getElem?_append_left ((length_select .le hrows).symm ▸ hslot)
  · rw [← getElem?_select hrhs hi]
    exact List.getElem?_append_left ((length_select .le hrhs).symm ▸ hslot)

/-- A row `≥` and its right-hand side, negated behind the rows `≤`. -/
theorem upper_of_ge (hf : f.WellFormed) {i : Nat} (hi : f.relations[i]? = some .ge) :
    f.splitForm.upperRows[f.relations.count .le + slot .ge f.relations i]? =
        f.rows[i]?.map (List.map Scalar.neg) ∧
      f.splitForm.upperRhs[f.relations.count .le + slot .ge f.relations i]? =
        f.rhs[i]?.map Scalar.neg := by
  have hrows : f.relations.length = f.rows.length := hf.relations
  have hrhs : f.relations.length = f.rhs.length := hf.relations.trans hf.rhs.symm
  constructor
  · rw [← getElem?_select hrows hi, ← length_select .le hrows, Formulation.splitForm,
      List.getElem?_append_right (Nat.le_add_right _ _), Nat.add_sub_cancel_left,
      List.getElem?_map]
  · rw [← getElem?_select hrhs hi, ← length_select .le hrhs, Formulation.splitForm,
      List.getElem?_append_right (Nat.le_add_right _ _), Nat.add_sub_cancel_left,
      List.getElem?_map]

/-- The entries of one column in the rows of the first block. -/
theorem column_upper (f : Formulation) (j : Nat) :
    (f.splitForm.upperRows.map fun row => (row.getD j .zero).toRat) =
      select .le f.relations (f.rows.map fun row => (row.getD j .zero).toRat) ++
        (select .ge f.relations (f.rows.map fun row => (row.getD j .zero).toRat)).map (-1 * ·) := by
  have hneg : ∀ row : List Scalar,
      ((row.map Scalar.neg).getD j .zero).toRat = -1 * (row.getD j .zero).toRat := by
    intro row
    rw [← getD_rats, rats_map_neg, ← getD_rats, getD_map_mul]
  simp only [Formulation.splitForm, List.map_append, select_map, List.map_map]
  congr 1
  exact List.map_congr_left fun row _ => hneg row

theorem column_equal (f : Formulation) (j : Nat) :
    (f.splitForm.equalRows.map fun row => (row.getD j .zero).toRat) =
      select .eq f.relations (f.rows.map fun row => (row.getD j .zero).toRat) :=
  (select_map _ _ _).symm

theorem cost_getD (f : Formulation) (j : Nat) :
    (f.splitForm.cost.getD j .zero).toRat = f.sense * f.gain j := by
  rw [← getD_rats, gain, ← getD_rats]
  show (rats (f.objective.map (negateIf f.maximize))).getD j 0 = _
  rw [rats_map_negateIf, getD_map_mul]
  rfl

/-- The bounds of a column, in the split form and in the formulation. -/
theorem bounds_getElem? (hf : f.WellFormed) {j : Nat} (hj : j < f.columns) :
    ((f.splitForm.bounds[j]?).bind Prod.fst).map toRat = (f.lower.getD j .nan).bound? ∧
      ((f.splitForm.bounds[j]?).bind Prod.snd).map toRat = (f.upper.getD j .nan).bound? := by
  have hl : j < f.lower.length := hf.lower.symm ▸ hj
  have hu : j < f.upper.length := hf.upper.symm ▸ hj
  have hb : f.splitForm.bounds[j]? = some (bound? f.lower[j], bound? f.upper[j]) := by
    simp [Formulation.splitForm, hl, hu]
  rw [hb, ← List.getElem_eq_getD (h := hl), ← List.getElem_eq_getD (h := hu)]
  exact ⟨map_bound? _, map_bound? _⟩

/-! ## From the conditions on a minimum to the certificate -/

/-- The array of duals that marginals come to, entry by entry. -/
structure Exported (f : Formulation) (us vs : List Scalar) (l w ds : List Rat) : Prop where
  size : ds.length = 1 + f.rows.length + f.columns
  padding : ds.getD 0 0 = 0
  row : ∀ i < f.rows.length, rowDual ds i = (rats (rowDuals f us vs)).getD i 0
  column : ∀ j, f.reducedCost ds j = f.sense * (l.getD j 0 + w.getD j 0)

theorem length_rowDuals (hf : f.WellFormed) : (rowDuals f us vs).length = f.rows.length := by
  rw [rowDuals, length_scatter, hf.relations]

theorem getD_zipWith_add {l w : List Rat} (h : l.length = w.length) (j : Nat) :
    (List.zipWith (· + ·) l w).getD j 0 = l.getD j 0 + w.getD j 0 := by
  by_cases hj : j < l.length
  · have hjw : j < w.length := h ▸ hj
    simp [hj, hjw]
  · have hjw : w.length ≤ j := h ▸ Nat.le_of_not_lt hj
    simp [Nat.le_of_not_lt hj, hjw]

theorem exported_duals (hf : f.WellFormed) (us vs : List Scalar) (hl : l.length = f.columns)
    (hw : w.length = f.columns) :
    Exported f us vs l w
      (0 :: rats (rowDuals f us vs) ++ (List.zipWith (· + ·) l w).map (f.sense * ·)) := by
  have hlen : (rowDuals f us vs).length = f.rows.length := length_rowDuals hf
  refine ⟨?_, rfl, fun i hi => ?_, fun j => ?_⟩
  · simp [hlen, hl, hw]
    omega
  · rw [rowDual, Nat.add_comm, List.cons_append, List.getD_cons_succ,
      List.getD_append _ _ _ _ (by rw [length_rats, hlen]; exact hi)]
  · have hle : (rats (rowDuals f us vs)).length ≤ f.rows.length + j := by
      rw [length_rats, hlen]
      omega
    rw [reducedCost, show 1 + f.rows.length + j = f.rows.length + j + 1 by omega,
      List.cons_append, List.getD_cons_succ, List.getD_append_right _ _ _ _ hle, length_rats, hlen,
      Nat.add_sub_cancel_left, getD_map_mul, getD_zipWith_add (hl.trans hw.symm)]

namespace Exported

variable {ds : List Rat} (hd : Exported f us vs l w ds) (hf : f.WellFormed)
include hd

theorem rowDual_eq (hf : f.WellFormed) {i : Nat} {rel : Relation} {q : Rat}
    (hi : f.relations[i]? = some rel) (hq : (rats (rowDuals f us vs))[i]? = some q) :
    rowDual ds i = q := by
  obtain ⟨hlt, -⟩ := List.getElem?_eq_some_iff.1 hi
  rw [hd.row i (hf.relations ▸ hlt), List.getD_eq_getElem?_getD, hq]
  rfl

theorem sense_mul_reducedCost (j : Nat) :
    f.sense * f.reducedCost ds j = l.getD j 0 + w.getD j 0 := by
  rw [hd.column, ← mul_assoc, sense_mul_sense, one_mul]

variable (hk : f.splitForm.Kkt x (rats us) (rats vs) l w)
  (hus : us.length = f.relations.count .le + f.relations.count .ge)
include hf hk

omit hd hk in
theorem length_cost : f.splitForm.cost.length = f.columns :=
  (List.length_map _).trans hf.objective

/-! ### Rows -/

include hus in
theorem stationary {j : Nat} (hj : j < f.columns) :
    f.gain j =
      ∑ i ∈ range f.rows.length, rowDual ds i * f.coefficient i j + f.reducedCost ds j := by
  have h := hk.stationary j ((length_cost hf).symm ▸ hj)
  have hcol : f.relations.length = (f.rows.map fun row => (row.getD j .zero).toRat).length := by
    rw [List.length_map, hf.relations]
  rw [cost_getD, column_upper, column_equal] at h
  have hsum : product (rats (rowDuals f us vs)) (f.rows.map fun row => (row.getD j .zero).toRat) =
      ∑ i ∈ range f.rows.length, rowDual ds i * f.coefficient i j := by
    rw [product_eq_sum ((length_rats _).trans (length_rowDuals hf))]
    refine Finset.sum_congr rfl fun i hi => ?_
    rw [hd.row i (Finset.mem_range.1 hi)]
    congr 1
    exact List.getD_map f.rows [] fun row => (row.getD j .zero).toRat
  rw [← hsum, product_rowDuals hcol hus, hd.column]
  -- the condition holds in the sense of the minimum, and the sense is its own inverse
  linear_combination f.sense * h - f.gain j * f.sense_mul_sense

omit hd in
theorem slack_le {i : Nat} (hi : f.relations[i]? = some .le) (hne : f.rowAt i x ≠ f.constant i) :
    (rats us).getD (slot .le f.relations i) 0 = 0 := by
  obtain ⟨hrow, hrhs⟩ := upper_of_le hf hi
  obtain ⟨hlt, -⟩ := List.getElem?_eq_some_iff.1 hi
  have hlt : i < f.rows.length := hf.relations ▸ hlt
  have hr : f.rows[i]? = some f.rows[i] := List.getElem?_eq_getElem hlt
  refine hk.upperSlack _ (List.getElem?_eq_some_iff.1 (hrow.trans hr)).1 ?_
  rw [getD_of_getElem? hrow, getD_of_getElem? hrhs]
  exact hne

omit hd in
theorem slack_ge {i : Nat} (hi : f.relations[i]? = some .ge) (hne : f.rowAt i x ≠ f.constant i) :
    (rats us).getD (f.relations.count .le + slot .ge f.relations i) 0 = 0 := by
  obtain ⟨hrow, hrhs⟩ := upper_of_ge hf hi
  obtain ⟨hlt, -⟩ := List.getElem?_eq_some_iff.1 hi
  have h1 := hf.relations
  have h2 := hf.rhs
  have hr : f.rows[i]? = some (f.rows.getD i []) := by
    rw [List.getElem?_eq_getElem (by omega), List.getElem_eq_getD]
  have hb : f.rhs[i]? = some (f.rhs.getD i .zero) := by
    rw [List.getElem?_eq_getElem (by omega), List.getElem_eq_getD]
  rw [hr] at hrow
  refine hk.upperSlack _ (List.getElem?_eq_some_iff.1 hrow).1 ?_
  rw [List.getD_eq_getElem?_getD, List.getD_eq_getElem?_getD, hrow, hrhs, hb]
  show product (rats ((f.rows.getD i []).map Scalar.neg)) x ≠ (-f.rhs.getD i .zero).toRat
  rw [rats_map_neg, product_map_mul, neg_one_mul, toRat_neg]
  exact fun h => hne (neg_injective h)

include hus in
theorem tight (hx : f.splitForm.program.allows x = true) {i : Nat} (hi : i < f.rows.length)
    (hne : f.rowAt i x ≠ f.constant i) : rowDual ds i = 0 := by
  have hi' : i < f.relations.length := hf.relations.symm ▸ hi
  have hget := List.getElem?_eq_getElem hi'
  cases hrel : f.relations[i] with
  | le =>
    rw [hrel] at hget
    rw [hd.rowDual_eq hf hget (rowDuals_le hget hus), slack_le hf hk hget hne, mul_zero]
  | ge =>
    rw [hrel] at hget
    rw [hd.rowDual_eq hf hget (rowDuals_ge hget hus), slack_ge hf hk hget hne, mul_zero]
  | eq =>
    rw [hrel] at hget
    rw [allows_splitForm hf] at hx
    exact absurd (of_decide_eq_true (holds_of_allows hf hx hget)) hne

include hus in
theorem sign_le {i : Nat} (hi : f.relations[i]? = some .le) :
    if f.maximize then 0 ≤ rowDual ds i else rowDual ds i ≤ 0 := by
  have hu := getD_nonpos hk.upperSign (slot .le f.relations i)
  rw [hd.rowDual_eq hf hi (rowDuals_le hi hus), sense]
  split
  · linarith
  · linarith

include hus in
theorem sign_ge {i : Nat} (hi : f.relations[i]? = some .ge) :
    if f.maximize then rowDual ds i ≤ 0 else 0 ≤ rowDual ds i := by
  have hu := getD_nonpos hk.upperSign (f.relations.count .le + slot .ge f.relations i)
  rw [hd.rowDual_eq hf hi (rowDuals_ge hi hus), sense]
  split
  · linarith
  · linarith

/-! ### Columns -/

theorem low {j : Nat} (hj : j < f.columns) (hpos : 0 < f.sense * f.reducedCost ds j) :
    (f.lower.getD j .nan).bound? = some (x.getD j 0) := by
  have hwj := getD_nonpos hk.highSign j
  rw [hd.sense_mul_reducedCost] at hpos
  by_contra hne
  rw [hk.lowSlack j ((length_cost hf).symm ▸ hj) ((bounds_getElem? hf hj).1 ▸ hne)] at hpos
  linarith

theorem high {j : Nat} (hj : j < f.columns) (hneg : f.sense * f.reducedCost ds j < 0) :
    (f.upper.getD j .nan).bound? = some (x.getD j 0) := by
  have hlj := getD_nonneg hk.lowSign j
  rw [hd.sense_mul_reducedCost] at hneg
  by_contra hne
  rw [hk.highSlack j ((length_cost hf).symm ▸ hj) ((bounds_getElem? hf hj).2 ▸ hne)] at hneg
  linarith

end Exported

/-- Marginals that belong to a minimum of the split form certify its point. -/
theorem certificate_of_kkt (hf : f.WellFormed)
    (hk : f.splitForm.Kkt x (rats us) (rats vs) l w) (hx : f.splitForm.program.allows x = true)
    (hus : us.length = f.relations.count .le + f.relations.count .ge)
    (hl : l.length = f.columns) (hw : w.length = f.columns) :
    f.Certificate x
      (0 :: rats (rowDuals f us vs) ++ (List.zipWith (· + ·) l w).map (f.sense * ·))
      (product (rats f.objective) x) := by
  have hd := exported_duals hf us vs hl hw
  exact {
    size := hd.size
    padding := hd.padding
    stationary := fun _ hj => hd.stationary hf hk hus hj
    le := fun _ hi => hd.sign_le hf hk hus hi
    ge := fun _ hi => hd.sign_ge hf hk hus hi
    tight := fun _ hi hne => hd.tight hf hk hus hx hi hne
    bound := by
      intro j hj hne
      rcases lt_or_gt_of_ne (mul_ne_zero f.sense_ne_zero hne) with h | h
      · exact .inr (hd.high hf hk hj h)
      · exact .inl (hd.low hf hk hj h)
    low := fun _ hj hpos => hd.low hf hk hj hpos
    high := fun _ hj hneg => hd.high hf hk hj hneg
    value := by
      rw [product_of_stationary hf fun _ hj => hd.stationary hf hk hus hj]
      congr 1
      refine Finset.sum_congr rfl fun i hi => ?_
      by_cases hne : f.rowAt i x = f.constant i
      · rw [hne]
      · rw [hd.tight hf hk hus hx (Finset.mem_range.1 hi) hne, zero_mul, zero_mul] }

end SplitModel

namespace LoadedProblem

variable {β : Type} {backend : SplitModel → Action β SplitAnswer} {p : LoadedProblem β}

/-- Where the backend answers with a minimum and its marginals, the duals that are read back certify
the point and the objective value that are read back. -/
theorem reading_certifies {m : SplitModel} {a : SplitAnswer} {d : Document} {x u v l w : List Rat}
    (hp : p.Formed) (hint : p.formulation.hasInteger = false)
    (hc : Scalar.AllFinite p.formulation.objective)
    (hm : SplitModel.ofFormulation p.formulation = .ok m)
    (ha : (backend m p.backend).result = .ok a) (hstatus : a.status.isInteger 0 = true)
    (hpoint : a.point = some d) (hx : d.ReadsAs x)
    (hcarries : a.Carries p.formulation u v l w) (hallows : m.program.allows x = true)
    (hkkt : m.Kkt x u v l w) :
    ∃ r xs ds, (reading (SplitModel.runner .exact backend) p).result = .ok r ∧
      r.status = .int Status.optimal ∧ r.values = .ofScalars xs ∧ Scalar.rats xs = x ∧
      r.duals = .ofScalars ds ∧ Scalar.AllFinite ds ∧ r.objective.isFinite = true ∧
      p.formulation.Certificate x (Scalar.rats ds) r.objective.toRat := by
  obtain ⟨hreleased, hf⟩ := hp.sound
  obtain rfl : p.formulation.splitForm = m :=
    Except.ok.inj ((SplitModel.ofFormulation_eq hf).symm.trans hm)
  obtain ⟨xs, hxs, hxfin, rfl⟩ := hx
  obtain ⟨us, vs, ds, rfl, rfl, hds, hdsfin, hdsrats⟩ :=
    SplitModel.duals_of_carries hint hcarries fun q _ => (rfl : Rounding.exact q = .finite q)
  have hxlen : xs.length = p.formulation.objective.length := by
    rw [Formulation.allows_splitForm hf, Formulation.allows_iff hf, Scalar.length_rats] at hallows
    exact hallows.1.trans hf.objective.symm
  have hdot := Scalar.dot_exact hc hxfin
  have hk : SplitModel.statusOf a.status a.point = Status.optimal := by
    simp [SplitModel.statusOf, hstatus]
  have hends : (reading (SplitModel.runner .exact backend)).Ends p
      (fun r _ => r = ⟨.int Status.optimal, Scalar.dot .exact p.formulation.objective xs,
        .ofScalars xs, .ofScalars ds⟩) fun _ _ => False := by
    refine ends_reading hreleased (SplitModel.ends_run hf (Action.ends_of_result ha ?_))
    rw [Action.Ends, SplitModel.solution_of_point (by rw [hk]; rfl) hpoint hxs hxlen hds, hk]
    exact ⟨_, _, _, _, rfl, rfl, rfl⟩
  obtain ⟨r, hr, rfl⟩ := hends.exists_result
  refine ⟨_, xs, ds, hr, rfl, rfl, rfl, rfl, hdsfin, hdot.1, ?_⟩
  rw [hdsrats, hdot.2]
  exact SplitModel.certificate_of_kkt hf hkkt hallows
    ((Scalar.length_rats us).symm.trans hcarries.upperSize) hcarries.lowSize hcarries.highSize

/-- Maximize `3x + 2y` with `x ≤ 3` subject to `x + y ≥ 1`, `x - y = 1` and `x + 2y ≤ 7`. -/
def mixedRowEdits : List Edit :=
  let row := fun qs : List Rat => Document.ofScalars (qs.map Scalar.finite)
  [.maximize, .objective (row [0, 3, 2]), .upper (.int 1) (.float (.finite 3)),
   .constraint (row [0, 1, 1]) (.int 2) (.float (.finite 1)),
   .constraint (row [0, 1, -1]) (.int 3) (.float (.finite 1)),
   .constraint (row [0, 1, 2]) (.int 1) (.float (.finite 7))]

/-- The optimum at `(3, 2)` with its marginals. -/
def mixedRowAnswer : SplitAnswer :=
  let numbers := fun qs : List Rat => Document.ofScalars (qs.map Scalar.finite)
  { status := .int 0
    point := some (numbers [3, 2])
    upperMarginals := numbers [-3 / 2, 0]
    equalMarginals := numbers [-1]
    lowMarginals := numbers [0, 0]
    highMarginals := numbers [-1 / 2, 0] }

/-- The backend that gives this answer. -/
def mixedRowBackend : SplitModel → Action Unit SplitAnswer := fun _ => Action.give mixedRowAnswer

theorem reading_certifies_mixed :
    ∃ (p : LoadedProblem Unit) (r : Reading) (ds : List Scalar),
      p.formulation.relations = [.ge, .eq, .le] ∧
      (reading (SplitModel.runner .exact mixedRowBackend) p).result = .ok r ∧
      r.duals = .ofScalars ds ∧
      p.formulation.Certificate [3, 2] (Scalar.rats ds) r.objective.toRat := by
  have hnew : Formed (β := Unit) { formulation := .ofSize 0 2, backend := () } :=
    @Formed.created Unit () 0 2 _ rfl
  have hp := hnew.editAll (show (editAll mixedRowEdits _).result = .ok () from rfl)
  obtain ⟨r, xs, ds, hr, -, -, -, hds, -, -, hcert⟩ :=
    reading_certifies (u := [-3 / 2, 0]) (v := [-1]) (l := [0, 0]) (w := [-1 / 2, 0])
      hp rfl (by decide) (SplitModel.ofFormulation_eq hp.sound.2)
      (rfl : (mixedRowBackend _ ()).result = .ok mixedRowAnswer) (by decide +kernel) rfl
      (Document.readsAs_finite [3, 2])
      ⟨Document.readsAs_finite _, Document.readsAs_finite _, Document.readsAs_finite _,
        Document.readsAs_finite _, rfl, rfl, rfl, rfl⟩
      (by decide +kernel)
      ⟨by decide +kernel, by decide +kernel, by decide +kernel, by decide +kernel,
        by decide +kernel, by decide +kernel, by decide +kernel⟩
  exact ⟨_, r, ds, rfl, hr, hds, hcert⟩

end LoadedProblem

end LinearPrograms
