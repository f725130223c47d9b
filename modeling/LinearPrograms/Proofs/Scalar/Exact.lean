import LinearPrograms.Optimum.Program
import Mathlib.Algebra.BigOperators.Ring.Finset
import Mathlib.Algebra.Order.Ring.Rat
import Mathlib.Data.List.GetD
import Mathlib.Tactic.Ring

/-!
# Scalars as rationals

What the operations on scalars do to the rationals they stand for. A change of sign and the positive
zero are exact whatever the rounding (`toRat_neg`, `toRat_negateIf`, `toRat_plusZero`); sums,
products and dot products of finite scalars are exact under `Rounding.exact` (`toRat_add`,
`toRat_dot`).

The dot product of two lists of rationals, `product`, is linear in both arguments and is the sum of
the products at each position (`product_eq_sum`).
-/

namespace LinearPrograms

namespace Scalar

/-- The rationals that scalars stand for. -/
def rats (xs : List Scalar) : List Rat := xs.map toRat

/-- Do all scalars stand for rationals? -/
def AllFinite (xs : List Scalar) : Prop := ∀ x ∈ xs, x.isFinite = true

instance (xs : List Scalar) : Decidable (AllFinite xs) :=
  inferInstanceAs (Decidable (∀ x ∈ xs, x.isFinite = true))

@[simp] theorem rats_nil : rats [] = [] := rfl

@[simp] theorem rats_cons (x : Scalar) (xs : List Scalar) : rats (x :: xs) = x.toRat :: rats xs :=
  rfl

@[simp] theorem length_rats (xs : List Scalar) : (rats xs).length = xs.length := by simp [rats]

@[simp] theorem getElem?_rats (xs : List Scalar) (i : Nat) :
    (rats xs)[i]? = xs[i]?.map toRat := by simp [rats]

theorem getD_rats (xs : List Scalar) (i : Nat) : (rats xs).getD i 0 = (xs.getD i zero).toRat := by
  simp only [List.getD_eq_getElem?_getD, getElem?_rats]
  cases xs[i]? <;> rfl

@[simp] theorem toRat_zero : zero.toRat = 0 := rfl

theorem AllFinite.append {xs ys : List Scalar} (hx : AllFinite xs) (hy : AllFinite ys) :
    AllFinite (xs ++ ys) := fun z hz => (List.mem_append.1 hz).elim (hx z) (hy z)

theorem AllFinite.cons {x : Scalar} {xs : List Scalar} (hx : x.isFinite = true)
    (h : AllFinite xs) : AllFinite (x :: xs) := by
  intro z hz
  rcases List.mem_cons.1 hz with rfl | hz
  · exact hx
  · exact h z hz

theorem AllFinite.map {f : Scalar → Scalar} (hf : ∀ x, x.isFinite = true → (f x).isFinite = true)
    {xs : List Scalar} (h : AllFinite xs) : AllFinite (xs.map f) := by
  intro z hz
  obtain ⟨x, hx, rfl⟩ := List.mem_map.1 hz
  exact hf x (h x hx)

/-! ## Signs -/

theorem toRat_neg (x : Scalar) : (-x).toRat = -x.toRat := by
  cases x with
  | finite q =>
    show (if q = 0 then negZero else finite (-q)).toRat = -q
    split
    · rename_i h
      rw [h]
      rfl
    · rfl
  | _ => rfl

theorem isFinite_neg (x : Scalar) : (-x).isFinite = x.isFinite := by
  cases x with
  | finite q =>
    show (if q = 0 then negZero else finite (-q)).isFinite = true
    split <;> rfl
  | _ => rfl

theorem toRat_negateIf (b : Bool) (x : Scalar) :
    (negateIf b x).toRat = (if b then -1 else 1) * x.toRat := by
  cases b
  · simp [negateIf]
  · simp [negateIf, toRat_neg]

theorem isFinite_negateIf (b : Bool) (x : Scalar) : (negateIf b x).isFinite = x.isFinite := by
  cases b
  · rfl
  · exact isFinite_neg x

theorem toRat_plusZero (x : Scalar) : x.plusZero.toRat = x.toRat := by cases x <;> rfl

theorem isFinite_plusZero (x : Scalar) : x.plusZero.isFinite = x.isFinite := by cases x <;> rfl

theorem clamped_of_isFinite {x : Scalar} (h : x.isFinite = true) : x.clamped = x := by
  cases x <;> first | rfl | simp [isFinite] at h

theorem map_clamped_of_allFinite {xs : List Scalar} (h : AllFinite xs) : xs.map clamped = xs :=
  (List.map_congr_left fun x hx => clamped_of_isFinite (h x hx)).trans (List.map_id _)

/-! ## Exact sums and products -/

theorem add_exact {x y : Scalar} (hx : x.isFinite = true) (hy : y.isFinite = true) :
    (add Rounding.exact x y).isFinite = true ∧
      (add Rounding.exact x y).toRat = x.toRat + y.toRat := by
  cases x <;> cases y <;> simp_all [add, isFinite, toRat, Rounding.exact]

theorem mul_exact {x y : Scalar} (hx : x.isFinite = true) (hy : y.isFinite = true) :
    (mul finite x y).isFinite = true ∧ (mul finite x y).toRat = x.toRat * y.toRat := by
  have hnx : x.isNan = false := by cases x <;> simp_all [isFinite, isNan]
  have hny : y.isNan = false := by cases y <;> simp_all [isFinite, isNan]
  simp only [mul, hnx, hny, hx, hy, Bool.or_self, Bool.false_eq_true, if_false, Bool.and_self,
    if_true]
  split
  · rename_i hz
    have hprod : x.toRat * y.toRat = 0 := by
      rcases Bool.or_eq_true_iff.1 hz with h | h
      · simp only [isZero, hx, Bool.true_and, decide_eq_true_eq] at h
        rw [h, Rat.zero_mul]
      · simp only [isZero, hy, Bool.true_and, decide_eq_true_eq] at h
        rw [h, Rat.mul_zero]
    rw [hprod]
    unfold signedZero
    split <;> exact ⟨rfl, rfl⟩
  · exact ⟨rfl, rfl⟩

end Scalar

/-! ## Dot products of rationals -/

theorem product_eq_zipWith_sum (xs ys : List Rat) :
    product xs ys = (List.zipWith (· * ·) xs ys).sum := by
  rw [product, List.sum_eq_foldl]

@[simp] theorem product_nil (ys : List Rat) : product [] ys = 0 := rfl

@[simp] theorem product_nil_right (xs : List Rat) : product xs [] = 0 := by
  simp [product_eq_zipWith_sum]

@[simp] theorem product_cons (a b : Rat) (xs ys : List Rat) :
    product (a :: xs) (b :: ys) = a * b + product xs ys := by
  simp [product_eq_zipWith_sum]

theorem product_map_mul (c : Rat) :
    ∀ xs ys : List Rat, product (xs.map (c * ·)) ys = c * product xs ys
  | [], ys => by simp
  | _ :: _, [] => by simp
  | x :: xs, y :: ys => by
    rw [List.map_cons, product_cons, product_cons, product_map_mul c xs ys]
    ring

theorem product_map_mul_right (c : Rat) :
    ∀ xs ys : List Rat, product xs (ys.map (c * ·)) = c * product xs ys
  | [], ys => by simp
  | _ :: _, [] => by simp
  | x :: xs, y :: ys => by
    rw [List.map_cons, product_cons, product_cons, product_map_mul_right c xs ys]
    ring

theorem getD_map_mul (c : Rat) (qs : List Rat) (k : Nat) :
    (qs.map (c * ·)).getD k 0 = c * qs.getD k 0 := by
  have h := List.getD_map qs 0 (c * ·) (n := k)
  rwa [mul_zero] at h

theorem product_append {xs xs' ys ys' : List Rat} (h : xs.length = ys.length) :
    product (xs ++ xs') (ys ++ ys') = product xs ys + product xs' ys' := by
  simp only [product_eq_zipWith_sum, List.zipWith_append h, List.sum_append]

/-- The dot product, position by position; beyond the end of a list its entries count as zero. -/
theorem product_eq_sum {xs ys : List Rat} {n : Nat} (h : xs.length = n) :
    product xs ys = ∑ j ∈ Finset.range n, xs.getD j 0 * ys.getD j 0 := by
  subst h
  induction xs generalizing ys with
  | nil => simp
  | cons x xs ih =>
    cases ys with
    | nil => simp
    | cons y ys =>
      rw [product_cons, ih, List.length_cons, Finset.sum_range_succ']
      simp only [List.getD_cons_succ, List.getD_cons_zero]
      ring

namespace Scalar

/-- The terms of a dot product add up without any rounding. -/
theorem foldl_add_exact :
    ∀ (ps : List (Scalar × Scalar)) (sum : Scalar), sum.isFinite = true →
      (∀ p ∈ ps, p.1.isFinite = true ∧ p.2.isFinite = true) →
      (ps.foldl (fun sum p => add Rounding.exact sum (mul finite p.1 p.2)) sum).isFinite = true ∧
        (ps.foldl (fun sum p => add Rounding.exact sum (mul finite p.1 p.2)) sum).toRat =
          sum.toRat + (ps.map fun p => p.1.toRat * p.2.toRat).sum
  | [], sum, hs, _ => ⟨hs, by simp⟩
  | p :: ps, sum, hs, h => by
    obtain ⟨hp1, hp2⟩ := h p (by simp)
    obtain ⟨hm, hmr⟩ := mul_exact hp1 hp2
    obtain ⟨ha, har⟩ := add_exact hs hm
    obtain ⟨hf, hr⟩ := foldl_add_exact ps _ ha fun q hq => h q (List.mem_cons_of_mem p hq)
    refine ⟨hf, ?_⟩
    rw [List.foldl_cons, hr, har, hmr, List.map_cons, List.sum_cons]
    ring

/-- The dot product of finite scalars is exact. -/
theorem dot_exact {xs ys : List Scalar} (hx : AllFinite xs) (hy : AllFinite ys) :
    (dot Rounding.exact xs ys).isFinite = true ∧
      (dot Rounding.exact xs ys).toRat = product (rats xs) (rats ys) := by
  obtain ⟨hf, hr⟩ := foldl_add_exact (xs.zip ys) zero rfl fun p hp =>
    ⟨hx _ (List.of_mem_zip hp).1, hy _ (List.of_mem_zip hp).2⟩
  refine ⟨hf, hr.trans ?_⟩
  rw [product_eq_zipWith_sum, rats, rats, List.zipWith_map, List.zip, List.map_zipWith, toRat_zero,
    zero_add]

end Scalar

end LinearPrograms
