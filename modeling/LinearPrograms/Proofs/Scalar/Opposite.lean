import LinearPrograms.Proofs.Scalar.Exact
import LinearPrograms.Scalar.Rounding

/-!
# Opposite scalars

`Scalar.Same x y` and `Scalar.Opposite x y`: the second scalar is the first one as it is, or with
its sign changed, where the two zeros count as one. Opposite operands give opposite sums
(`Opposite.add`) and products (`Opposite.mul`), and so opposite coefficients give opposite values at
every point (`opposite_dot`), provided that the rounding treats a number and its opposite alike
(`Rounding.Symmetric`). Exact numbers are so represented (`Rounding.symmetric_exact`), and so are
doubles (`Rounding.symmetric_nearest`).
-/

namespace LinearPrograms

namespace Scalar

/-- The second scalar is the first one; the two zeros count as one. -/
def Same (x y : Scalar) : Prop := x.plusZero = y.plusZero

/-- The second scalar is the first one with its sign changed; the two zeros count as one. -/
def Opposite (x y : Scalar) : Prop := (-x).plusZero = y.plusZero

instance (x y : Scalar) : Decidable (Same x y) := inferInstanceAs (Decidable (_ = _))

instance (x y : Scalar) : Decidable (Opposite x y) := inferInstanceAs (Decidable (_ = _))

variable {x y z w : Scalar}

@[simp] theorem plusZero_neg_finite (q : Rat) : (-finite q).plusZero = finite (-q) := by
  show (if q = 0 then negZero else finite (-q)).plusZero = finite (-q)
  split
  · rename_i h
    rw [h]
    rfl
  · rfl

theorem plusZero_plusZero (x : Scalar) : x.plusZero.plusZero = x.plusZero := by cases x <;> rfl

/-- A change of sign does not tell the two zeros apart. -/
theorem plusZero_neg_plusZero (x : Scalar) : (-x.plusZero).plusZero = (-x).plusZero := by
  cases x <;> rfl

theorem plusZero_neg_neg (x : Scalar) : (- -x).plusZero = x.plusZero := by
  cases x with
  | finite q =>
    rw [← plusZero_neg_plusZero (-finite q), plusZero_neg_finite, plusZero_neg_finite, neg_neg]
    rfl
  | _ => rfl

/-! ## Opposites -/

theorem opposite_zero : Opposite zero zero := rfl

theorem neg_opposite (x : Scalar) : Opposite (-x) x := plusZero_neg_neg x

theorem Opposite.congr (h : Opposite x y) (hx : Same z x) (hy : Same w y) : Opposite z w := by
  unfold Opposite Same at *
  rw [← plusZero_neg_plusZero, hx, plusZero_neg_plusZero, h, hy]

theorem Opposite.plusZero (h : Opposite x y) : Opposite x.plusZero y.plusZero :=
  h.congr (plusZero_plusZero x) (plusZero_plusZero y)

/-- Opposites are rationals that differ by the sign, the two infinities, or indeterminate both. -/
theorem opposite_iff :
    Opposite x y ↔ (x.isFinite = true ∧ y.isFinite = true ∧ y.toRat = -x.toRat) ∨
      (x = nan ∧ y = nan) ∨ (x = posInf ∧ y = negInf) ∨ (x = negInf ∧ y = posInf) := by
  unfold Opposite
  cases x with
  | finite q =>
    rw [plusZero_neg_finite]
    cases y <;> simp [Scalar.plusZero, zero, isFinite, toRat, eq_comm]
  | negZero =>
    rw [show (-negZero).plusZero = finite 0 from rfl]
    cases y <;> simp [Scalar.plusZero, zero, isFinite, toRat, eq_comm]
  | nan =>
    rw [show (-nan).plusZero = nan from rfl]
    cases y <;> simp [Scalar.plusZero, zero, isFinite]
  | posInf =>
    rw [show (-posInf).plusZero = negInf from rfl]
    cases y <;> simp [Scalar.plusZero, zero, isFinite]
  | negInf =>
    rw [show (-negInf).plusZero = posInf from rfl]
    cases y <;> simp [Scalar.plusZero, zero, isFinite]

end Scalar

/-! ## Roundings that treat both signs alike -/

/-- Zero is represented by zero, and opposite numbers by opposite scalars. -/
structure Rounding.Symmetric (round : Rounding) : Prop where
  zero : round 0 = .zero
  neg : ∀ q, (round q).Opposite (round (-q))

theorem Rounding.symmetric_exact : Rounding.exact.Symmetric where
  zero := rfl
  neg q := Scalar.plusZero_neg_finite q

namespace Scalar

theorem opposite_signedZero (b c : Bool) : Opposite (signedZero b) (signedZero c) := by
  cases b <;> cases c <;> rfl

theorem opposite_signedInf (b : Bool) : Opposite (signedInf b) (signedInf !b) := by
  cases b <;> rfl

end Scalar

/-- The nearest double is found from the magnitude, and the sign is put back. -/
theorem Rounding.symmetric_nearest : Rounding.nearest.Symmetric where
  zero := rfl
  neg q := by
    rcases eq_or_ne q 0 with rfl | hq
    · rw [neg_zero]
      rfl
    have hsign : decide (-q < 0) = !decide (q < 0) := by
      rcases lt_or_gt_of_ne hq with h | h
      · simp [h, le_of_lt h]
      · simp [h, le_of_lt h]
    have hmagnitude : (if decide (-q < 0) = true then - -q else -q) =
        if decide (q < 0) = true then -q else q := by
      rw [hsign]
      cases decide (q < 0) <;> simp
    unfold Rounding.nearest
    rw [if_neg hq, if_neg (neg_ne_zero.2 hq)]
    simp only [hmagnitude]
    generalize (if decide (q < 0) = true then -q else q) = m
    generalize roundHalfEven (m / powerOf 2 (quantumExponent m)) *
      powerOf 2 (quantumExponent m) = r
    rw [hsign]
    split
    · exact Scalar.opposite_signedZero _ _
    split
    · exact Scalar.opposite_signedInf _
    · cases decide (q < 0)
      · exact Scalar.plusZero_neg_finite r
      · exact (Scalar.plusZero_neg_finite (-r)).trans (congrArg Scalar.finite (neg_neg r))

/-! ## Sums, products and values at a point -/

namespace Scalar

variable {x x' y y' : Scalar} {round : Rounding}

theorem finite_or_negZero (h : x.isFinite = true) : (∃ q, x = finite q) ∨ x = negZero := by
  cases x <;> simp [isFinite] at h ⊢

/-- The sum of two finite scalars is the sum of their rationals, rounded; only the sum of two
negative zeros is another zero than this gives. -/
theorem same_add_of_isFinite (hround : round 0 = zero) (hx : x.isFinite = true)
    (hy : y.isFinite = true) : Same (add round x y) (round (x.toRat + y.toRat)) := by
  rcases finite_or_negZero hx with ⟨p, rfl⟩ | rfl
  · rcases finite_or_negZero hy with ⟨q, rfl⟩ | rfl <;> rfl
  · rcases finite_or_negZero hy with ⟨q, rfl⟩ | rfl
    · rfl
    · show zero = (round (0 + 0)).plusZero
      rw [add_zero, hround]
      rfl

theorem Opposite.add (hround : round.Symmetric) (hx : Opposite x x') (hy : Opposite y y') :
    Opposite (add round x y) (add round x' y') := by
  rcases opposite_iff.1 hx with ⟨hfx, hfx', hrx⟩ | ⟨rfl, rfl⟩ | ⟨rfl, rfl⟩ | ⟨rfl, rfl⟩
  · rcases opposite_iff.1 hy with ⟨hfy, hfy', hry⟩ | hinfinite
    · have hneg := hround.neg (x.toRat + y.toRat)
      rw [neg_add, ← hrx, ← hry] at hneg
      exact hneg.congr (same_add_of_isFinite hround.zero hfx hfy)
        (same_add_of_isFinite hround.zero hfx' hfy')
    · -- what is not finite decides the sum
      rcases finite_or_negZero hfx with ⟨p, rfl⟩ | rfl <;>
        rcases finite_or_negZero hfx' with ⟨p', rfl⟩ | rfl <;>
        rcases hinfinite with ⟨rfl, rfl⟩ | ⟨rfl, rfl⟩ | ⟨rfl, rfl⟩ <;> rfl
  · rfl
  all_goals
    rcases opposite_iff.1 hy with ⟨hfy, hfy', -⟩ | ⟨rfl, rfl⟩ | ⟨rfl, rfl⟩ | ⟨rfl, rfl⟩
    · rcases finite_or_negZero hfy with ⟨q, rfl⟩ | rfl <;>
        rcases finite_or_negZero hfy' with ⟨q', rfl⟩ | rfl <;> rfl
    all_goals rfl

/-- Of what kind a scalar is does not depend on its sign. -/
theorem Opposite.kind_eq (h : Opposite x x') :
    x'.isNan = x.isNan ∧ x'.isFinite = x.isFinite ∧ x'.isZero = x.isZero := by
  rcases opposite_iff.1 h with ⟨hf, hf', hr⟩ | ⟨rfl, rfl⟩ | ⟨rfl, rfl⟩ | ⟨rfl, rfl⟩
  · refine ⟨?_, hf'.trans hf.symm, by simp [isZero, hf, hf', hr]⟩
    rcases finite_or_negZero hf with ⟨p, rfl⟩ | rfl <;>
      rcases finite_or_negZero hf' with ⟨p', rfl⟩ | rfl <;> rfl
  all_goals exact ⟨rfl, rfl, rfl⟩

/-- Opposites other than zero have opposite signs. -/
theorem Opposite.isNegative_eq (h : Opposite x x') (hnan : x.isNan = false)
    (hzero : x.isZero = false) : x'.isNegative = !x.isNegative := by
  rcases opposite_iff.1 h with ⟨hf, hf', hr⟩ | ⟨rfl, rfl⟩ | ⟨rfl, rfl⟩ | ⟨rfl, rfl⟩
  · have hne : x.toRat ≠ 0 := by simpa [isZero, hf] using hzero
    rcases finite_or_negZero hf with ⟨p, rfl⟩ | rfl
    · rcases finite_or_negZero hf' with ⟨p', rfl⟩ | rfl
      · obtain rfl : p' = -p := hr
        rcases lt_or_gt_of_ne (show p ≠ 0 from hne) with hp | hp
        · simp [isNegative, hp, le_of_lt hp]
        · simp [isNegative, hp, le_of_lt hp]
      · exact absurd (neg_eq_zero.1 hr.symm) hne
    · exact absurd rfl hne
  · cases hnan
  all_goals rfl

/-- Opposite coefficients have opposite products with one scalar. -/
theorem Opposite.mul (h : Opposite x x') (y : Scalar) :
    Opposite (mul finite x y) (mul finite x' y) := by
  obtain ⟨hnan, hfinite, hzero⟩ := h.kind_eq
  unfold Scalar.mul
  simp only [hnan, hfinite, hzero]
  split
  · rfl
  rename_i hdeterminate
  split
  · rename_i hboth
    split
    · exact opposite_signedZero _ _
    · obtain ⟨hf, -⟩ := Bool.and_eq_true_iff.1 hboth
      rcases opposite_iff.1 h with ⟨-, -, hr⟩ | ⟨rfl, rfl⟩ | ⟨rfl, rfl⟩ | ⟨rfl, rfl⟩
      · rw [hr, neg_mul]
        exact plusZero_neg_finite _
      all_goals cases hf
  split
  · rfl
  · rename_i hnonzero
    simp only [Bool.or_eq_true, not_or, Bool.not_eq_true] at hdeterminate hnonzero
    rw [h.isNegative_eq hdeterminate.1 hnonzero.1, Bool.not_bne]
    exact opposite_signedInf _

/-- Opposite coefficients give opposite values at a point. -/
theorem opposite_dot (hround : round.Symmetric) {xs xs' : List Scalar}
    (h : List.Forall₂ Opposite xs xs') (ys : List Scalar) :
    Opposite (dot round xs ys) (dot round xs' ys) := by
  suffices hsum : ∀ s s', Opposite s s' →
      Opposite ((xs.zip ys).foldl (fun sum p => Scalar.add round sum (mul finite p.1 p.2)) s)
        ((xs'.zip ys).foldl (fun sum p => Scalar.add round sum (mul finite p.1 p.2)) s') from
    hsum zero zero opposite_zero
  induction h generalizing ys with
  | nil => exact fun s s' hs => hs
  | cons hx _ ih =>
    intro s s' hs
    cases ys with
    | nil => exact hs
    | cons y ys => exact ih ys _ _ (hs.add hround (hx.mul y))

end Scalar

end LinearPrograms
