import LinearPrograms.Scalar.Rounding
import Mathlib.Algebra.Order.Archimedean.Basic
import Mathlib.Data.Rat.Floor
import Mathlib.Tactic.Linarith

/-!
# Integers in the range of doubles

An integer other than zero is rounded to a significand of 53 binary digits (`significand_bounds`),
and so to a magnitude in its own binade or to the beginning of the next one
(`roundedMagnitude_bounds`). It gets to the next one from half a quantum below on, since the
significand there is even (`le_roundHalfEven_iff`). Doubles end with the binade below `2^1024`, so
an integer is represented by one exactly if its magnitude is less than `overflowThreshold`
(`isFinite_nearest`).
-/

namespace LinearPrograms

theorem powerOf_two (k : Int) : powerOf 2 k = (2 : Rat) ^ k := by
  unfold powerOf
  split
  · rename_i hk
    obtain ⟨n, rfl⟩ := Int.eq_ofNat_of_zero_le hk
    simp
  · rename_i hk
    obtain ⟨n, rfl⟩ : ∃ n : Nat, k = -n := ⟨(-k).toNat, by omega⟩
    simp [Rat.mkRat_eq_div]

/-! ## Rounding to integers -/

variable {q : Rat} {k : Int}

/-- Rounding stays between the integers on both sides. -/
theorem roundHalfEven_bounds (q : Rat) :
    q.floor ≤ roundHalfEven q ∧ roundHalfEven q ≤ q.floor + 1 := by
  unfold roundHalfEven
  simp only
  split_ifs <;> omega

theorem le_roundHalfEven (h : (k : Rat) ≤ q) : k ≤ roundHalfEven q :=
  (Int.le_floor.2 h).trans (roundHalfEven_bounds q).1

theorem roundHalfEven_le (h : q < k) : roundHalfEven q ≤ k := by
  have hfloor : q.floor < k := Int.floor_lt.2 h
  have hbound := (roundHalfEven_bounds q).2
  omega

/-- An even integer is reached from half below it on. -/
theorem le_roundHalfEven_iff (hk : k % 2 = 0) : k ≤ roundHalfEven q ↔ (k : Rat) - 1 / 2 ≤ q := by
  have hlow : (q.floor : Rat) ≤ q := Int.floor_le q
  have hhigh : q < q.floor + 1 := Int.lt_floor_add_one q
  unfold roundHalfEven
  simp only
  generalize q.floor = low at hlow hhigh
  rcases lt_trichotomy k (low + 1) with h | rfl | h
  · have hle : (k : Rat) ≤ low := by exact_mod_cast Int.lt_add_one_iff.1 h
    refine iff_of_true ?_ (by linarith)
    split_ifs <;> omega
  · -- only at the next integer does the part behind the point count
    have hodd : low % 2 ≠ 0 := by omega
    push_cast
    split_ifs
    · exact iff_of_false (by omega) (by linarith)
    · exact iff_of_true le_rfl (by linarith)
    · exact iff_of_true le_rfl (by linarith)
  · have hlt : (low : Rat) + 2 ≤ k := by exact_mod_cast (show low + 2 ≤ k by omega)
    refine iff_of_false ?_ (by linarith)
    split_ifs <;> omega

/-! ## The exponent of an integer -/

theorem binaryExponent_natCast {n : Nat} (hn : n ≠ 0) : binaryExponent n = n.log2 := by
  have hle : ¬(n : Rat) < 2 ^ n.log2 := by
    rw [not_lt]
    exact_mod_cast Nat.log2_self_le hn
  have hone : (1 : Nat).log2 = 0 := rfl
  unfold binaryExponent
  simp only [Rat.num_natCast, Rat.den_natCast, Int.natAbs_natCast, powerOf_two, hone, Nat.cast_zero,
    sub_zero, zpow_natCast, if_neg hle]

theorem quantumExponent_natCast {n : Nat} (hn : n ≠ 0) :
    quantumExponent n = (n.log2 : Int) - 52 := by
  rw [quantumExponent, binaryExponent_natCast hn]
  omega

/-! ## The range -/

/-- Half a quantum below `2^(54 + k)`, the end of the binade in which the quantum is `2^(k + 1)`. -/
def halfBelow (k : Nat) : Nat := (2 ^ 54 - 1) * 2 ^ k

theorem halfBelow_le (k : Nat) : halfBelow k ≤ 2 ^ (54 + k) := by
  rw [halfBelow, Nat.pow_add]
  exact Nat.mul_le_mul_right _ (Nat.sub_le _ _)

theorem halfBelow_pos (k : Nat) : 0 < halfBelow k :=
  Nat.mul_pos (by norm_num) (Nat.two_pow_pos k)

theorem lt_halfBelow (k : Nat) : 2 ^ (53 + k) < halfBelow k := by
  rw [halfBelow, Nat.pow_add]
  exact Nat.mul_lt_mul_of_pos_right (by norm_num) (Nat.two_pow_pos _)

/-- The quantum of an integer makes the last of 53 binary digits. -/
theorem mul_quantum (n k : Nat) :
    (2 : Rat) ^ (52 + k) * 2 ^ ((n.log2 : Int) - 52) = 2 ^ (n.log2 + k) := by
  rw [← zpow_natCast, ← zpow_natCast, ← zpow_add₀ two_ne_zero]
  congr 1
  push_cast
  omega

/-- The significand of an integer, before it is rounded, has 53 binary digits before the point. -/
theorem significand_bounds {n : Nat} (hn : n ≠ 0) :
    ((2 ^ 52 : Int) : Rat) ≤ n / (2 : Rat) ^ ((n.log2 : Int) - 52) ∧
      n / (2 : Rat) ^ ((n.log2 : Int) - 52) < ((2 ^ 53 : Int) : Rat) := by
  have hpos : (0 : Rat) < 2 ^ ((n.log2 : Int) - 52) := zpow_pos two_pos _
  have hlow : (2 : Rat) ^ n.log2 ≤ n := by exact_mod_cast Nat.log2_self_le hn
  have hhigh : (n : Rat) < 2 ^ (n.log2 + 1) := by exact_mod_cast Nat.lt_log2_self
  rw [le_div_iff₀ hpos, div_lt_iff₀ hpos]
  rw [← mul_quantum] at hhigh
  rw [← Nat.add_zero n.log2, ← mul_quantum] at hlow
  push_cast
  exact ⟨hlow, hhigh⟩

/-- The magnitude that a positive integer is rounded to. -/
def roundedMagnitude (n : Nat) : Rat :=
  roundHalfEven (n / (2 : Rat) ^ ((n.log2 : Int) - 52)) * 2 ^ ((n.log2 : Int) - 52)

/-- An integer is rounded to a magnitude in its own binade, or to the beginning of the next one. -/
theorem roundedMagnitude_bounds {n : Nat} (hn : n ≠ 0) :
    (2 : Rat) ^ n.log2 ≤ roundedMagnitude n ∧ roundedMagnitude n ≤ 2 ^ (n.log2 + 1) := by
  have hpos : (0 : Rat) < 2 ^ ((n.log2 : Int) - 52) := zpow_pos two_pos _
  obtain ⟨hlow, hhigh⟩ := significand_bounds hn
  have hleft : ((2 ^ 52 : Int) : Rat) ≤ roundHalfEven (n / (2 : Rat) ^ ((n.log2 : Int) - 52)) := by
    exact_mod_cast le_roundHalfEven hlow
  have hright : (roundHalfEven (n / (2 : Rat) ^ ((n.log2 : Int) - 52)) : Rat) ≤ (2 ^ 53 : Int) := by
    exact_mod_cast roundHalfEven_le hhigh
  rw [← Nat.add_zero n.log2, ← mul_quantum, Nat.add_zero, ← mul_quantum n 1, roundedMagnitude]
  push_cast at hleft hright
  exact ⟨mul_le_mul_of_nonneg_right hleft hpos.le, mul_le_mul_of_nonneg_right hright hpos.le⟩

/-- In the binade itself, what is rounded up to its end begins half a quantum before. -/
theorem le_roundedMagnitude_of_log2 {n k : Nat} (hlog : n.log2 = 53 + k) :
    (2 : Rat) ^ (54 + k) ≤ roundedMagnitude n ↔ halfBelow k ≤ n := by
  have hpos : (0 : Rat) < 2 ^ (k + 1) := pow_pos two_pos _
  have hexp : ((53 + k : Nat) : Int) - 52 = ((k + 1 : Nat) : Int) := by omega
  have hbound : (2 : Rat) ^ (54 + k) = ((2 ^ 53 : Int) : Rat) * 2 ^ (k + 1) := by
    rw [show 54 + k = 53 + (k + 1) by omega, pow_add]
    norm_num
  have hhalf : (((2 ^ 53 : Int) : Rat) - 1 / 2) * 2 ^ (k + 1) = halfBelow k := by
    rw [halfBelow, pow_succ']
    push_cast
    ring
  rw [roundedMagnitude, hlog, hexp, zpow_natCast, hbound, mul_le_mul_iff_left₀ hpos, Int.cast_le,
    le_roundHalfEven_iff (by decide), le_div_iff₀ hpos, hhalf, Nat.cast_le]

/-- And before that binade nothing is, and behind it everything. -/
theorem le_roundedMagnitude_iff {n : Nat} (hn : n ≠ 0) (k : Nat) :
    (2 : Rat) ^ (54 + k) ≤ roundedMagnitude n ↔ halfBelow k ≤ n := by
  obtain ⟨hlow, hhigh⟩ := roundedMagnitude_bounds hn
  rcases lt_trichotomy n.log2 (53 + k) with h | h | h
  · have hnext : (2 : Rat) ^ (n.log2 + 1) < 2 ^ (54 + k) :=
      pow_lt_pow_right₀ one_lt_two (by omega)
    have hlt : n < 2 ^ (53 + k) := Nat.lt_log2_self.trans_le (Nat.pow_le_pow_right two_pos h)
    refine iff_of_false (fun hle => ?_) (fun hle => ?_)
    · exact absurd (hle.trans hhigh) (not_le.2 hnext)
    · exact absurd (hlt.trans (lt_halfBelow k)) (not_lt.2 hle)
  · exact le_roundedMagnitude_of_log2 h
  · have hexp : 54 + k ≤ n.log2 := by omega
    refine iff_of_true ?_ ?_
    · exact (pow_le_pow_right₀ one_le_two hexp).trans hlow
    · calc halfBelow k ≤ 2 ^ (54 + k) := halfBelow_le k
        _ ≤ 2 ^ n.log2 := Nat.pow_le_pow_right two_pos hexp
        _ ≤ n := Nat.log2_self_le hn

/-- The least magnitude that is rounded out of the range of doubles, half a quantum below `2^1024`.
-/
def overflowThreshold : Nat := halfBelow 970

theorem isFinite_ite {c d : Prop} [Decidable c] [Decidable d] {b : Bool} {q : Rat} :
    (if c then Scalar.signedZero b else if d then Scalar.signedInf b
      else .finite q).isFinite = true ↔ c ∨ ¬d := by
  cases b <;> by_cases hc : c <;> by_cases hd : d <;>
    simp [hc, hd, Scalar.signedZero, Scalar.signedInf, Scalar.isFinite, Scalar.zero]

/-- An integer is represented by a double exactly if its magnitude is below the threshold. -/
theorem isFinite_nearest (i : Int) :
    (Rounding.nearest i).isFinite = true ↔ i.natAbs < overflowThreshold := by
  rcases eq_or_ne i 0 with rfl | hi
  · exact iff_of_true rfl (halfBelow_pos 970)
  have hn : i.natAbs ≠ 0 := Int.natAbs_ne_zero.2 hi
  have hmagnitude : (if decide ((i : Rat) < 0) = true then -(i : Rat) else i) = i.natAbs := by
    rw [Nat.cast_natAbs, Int.cast_abs]
    split
    · rename_i hneg
      rw [abs_of_neg (of_decide_eq_true hneg)]
    · rename_i hnonneg
      rw [abs_of_nonneg (by simpa using hnonneg)]
  have hpositive : roundedMagnitude i.natAbs ≠ 0 :=
    ((pow_pos two_pos _).trans_le (roundedMagnitude_bounds hn).1).ne'
  have hbound : overflowBound = (2 : Rat) ^ (54 + 970) := powerOf_two 1024
  unfold Rounding.nearest
  rw [if_neg (by exact_mod_cast hi)]
  simp only [hmagnitude, powerOf_two, quantumExponent_natCast hn]
  rw [isFinite_ite, ← roundedMagnitude, or_iff_right hpositive, hbound,
    le_roundedMagnitude_iff hn, not_le, overflowThreshold]

end LinearPrograms
