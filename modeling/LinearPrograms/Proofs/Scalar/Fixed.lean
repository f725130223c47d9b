import LinearPrograms.Proofs.Scalar.Range
import LinearPrograms.Scalar.Show

/-!
# Scalars with a fixed number of places

`Scalar.Fixes places x s` says which text shows a scalar with a number of places: a sign, digits
around a point, and the digits are those of the integer that is nearest to the magnitude, scaled by
a power of ten (`IsNearest`). It is told by what the text reads as, not by how it is made. The text
that is made is such a text (`Scalar.fixes_fixed`), since rounding gives the nearest integer
(`isNearest_roundHalfEven`) and the digits are those of the rounded number
(`Decimal.parts_fixedDigits`).
-/

namespace LinearPrograms

/-! ## The nearest integer -/

/-- The integer is nearest to the rational, and even if another one is as near. -/
structure IsNearest (q : Rat) (k : Int) : Prop where
  near : |q - k| ≤ 1 / 2
  even : |q - k| = 1 / 2 → k % 2 = 0

theorem isNearest_of_lt {q : Rat} {k : Int} (h : |q - k| < 1 / 2) : IsNearest q k :=
  ⟨h.le, fun hhalf => absurd hhalf h.ne⟩

theorem isNearest_roundHalfEven (q : Rat) : IsNearest q (roundHalfEven q) := by
  have hlow : (q.floor : Rat) ≤ q := Int.floor_le q
  have hhigh : q < q.floor + 1 := Int.lt_floor_add_one q
  unfold roundHalfEven
  simp only
  generalize q.floor = low at hlow hhigh ⊢
  have hnext : ((low + 1 : Int) : Rat) = low + 1 := by push_cast; rfl
  split_ifs with hbelow habove heven
  · exact isNearest_of_lt (abs_lt.2 ⟨by linarith, by linarith⟩)
  · exact isNearest_of_lt (abs_lt.2 ⟨by linarith, by linarith⟩)
  · have hhalf : |q - low| = 1 / 2 := by rw [abs_of_nonneg (by linarith)]; linarith
    exact ⟨hhalf.le, fun _ => heven⟩
  · have hhalf : |q - (low + 1 : Int)| = 1 / 2 := by rw [abs_of_nonpos (by linarith)]; linarith
    exact ⟨hhalf.le, fun _ => by omega⟩

/-! ## Digits around a point -/

namespace Decimal

/-- A natural number as it is written: with a digit, and without a zero in front of another digit. -/
structure IsWhole (cs : List Char) : Prop where
  digits : ∀ c ∈ cs, c.isDigit = true
  nonempty : cs ≠ []
  leading : cs.head? = some '0' → cs.length = 1

/-- Digits before and behind a point, which are together those of a natural number. -/
structure Parts (places k : Nat) (whole fraction : List Char) : Prop where
  isWhole : IsWhole whole
  digits : ∀ c ∈ fraction, c.isDigit = true
  length : fraction.length = places
  value : Nat.ofDigitChars 10 (whole ++ fraction) 0 = k

/-- Only the digits of zero begin with a zero. -/
theorem eq_zero_of_head (n : Nat) (h : (digits n).head? = some '0') : n = 0 := by
  induction n using Nat.strongRecOn with
  | ind n ih =>
    rw [digits, Nat.toDigits_eq_if (by decide)] at h
    split at h
    · rename_i hn
      have hdigit : ∀ m < 10, m.digitChar = '0' → m = 0 := by decide
      exact hdigit n hn (Option.some.inj h)
    · have hne : Nat.toDigits 10 (n / 10) ≠ [] := Nat.toDigits_ne_nil
      rw [List.head?_append_of_ne_nil _ hne] at h
      have hzero := ih (n / 10) (by omega) h
      omega

/-- Digits with zeros in front of them, at least one digit more than there are places. -/
def padded (places n : Nat) : List Char :=
  List.replicate (places + 1 - (digits n).length) '0' ++ digits n

theorem lt_length_padded (places n : Nat) : places < (padded places n).length := by
  rw [padded, List.length_append, List.length_replicate]
  omega

theorem digits_padded (places n : Nat) : ∀ c ∈ padded places n, c.isDigit = true := by
  intro c hc
  rcases List.mem_append.1 hc with hc | hc
  · obtain rfl := List.eq_of_mem_replicate hc
    rfl
  · exact Nat.isDigit_of_mem_toDigits (by decide) (by decide) hc

theorem value_padded (places n : Nat) : Nat.ofDigitChars 10 (padded places n) 0 = n := by
  rw [padded, Nat.ofDigitChars_append, Nat.ofDigitChars_replicate_zero, Nat.mul_zero, digits,
    Nat.ofDigitChars_toDigits (by decide) (by decide)]

/-- Zeros in front are put only before one digit. -/
theorem length_of_head_padded {places n : Nat} (h : (padded places n).head? = some '0') :
    (padded places n).length = places + 1 := by
  rw [padded] at h ⊢
  rw [List.length_append, List.length_replicate]
  by_cases hlong : places + 1 ≤ (digits n).length
  · rw [Nat.sub_eq_zero_of_le hlong, List.replicate_zero, List.nil_append] at h
    obtain rfl := eq_zero_of_head n h
    have hone : (digits 0).length = 1 := rfl
    omega
  · omega

theorem isWhole_take_padded (places n : Nat) :
    IsWhole ((padded places n).take ((padded places n).length - places)) := by
  have hlong := lt_length_padded places n
  refine ⟨fun c hc => digits_padded places n c (List.mem_of_mem_take hc), ?_, fun h => ?_⟩
  · intro hnil
    have hlength := congrArg List.length hnil
    rw [List.length_take, List.length_nil] at hlength
    omega
  · rw [List.head?_take, if_neg (by omega)] at h
    rw [List.length_take, length_of_head_padded h]
    omega

/-- The digits are those of the number that is rounded. -/
theorem parts_fixedDigits (places : Nat) (q : Rat) :
    Parts places (roundHalfEven (q * powerOf 10 places)).toNat (fixedDigits places q).1
      (fixedDigits places q).2 := by
  generalize hn : (roundHalfEven (q * powerOf 10 places)).toNat = n
  have hlong := lt_length_padded places n
  have hsplit : fixedDigits places q =
      (padded places n).splitAt ((padded places n).length - places) := by rw [← hn]; rfl
  rw [hsplit, List.splitAt_eq]
  refine ⟨isWhole_take_padded _ _, fun c hc => ?_, ?_, ?_⟩
  · exact digits_padded _ _ c (List.mem_of_mem_drop hc)
  · rw [List.length_drop]
    omega
  · rw [List.take_append_drop, value_padded]

end Decimal

/-! ## Scalars -/

namespace Scalar

/-- The text shows the scalar, rounded to a number of places. -/
inductive Fixes (places : Nat) : Scalar → String → Prop
  | nan : Fixes places .nan "nan"
  | posInf : Fixes places .posInf "inf"
  | negInf : Fixes places .negInf "-inf"
  | number {x : Scalar} {k : Nat} {whole fraction : List Char} : x.isFinite = true →
      IsNearest (|x.toRat| * 10 ^ places) k → Decimal.Parts places k whole fraction →
      Fixes places x (.ofList ((if x.isNegative then ['-'] else []) ++ whole ++
        if places = 0 then [] else '.' :: fraction))

/-- The text is on one line. -/
theorem Fixes.oneLine {places : Nat} {x : Scalar} {s : String} (h : Fixes places x s) :
    '\n' ∉ s.toList := by
  have hdigits : ∀ {cs : List Char}, (∀ c ∈ cs, c.isDigit = true) → '\n' ∉ cs :=
    fun hcs hmem => absurd (hcs _ hmem) (by decide)
  cases h with
  | nan | posInf | negInf => decide
  | number _ _ hparts =>
    rw [String.toList_ofList, List.mem_append, List.mem_append, not_or, not_or]
    refine ⟨⟨?_, hdigits hparts.isWhole.digits⟩, ?_⟩
    · split <;> decide
    · split
      · exact List.not_mem_nil
      · rw [List.mem_cons, not_or]
        exact ⟨by decide, hdigits hparts.digits⟩

theorem powerOf_ten (places : Nat) : powerOf 10 places = (10 : Rat) ^ places := by
  simp [powerOf]

/-- A number is written as its sign and its magnitude. -/
theorem fixed_of_isFinite {x : Scalar} (places : Nat) (h : x.isFinite = true) :
    x.fixed places = .ofList ((if x.isNegative then ['-'] else []) ++
      fixedMagnitude places |x.toRat|) := by
  have hsign : ∀ (negative : Bool) (body : List Char),
      (if negative then '-' :: body else body) = (if negative then ['-'] else []) ++ body := by
    intro negative body
    cases negative <;> rfl
  cases x with
  | nan | posInf | negInf => cases h
  | negZero =>
    rw [show negZero.toRat = 0 from rfl, abs_zero]
    rfl
  | finite q =>
    rw [fixed, written, hsign]
    by_cases hzero : q = 0
    · rw [if_pos hzero, hzero, toRat, abs_zero]
    · rw [if_neg hzero, toRat]
      by_cases hneg : q < 0
      · rw [if_pos hneg, abs_of_neg hneg]
      · rw [if_neg hneg, abs_of_nonneg (not_lt.1 hneg)]

theorem fixedMagnitude_eq (places : Nat) (q : Rat) :
    fixedMagnitude places q = (Decimal.fixedDigits places q).1 ++
      if places = 0 then [] else '.' :: (Decimal.fixedDigits places q).2 := by
  rw [fixedMagnitude]
  split
  · exact (List.append_nil _).symm
  · rfl

/-- The text with a number of places shows the scalar. -/
theorem fixes_fixed (places : Nat) (x : Scalar) : Fixes places x (x.fixed places) := by
  by_cases h : x.isFinite = true
  · have hscaled : 0 ≤ |x.toRat| * 10 ^ places := by positivity
    have hnonneg : 0 ≤ roundHalfEven (|x.toRat| * 10 ^ places) :=
      le_roundHalfEven (by exact_mod_cast hscaled)
    have hnearest := isNearest_roundHalfEven (|x.toRat| * 10 ^ places)
    have hparts := Decimal.parts_fixedDigits places |x.toRat|
    rw [powerOf_ten] at hparts
    rw [← Int.toNat_of_nonneg hnonneg] at hnearest
    rw [fixed_of_isFinite places h, fixedMagnitude_eq, ← List.append_assoc]
    exact .number h hnearest hparts
  · cases x with
    | nan => exact .nan
    | posInf => exact .posInf
    | negInf => exact .negInf
    | finite _ | negZero => exact absurd rfl h

/-- A number that is rounded to zero keeps its sign. -/
example : (finite (-1 / 4000000)).fixed 6 = "-0.000000" := by decide +kernel

end Scalar

end LinearPrograms
