import LinearPrograms.Proofs.Engine.Running

/-!
# The duals that a split answer gives

A split answer carries four blocks of sensitivities of a minimum: of the rows `≤` and the negated
rows `≥`, of the rows `=`, and of the lower and the upper bounds. `SplitModel.duals_of_blocks` says
which array of duals comes of blocks that read as rationals: a zero, `SplitModel.rowDuals` in the
order of the rows, and one reduced cost per column. Only the sum of the two bound blocks is rounded.

A row's dual is found in the slot of the row (`rowDuals_le`, `rowDuals_ge`, `rowDuals_eq`), and a
weighted sum of the duals is the weighted sum of the blocks, the weights split as the rows are
(`product_rowDuals`).
-/

namespace LinearPrograms

/-- The value is a list of numbers with these rationals. -/
def Document.ReadsAs (d : Document) (qs : List Rat) : Prop :=
  ∃ xs, Tensor.ofDocument d = .ok (.ofScalars xs) ∧ Scalar.AllFinite xs ∧ Scalar.rats xs = qs

theorem Document.readsAs_finite (qs : List Rat) :
    (Document.ofScalars (qs.map Scalar.finite)).ReadsAs qs := by
  refine ⟨_, Tensor.ofDocument_ofScalars _, ?_, ?_⟩
  · intro x hx
    obtain ⟨q, -, rfl⟩ := List.mem_map.1 hx
    rfl
  · rw [Scalar.rats, List.map_map]
    exact List.map_id _

/-- The rounding represents a rational and its opposite by themselves. -/
def Rounding.Represents (round : Rounding) (q : Rat) : Prop :=
  round q = .finite q ∧ round (-q) = .finite (-q)

instance (round : Rounding) (q : Rat) : Decidable (round.Represents q) :=
  inferInstanceAs (Decidable (round q = .finite q ∧ round (-q) = .finite (-q)))

namespace Scalar

theorem add_of_represents {round : Rounding} {x y : Scalar} (hx : x.isFinite = true)
    (hy : y.isFinite = true) (h : round (x.toRat + y.toRat) = .finite (x.toRat + y.toRat)) :
    (add round x y).isFinite = true ∧ (add round x y).toRat = x.toRat + y.toRat := by
  cases x <;> cases y <;> simp_all [add, isFinite, toRat]

theorem rats_append (xs ys : List Scalar) : rats (xs ++ ys) = rats xs ++ rats ys :=
  List.map_append

theorem rats_map_plusZero (xs : List Scalar) : rats (xs.map plusZero) = rats xs := by
  simp only [rats, List.map_map]
  exact List.map_congr_left fun x _ => toRat_plusZero x

theorem AllFinite.tail {xs : List Scalar} (h : AllFinite xs) : AllFinite xs.tail :=
  fun x hx => h x (List.mem_of_mem_tail hx)

theorem AllFinite.headD {xs : List Scalar} (h : AllFinite xs) :
    (xs.headD zero).isFinite = true := by
  cases xs with
  | nil => rfl
  | cons x xs => exact h x (.head xs)

/-- Sums entry by entry, each of which is represented. -/
theorem zipWith_add_of_represents {round : Rounding} :
    ∀ {xs ys : List Scalar}, AllFinite xs → AllFinite ys →
      (∀ q ∈ List.zipWith (· + ·) (rats xs) (rats ys), round q = .finite q) →
      AllFinite (List.zipWith (add round) xs ys) ∧
        rats (List.zipWith (add round) xs ys) = List.zipWith (· + ·) (rats xs) (rats ys)
  | [], ys, _, _, _ => by simp [AllFinite]
  | _ :: _, [], _, _, _ => by simp [AllFinite]
  | x :: xs, y :: ys, hx, hy, h => by
    have hxy := add_of_represents (hx x (by simp)) (hy y (by simp)) (h _ (by simp))
    have hxs : AllFinite xs := hx.tail
    have hys : AllFinite ys := hy.tail
    have ih := zipWith_add_of_represents hxs hys fun q hq => h q (.tail _ hq)
    rw [List.zipWith_cons_cons, rats_cons, rats_cons, rats_cons, List.zipWith_cons_cons, hxy.2,
      ih.2]
    exact ⟨ih.1.cons hxy.1, rfl⟩

end Scalar

namespace SplitModel

open Scalar

variable {f : Formulation} {a : SplitAnswer} {round : Rounding}

/-- A block that is a list of numbers of the right size is taken over. -/
theorem marginals_of_reads {size : Nat} {d : Document} {xs : List Scalar}
    (hd : Tensor.ofDocument d = .ok (.ofScalars xs)) (hn : xs.length = size)
    (hx : AllFinite xs) : marginals size d = .ok xs := by
  have hpresent : d.isPresent = true := by
    cases d with
    | null => cases hd
    | _ => rfl
  rw [marginals, if_pos hpresent, hd]
  show (if [xs.length] = [size] then Except.ok (xs.map clamped) else _) = _
  rw [hn, if_pos rfl, map_clamped_of_allFinite hx]

/-- The duals of the rows that the blocks of the rows `≤` and `=` give. -/
def rowDuals (f : Formulation) (upper equal : List Scalar) : List Scalar :=
  scatter f.relations ((upper.take (count .le f.relations)).map (negateIf f.maximize))
    ((upper.drop (count .le f.relations)).map fun x => -negateIf f.maximize x)
    (equal.map (negateIf f.maximize))

section
variable {i : Nat} {us vs : List Scalar}

theorem toRat_neg_negateIf (b : Bool) (x : Scalar) :
    (-negateIf b x).toRat = -(if b then -1 else 1) * x.toRat := by
  rw [toRat_neg, toRat_negateIf, neg_mul]

/-- The dual of a row `≤` is in its slot of the first block. -/
theorem rowDuals_le (hi : f.relations[i]? = some .le)
    (hlen : us.length = f.relations.count .le + f.relations.count .ge) :
    (rats (rowDuals f us vs))[i]? =
      some (f.sense * (rats us).getD (slot .le f.relations i) 0) := by
  have hslot : slot .le f.relations i < f.relations.count .le := slot_lt_count hi
  have hget : us[slot .le f.relations i]? = some us[slot .le f.relations i] :=
    List.getElem?_eq_getElem (by omega)
  rw [getElem?_rats, rowDuals, getElem?_scatter hi, getD_rats]
  simp only [block, List.getD_eq_getElem?_getD, List.getElem?_map, List.getElem?_take, count_eq,
    hslot, if_true, hget, Option.map_some, Option.getD_some, toRat_negateIf]
  rfl

/-- The dual of a row `≥` is in its slot behind the rows `≤`, with the opposite sign. -/
theorem rowDuals_ge (hi : f.relations[i]? = some .ge)
    (hlen : us.length = f.relations.count .le + f.relations.count .ge) :
    (rats (rowDuals f us vs))[i]? =
      some (-f.sense * (rats us).getD (f.relations.count .le + slot .ge f.relations i) 0) := by
  have hslot : slot .ge f.relations i < f.relations.count .ge := slot_lt_count hi
  have hget : us[f.relations.count .le + slot .ge f.relations i]? =
      some us[f.relations.count .le + slot .ge f.relations i] :=
    List.getElem?_eq_getElem (by omega)
  rw [getElem?_rats, rowDuals, getElem?_scatter hi, getD_rats]
  simp only [block, List.getD_eq_getElem?_getD, List.getElem?_map, List.getElem?_drop, count_eq,
    hget, Option.map_some, Option.getD_some, toRat_neg_negateIf]
  rfl

/-- The dual of a row `=` is in its slot of the second block. -/
theorem rowDuals_eq (hi : f.relations[i]? = some .eq)
    (hlen : vs.length = f.relations.count .eq) :
    (rats (rowDuals f us vs))[i]? =
      some (f.sense * (rats vs).getD (slot .eq f.relations i) 0) := by
  have hslot : slot .eq f.relations i < f.relations.count .eq := slot_lt_count hi
  have hget : vs[slot .eq f.relations i]? = some vs[slot .eq f.relations i] :=
    List.getElem?_eq_getElem (by omega)
  rw [getElem?_rats, rowDuals, getElem?_scatter hi, getD_rats]
  simp only [block, List.getD_eq_getElem?_getD, List.getElem?_map, hget, Option.map_some,
    Option.getD_some, toRat_negateIf]
  rfl

/-- A weighted sum of the duals of the rows is one of the two blocks. -/
theorem product_rowDuals {ws : List Rat} (hws : f.relations.length = ws.length)
    (hlen : us.length = f.relations.count .le + f.relations.count .ge) :
    product (rats (rowDuals f us vs)) ws =
      f.sense * (product (rats us)
          (select .le f.relations ws ++ (select .ge f.relations ws).map (-1 * ·)) +
        product (rats vs) (select .eq f.relations ws)) := by
  obtain ⟨les, ges, rfl, hles⟩ : ∃ les ges, us = les ++ ges ∧
      les.length = f.relations.count .le :=
    ⟨_, _, (List.take_append_drop (f.relations.count .le) us).symm, by
      rw [List.length_take]; omega⟩
  have hneg : rats (ges.map fun x => -negateIf f.maximize x) =
      (rats ges).map (-f.sense * ·) := by
    simp only [rats, List.map_map]
    exact List.map_congr_left fun x _ => toRat_neg_negateIf f.maximize x
  have hsel : (rats les).length = (select .le f.relations ws).length := by
    rw [length_select .le hws, length_rats, hles]
  rw [rowDuals, count_eq, ← hles, List.take_left, List.drop_left, product_scatter,
    rats_map_negateIf, rats_map_negateIf, hneg, rats_append, product_append hsel,
    product_map_mul, product_map_mul, product_map_mul, product_map_mul_right]
  unfold Formulation.sense
  ring

theorem allFinite_scatter :
    ∀ (rs : List Relation) {le ge eq : List Scalar}, AllFinite le → AllFinite ge → AllFinite eq →
      AllFinite (scatter rs le ge eq)
  | [], _, _, _, _, _, _ => by simp [scatter, AllFinite]
  | .le :: rs, _, _, _, hl, hg, he =>
    (allFinite_scatter rs hl.tail hg he).cons hl.headD
  | .ge :: rs, _, _, _, hl, hg, he =>
    (allFinite_scatter rs hl hg.tail he).cons hg.headD
  | .eq :: rs, _, _, _, hl, hg, he =>
    (allFinite_scatter rs hl hg he.tail).cons he.headD

end

end SplitModel

/-- The blocks of an answer are lists of numbers of the sizes that a formulation asks for. -/
structure SplitAnswer.Carries (a : SplitAnswer) (f : Formulation) (u v l w : List Rat) : Prop where
  upper : a.upperMarginals.ReadsAs u
  equal : a.equalMarginals.ReadsAs v
  low : a.lowMarginals.ReadsAs l
  high : a.highMarginals.ReadsAs w
  upperSize : u.length = f.relations.count .le + f.relations.count .ge
  equalSize : v.length = f.relations.count .eq
  lowSize : l.length = f.columns
  highSize : w.length = f.columns

/-- The array of duals that blocks of numbers give. -/
theorem SplitModel.duals_of_carries {f : Formulation} {a : SplitAnswer} {round : Rounding}
    {u v l w : List Rat} (hint : f.hasInteger = false) (hc : a.Carries f u v l w)
    (hround : ∀ q ∈ List.zipWith (· + ·) l w, round q = .finite q) :
    ∃ us vs ds, Scalar.rats us = u ∧ Scalar.rats vs = v ∧ duals round f a = .ok ds ∧
      Scalar.AllFinite ds ∧
      Scalar.rats ds = 0 :: Scalar.rats (rowDuals f us vs) ++
        (List.zipWith (· + ·) l w).map (f.sense * ·) := by
  obtain ⟨us, hu, hufin, rfl⟩ := hc.upper
  obtain ⟨vs, hv, hvfin, rfl⟩ := hc.equal
  obtain ⟨ls, hl, hlfin, rfl⟩ := hc.low
  obtain ⟨hs, hh, hhfin, rfl⟩ := hc.high
  obtain ⟨-, -, -, -, hulen, hvlen, hllen, hhlen⟩ := hc
  rw [Scalar.length_rats] at hulen hvlen hllen hhlen
  have hsum := Scalar.zipWith_add_of_represents hlfin hhfin hround
  have hflip : ∀ x : Scalar, x.isFinite = true → (Scalar.negateIf f.maximize x).isFinite = true :=
    fun x hx => (Scalar.isFinite_negateIf f.maximize x).trans hx
  refine ⟨us, vs, (.zero :: rowDuals f us vs ++
    (List.zipWith (Scalar.add round) ls hs).map (Scalar.negateIf f.maximize)).map Scalar.plusZero,
    rfl, rfl, ?_, ?_, ?_⟩
  · rw [← count_eq, ← count_eq] at hulen
    rw [← count_eq] at hvlen
    simp only [duals, hint, Bool.false_eq_true, if_false, marginals_of_reads hu hulen hufin,
      marginals_of_reads hv hvlen hvfin, marginals_of_reads hl hllen hlfin,
      marginals_of_reads hh hhlen hhfin]
    rfl
  · refine Scalar.AllFinite.map (fun x hx => (Scalar.isFinite_plusZero x).trans hx) ?_
    refine Scalar.AllFinite.append (.cons rfl ?_) (hsum.1.map hflip)
    refine allFinite_scatter _ ?_ ?_ ?_
    · exact Scalar.AllFinite.map hflip fun x hx => hufin x (List.mem_of_mem_take hx)
    · exact Scalar.AllFinite.map (fun x hx => (Scalar.isFinite_neg _).trans (hflip x hx))
        fun x hx => hufin x (List.mem_of_mem_drop hx)
    · exact hvfin.map hflip
  · rw [Scalar.rats_map_plusZero, Scalar.rats_append, rats_map_negateIf, hsum.2]
    rfl

end LinearPrograms
