import LinearPrograms.Proofs.Engine.Certificate

/-!
# Both engines give the same duals

The sensitivities `d` of the rows and `r` of the columns of one formulation come back in two forms:
from a split model in its blocks and in the sense of its minimum (`SplitModel.Layout`), from a named
model in the order of its rows and columns (`NamedAnswer.Carries`). The array of duals that is read
back is `0`, `d`, `r` in both cases (`SplitModel.duals_of_layout`, `NamedModel.duals_of_carries`),
and zeros in both cases if a column is integer.
-/

namespace LinearPrograms

/-- Blocks hold the sensitivities `d` of the rows and `r` of the columns: each row in its slot, with
the sign of the minimum and of its relation, and each column as the sum of its two bounds. -/
structure SplitModel.Layout (f : Formulation) (u v l w d r : List Rat) : Prop where
  le : ∀ i < f.rows.length, f.relations[i]? = some .le →
    u.getD (slot .le f.relations i) 0 = f.sense * d.getD i 0
  ge : ∀ i < f.rows.length, f.relations[i]? = some .ge →
    u.getD (f.relations.count .le + slot .ge f.relations i) 0 = -(f.sense * d.getD i 0)
  eq : ∀ i < f.rows.length, f.relations[i]? = some .eq →
    v.getD (slot .eq f.relations i) 0 = f.sense * d.getD i 0
  bounds : ∀ j < f.columns, l.getD j 0 + w.getD j 0 = f.sense * r.getD j 0

/-- An answer gives the sensitivities `d` of the rows and `r` of the columns in their order. -/
structure NamedAnswer.Carries (a : NamedAnswer) (d r : List Rat) : Prop where
  rows : ∃ xs, Document.toScalars a.rowDuals = .ok xs ∧ Scalar.AllFinite xs ∧ Scalar.rats xs = d
  columns : ∃ xs, Document.toScalars a.columnDuals = .ok xs ∧ Scalar.AllFinite xs ∧
    Scalar.rats xs = r

namespace SplitModel

open Scalar

variable {f : Formulation} {a : SplitAnswer} {round : Rounding} {u v l w d r : List Rat}

theorem rowDuals_of_layout {us vs : List Scalar} (hf : f.WellFormed)
    (hlay : Layout f (rats us) (rats vs) l w d r) (hd : d.length = f.rows.length)
    (hus : us.length = f.relations.count .le + f.relations.count .ge)
    (hvs : vs.length = f.relations.count .eq) : rats (rowDuals f us vs) = d := by
  have hlen : (rats (rowDuals f us vs)).length = f.rows.length :=
    (length_rats _).trans (length_rowDuals hf)
  refine List.ext_getElem (hlen.trans hd.symm) fun i hi hi' => ?_
  have hrow : i < f.rows.length := hlen ▸ hi
  have hrel : i < f.relations.length := hf.relations.symm ▸ hrow
  have hget := List.getElem?_eq_getElem hrel
  have hdi : d.getD i 0 = d[i] := (List.getElem_eq_getD _).symm
  refine Option.some.inj ?_
  rw [← List.getElem?_eq_getElem hi]
  cases hr : f.relations[i] with
  | le =>
    rw [hr] at hget
    rw [rowDuals_le hget hus, hlay.le i hrow hget, ← mul_assoc, f.sense_mul_sense, one_mul, hdi]
  | ge =>
    rw [hr] at hget
    rw [rowDuals_ge hget hus, hlay.ge i hrow hget, neg_mul_neg, ← mul_assoc, f.sense_mul_sense,
      one_mul, hdi]
  | eq =>
    rw [hr] at hget
    rw [rowDuals_eq hget hvs, hlay.eq i hrow hget, ← mul_assoc, f.sense_mul_sense, one_mul, hdi]

theorem bounds_of_layout (hlay : Layout f u v l w d r) (hl : l.length = f.columns)
    (hw : w.length = f.columns) (hr : r.length = f.columns) :
    List.zipWith (· + ·) l w = r.map (f.sense * ·) := by
  refine List.ext_getElem (by simp [hl, hw, hr]) fun j hj hj' => ?_
  have hcol : j < f.columns := by simpa [hl, hw] using hj
  have h := hlay.bounds j hcol
  rw [← getD_zipWith_add (hl.trans hw.symm), ← getD_map_mul] at h
  rwa [← List.getElem_eq_getD (h := hj), ← List.getElem_eq_getD (h := hj')] at h

/-- Blocks in this layout come back as the duals of the rows and of the columns. -/
theorem duals_of_layout (hf : f.WellFormed) (hint : f.hasInteger = false)
    (hc : a.Carries f u v l w) (hlay : Layout f u v l w d r) (hd : d.length = f.rows.length)
    (hr : r.length = f.columns) (hround : ∀ q ∈ r, round.Represents q) :
    ∃ ds, duals round f a = .ok ds ∧ AllFinite ds ∧ rats ds = 0 :: d ++ r := by
  have hbounds := bounds_of_layout hlay hc.lowSize hc.highSize hr
  have hrep : ∀ q ∈ List.zipWith (· + ·) l w, round q = .finite q := by
    rw [hbounds]
    intro q hq
    obtain ⟨t, ht, rfl⟩ := List.mem_map.1 hq
    obtain ⟨hpos, hneg⟩ := hround t ht
    unfold Formulation.sense
    split
    · rw [neg_one_mul]
      exact hneg
    · rw [one_mul]
      exact hpos
  obtain ⟨us, vs, ds, rfl, rfl, hds, hfin, hrats⟩ := duals_of_carries hint hc hrep
  have hrows := rowDuals_of_layout hf hlay hd ((length_rats us).symm.trans hc.upperSize)
    ((length_rats vs).symm.trans hc.equalSize)
  refine ⟨ds, hds, hfin, ?_⟩
  rw [hrats, hrows, hbounds, List.map_map]
  congr 1
  refine (List.map_congr_left fun q _ => ?_).trans (List.map_id r)
  show f.sense * (f.sense * q) = q
  rw [← mul_assoc, f.sense_mul_sense, one_mul]

theorem duals_of_integer (hint : f.hasInteger = true) :
    duals round f a = .ok (List.replicate (1 + f.rows.length + f.columns) .zero) := by
  simp only [duals, hint, if_true]
  rfl

end SplitModel

namespace NamedModel

open Scalar

variable {f : Formulation} {a : NamedAnswer} {d r : List Rat}

theorem firstOf_of_length {n : Nat} {ds : List Document} (h : ds.length = n) :
    firstOf n ds = ds := by
  rw [firstOf, ← h, List.take_left]

theorem mapM_dualOf {ds : List Document} {xs : List Scalar}
    (h : Document.toScalars ds = .ok xs) : ds.mapM dualOf = .ok xs := by
  refine Computation.mapM_eq_ok.2 ((Document.forall₂_of_toScalars h).imp fun e x he => ?_)
  rw [dualOf, if_pos (Document.isPresent_of_toScalar he)]
  exact he

/-- Sensitivities in the order of the rows and columns come back as they are. -/
theorem duals_of_carries (hint : f.hasInteger = false) (hc : a.Carries d r)
    (hd : d.length = f.rows.length) (hr : r.length = f.columns) :
    ∃ ds, duals f a = .ok ds ∧ AllFinite ds ∧ rats ds = 0 :: d ++ r := by
  obtain ⟨xs, hxs, hxfin, rfl⟩ := hc.rows
  obtain ⟨ys, hys, hyfin, rfl⟩ := hc.columns
  have hxlen : a.rowDuals.length = f.rows.length := by
    rw [(Document.forall₂_of_toScalars hxs).length_eq, ← hd, length_rats]
  have hylen : a.columnDuals.length = f.columns := by
    rw [(Document.forall₂_of_toScalars hys).length_eq, ← hr, length_rats]
  refine ⟨.zero :: xs ++ ys, ?_, AllFinite.append (.cons rfl hxfin) hyfin, ?_⟩
  · simp only [duals, hint, Bool.false_eq_true, if_false, firstOf_of_length hxlen,
      firstOf_of_length hylen, mapM_dualOf hxs, mapM_dualOf hys]
    rfl
  · rw [rats_append, rats_cons]
    rfl

theorem duals_of_integer (hint : f.hasInteger = true) :
    duals f a = .ok (List.replicate (1 + f.rows.length + f.columns) .zero) := by
  simp only [duals, hint, if_true]
  rfl

/-- Every column has a value if those that were given are numbers. -/
theorem exists_point (f : Formulation) {vs : List Document}
    (h : ∀ e ∈ vs, e.isPresent = true → ∃ x, e.toScalar = .ok x) :
    ∃ xs, (f.lower.zip (firstOf f.columns vs)).mapM (fun p => valueOf p.1 p.2) = .ok xs := by
  refine Computation.exists_mapM_eq_ok fun p hp => ?_
  unfold valueOf
  split
  · rename_i hpresent
    refine h p.2 ?_ hpresent
    have hmem := List.mem_of_mem_take (List.of_mem_zip hp).2
    rcases List.mem_append.1 hmem with hv | hnull
    · exact hv
    · rw [List.eq_of_mem_replicate hnull] at hpresent
      cases hpresent
  · exact ⟨_, rfl⟩

end NamedModel

/-! ## What both engines read back -/

namespace LoadedProblem

section
variable {β : Type} {round : Rounding} {p : LoadedProblem β}

theorem reading_split {backend : SplitModel → Action β SplitAnswer} {a : SplitAnswer}
    {e : Document} {xs ds : List Scalar} (hp : p.Formed)
    (ha : (backend p.formulation.splitForm p.backend).result = .ok a)
    (hu : Status.isUsable (.int (SplitModel.statusOf a.status a.point)) = true)
    (he : a.point = some e) (hxs : Tensor.ofDocument e = .ok (.ofScalars xs))
    (hlen : xs.length = p.formulation.columns)
    (hds : SplitModel.duals round p.formulation a = .ok ds) :
    ∃ r, (reading (SplitModel.runner round backend) p).result = .ok r ∧
      r.duals = .ofScalars ds := by
  obtain ⟨hreleased, hf⟩ := hp.sound
  have hends : (reading (SplitModel.runner round backend)).Ends p
      (fun r _ => r.duals = .ofScalars ds) fun _ _ => False := by
    refine ends_reading hreleased (SplitModel.ends_run hf (Action.ends_of_result ha ?_))
    rw [Action.Ends, SplitModel.solution_of_point hu he hxs (hlen.trans hf.objective.symm) hds]
    exact ⟨_, _, _, _, rfl, hu, rfl⟩
  obtain ⟨r, hr, hduals⟩ := hends.exists_result
  exact ⟨r, hr, hduals⟩

/-- A run of a named model is read back with the values and the duals that the answer comes to. -/
theorem reading_named (round : Rounding) {backend : NamedModel → Action β NamedAnswer}
    {a : NamedAnswer} {xs ds : List Scalar} (hp : p.Formed)
    (ha : (backend p.formulation.namedForm p.backend).result = .ok a)
    (hu : Status.isUsable (.int (NamedModel.statusOf (some a.status) a.integerFeasible)) = true)
    (hxs : (p.formulation.lower.zip (NamedModel.firstOf p.formulation.columns a.values)).mapM
      (fun p => NamedModel.valueOf p.1 p.2) = .ok xs)
    (hds : NamedModel.duals p.formulation a = .ok ds) :
    ∃ r, (reading (NamedModel.runner round backend) p).result = .ok r ∧
      r.objective = Scalar.dot round p.formulation.objective xs ∧ r.values = .ofScalars xs ∧
      r.duals = .ofScalars ds := by
  obtain ⟨hreleased, hf⟩ := hp.sound
  have hends : (reading (NamedModel.runner round backend)).Ends p
      (fun r _ => r.objective = Scalar.dot round p.formulation.objective xs ∧
        r.values = .ofScalars xs ∧ r.duals = .ofScalars ds) fun _ _ => False := by
    refine ends_reading hreleased (NamedModel.ends_run hf (Action.ends_of_result ha ?_))
    rw [Action.Ends, NamedModel.solution_of_point hu hxs hds]
    exact ⟨_, _, _, _, rfl, hu, rfl, rfl, rfl⟩
  exact hends.exists_result

end

section
variable {β γ : Type} {round : Rounding} {split : SplitModel → Action β SplitAnswer}
  {named : NamedModel → Action γ NamedAnswer} {p : LoadedProblem β} {q : LoadedProblem γ}

/-- Two engines with one formulation, whose backends give the same sensitivities each in its own
layout, read back the same duals; with an integer column both read back zeros. -/
theorem readings_agree {s : SplitModel} {m : NamedModel} {a : SplitAnswer} {b : NamedAnswer}
    {e : Document} {xs : List Scalar} {d r : List Rat}
    (hp : p.Formed) (hq : q.Formed) (hpq : q.formulation = p.formulation)
    (hs : SplitModel.ofFormulation p.formulation = .ok s)
    (hm : NamedModel.ofFormulation q.formulation = .ok m)
    (ha : (split s p.backend).result = .ok a) (hb : (named m q.backend).result = .ok b)
    (hau : Status.isUsable (.int (SplitModel.statusOf a.status a.point)) = true)
    (hbu : Status.isUsable (.int (NamedModel.statusOf (some b.status) b.integerFeasible)) = true)
    (hpoint : a.point = some e) (hxs : Tensor.ofDocument e = .ok (.ofScalars xs))
    (hlen : xs.length = p.formulation.columns)
    (hvalues : ∀ v ∈ b.values, v.isPresent = true → ∃ x, v.toScalar = .ok x)
    (hd : d.length = p.formulation.rows.length) (hr : r.length = p.formulation.columns)
    (hround : ∀ t ∈ r, round.Represents t)
    (hsplit : p.formulation.hasInteger = false → ∃ u v l w,
      a.Carries p.formulation u v l w ∧ SplitModel.Layout p.formulation u v l w d r)
    (hnamed : p.formulation.hasInteger = false → b.Carries d r) :
    ∃ g h ds es, (reading (SplitModel.runner round split) p).result = .ok g ∧
      (reading (NamedModel.runner round named) q).result = .ok h ∧
      g.duals = .ofScalars ds ∧ h.duals = .ofScalars es ∧
      if p.formulation.hasInteger then
        ds = List.replicate (1 + p.formulation.rows.length + p.formulation.columns) .zero ∧ es = ds
      else
        Scalar.AllFinite ds ∧ Scalar.rats ds = 0 :: d ++ r ∧
          Scalar.AllFinite es ∧ Scalar.rats es = 0 :: d ++ r := by
  have hf := hp.sound.2
  obtain rfl := Except.ok.inj ((SplitModel.ofFormulation_eq hf).symm.trans hs)
  obtain rfl := Except.ok.inj ((NamedModel.ofFormulation_eq hq.sound.2).symm.trans hm)
  obtain ⟨ys, hys⟩ := NamedModel.exists_point q.formulation hvalues
  cases hint : p.formulation.hasInteger with
  | true =>
    have hds : SplitModel.duals round p.formulation a = .ok _ := SplitModel.duals_of_integer hint
    have hes : NamedModel.duals p.formulation b = .ok _ := NamedModel.duals_of_integer hint
    obtain ⟨g, hg, hgd⟩ := reading_split hp ha hau hpoint hxs hlen hds
    obtain ⟨h, hh, -, -, hhd⟩ := reading_named round hq hb hbu hys (by rw [hpq]; exact hes)
    exact ⟨g, h, _, _, hg, hh, hgd, hhd, rfl, rfl⟩
  | false =>
    obtain ⟨u, v, l, w, hc, hlay⟩ := hsplit hint
    obtain ⟨ds, hds, hdfin, hdrats⟩ := SplitModel.duals_of_layout hf hint hc hlay hd hr hround
    obtain ⟨es, hes, hefin, herats⟩ := NamedModel.duals_of_carries hint (hnamed hint) hd hr
    obtain ⟨g, hg, hgd⟩ := reading_split hp ha hau hpoint hxs hlen hds
    obtain ⟨h, hh, -, -, hhd⟩ := reading_named round hq hb hbu hys (by rw [hpq]; exact hes)
    exact ⟨g, h, ds, es, hg, hh, hgd, hhd, hdfin, hdrats, hefin, herats⟩

end

/-- The optimum of `mixedRowEdits` with its sensitivities, by rows and columns. -/
def mixedNamedAnswer : NamedAnswer :=
  let numbers := fun qs : List Rat => qs.map fun q => Document.float (.finite q)
  { status := .optimal
    values := numbers [3, 2]
    rowDuals := numbers [0, 1, 3 / 2]
    columnDuals := numbers [1 / 2, 0] }

def mixedNamedBackend : NamedModel → Action Unit NamedAnswer :=
  fun _ => Action.give mixedNamedAnswer

theorem readings_agree_mixed :
    ∃ (p : LoadedProblem Unit) (g h : Reading) (ds es : List Scalar),
      p.formulation.relations = [.ge, .eq, .le] ∧
      (reading (SplitModel.runner .nearest mixedRowBackend) p).result = .ok g ∧
      (reading (NamedModel.runner .nearest mixedNamedBackend) p).result = .ok h ∧
      g.duals = .ofScalars ds ∧ h.duals = .ofScalars es ∧
      Scalar.rats ds = [0, 0, 1, 3 / 2, 1 / 2, 0] ∧ Scalar.rats es = Scalar.rats ds := by
  have hnew : Formed (β := Unit) { formulation := .ofSize 0 2, backend := () } :=
    @Formed.created Unit () 0 2 _ rfl
  have hp := hnew.editAll (show (editAll mixedRowEdits _).result = .ok () from rfl)
  obtain ⟨g, h, ds, es, hg, hh, hgd, hhd, hduals⟩ :=
    readings_agree (d := [0, 1, 3 / 2]) (r := [1 / 2, 0]) hp hp rfl
      (SplitModel.ofFormulation_eq hp.sound.2) (NamedModel.ofFormulation_eq hp.sound.2)
      (rfl : (mixedRowBackend _ ()).result = .ok mixedRowAnswer)
      (rfl : (mixedNamedBackend _ ()).result = .ok mixedNamedAnswer)
      (by decide +kernel) (by decide +kernel) rfl (Tensor.ofDocument_ofScalars _) rfl
      (fun v hv _ => by
        obtain ⟨q, -, rfl⟩ := List.mem_map.1 hv
        exact ⟨_, rfl⟩)
      rfl rfl
      (show ∀ t ∈ [1 / 2, 0], Rounding.Represents .nearest t by decide +kernel)
      (fun _ => ⟨[-3 / 2, 0], [-1], [0, 0], [-1 / 2, 0],
        ⟨Document.readsAs_finite _, Document.readsAs_finite _, Document.readsAs_finite _,
          Document.readsAs_finite _, rfl, rfl, rfl, rfl⟩,
        ⟨by decide +kernel, by decide +kernel, by decide +kernel, by decide +kernel⟩⟩)
      fun _ => ⟨⟨_, Document.toScalars_float [.finite 0, .finite 1, .finite (3 / 2)],
          by decide, rfl⟩,
        ⟨_, Document.toScalars_float [.finite (1 / 2), .finite 0], by decide, rfl⟩⟩
  exact ⟨_, g, h, ds, es, rfl, hg, hh, hgd, hhd, hduals.2.1, hduals.2.2.2.trans hduals.2.1.symm⟩

end LoadedProblem

end LinearPrograms
