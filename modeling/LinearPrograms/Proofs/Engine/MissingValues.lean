import LinearPrograms.Proofs.Engine.Agreement
import LinearPrograms.Proofs.Engine.Atomic

/-!
# Columns without a value

A backend for named models may leave any of the columns without a value. Such a column gets its
lower bound if that is finite, and zero otherwise (`NamedModel.substitute`). Neither its upper bound
nor its integer flag is looked at, so the substitute is a value that the column may take only in two
cases (`NamedModel.admits_substitute`): the lower bound is finite, not above the upper one, and an
integer where one is needed, or there is no lower bound and zero is not above the upper one.

Whatever is missing, the other columns keep their values, and the objective that is read is the dot
product with the values that are read (`LoadedProblem.reading_substitutes`).
-/

namespace LinearPrograms

/-- A column may take a value: it is within the bounds, and an integer if it has to be. -/
structure Admits (lo up : Scalar) (flag : Bool) (x : Scalar) : Prop where
  lower : lo.le x = true
  upper : x.le up = true
  integer : flag = true → x.isFinite = true ∧ x.toRat.den = 1

theorem Scalar.le_self {x : Scalar} (h : x.isFinite = true) : x.le x = true := by
  cases x with
  | finite q => exact decide_eq_true le_rfl
  | negZero => rfl
  | nan | posInf | negInf => cases h

/-- A value, where there is one, is a number, and so is a sensitivity. -/
structure NamedAnswer.Numeric (a : NamedAnswer) : Prop where
  values : ∀ e ∈ a.values, e.isPresent = true → ∃ x, e.toScalar = .ok x
  rowDuals : ∀ e ∈ a.rowDuals, e.isPresent = true → ∃ x, e.toScalar = .ok x
  columnDuals : ∀ e ∈ a.columnDuals, e.isPresent = true → ∃ x, e.toScalar = .ok x

namespace NamedModel

variable {f : Formulation} {a : NamedAnswer} {lo up : Scalar} {flag : Bool}

/-- What a column without a value gets. -/
def substitute (lo : Scalar) : Scalar := if lo.isFinite then lo else .zero

theorem valueOf_of_absent {given : Document} (h : given.isPresent = false) :
    valueOf lo given = .ok (substitute lo) := by
  rw [valueOf, h, substitute]
  rfl

/-- The substitute is a value that the column may take in two cases only. -/
theorem admits_substitute :
    Admits lo up flag (substitute lo) ↔
      lo.isFinite = true ∧ lo.le up = true ∧ (flag = true → lo.toRat.den = 1) ∨
        lo = .negInf ∧ Scalar.zero.le up = true := by
  cases hlo : lo.isFinite with
  | true =>
    have hne : lo ≠ .negInf := by
      rintro rfl
      cases hlo
    simp only [substitute, hlo, if_true, hne, true_and, false_and, or_false]
    refine ⟨fun h => ⟨h.upper, fun hflag => (h.integer hflag).2⟩, fun h => ?_⟩
    exact ⟨Scalar.le_self hlo, h.1, fun hflag => ⟨hlo, h.2 hflag⟩⟩
  | false =>
    simp only [substitute, hlo, Bool.false_eq_true, if_false, false_and, false_or]
    refine ⟨fun h => ⟨?_, h.upper⟩, ?_⟩
    · -- among the scalars that are no number, only minus infinity is below zero
      cases lo with
      | negInf => rfl
      | nan | posInf => cases h.lower
      | finite _ | negZero => cases hlo
    · rintro ⟨rfl, hup⟩
      exact ⟨rfl, hup, fun _ => ⟨rfl, rfl⟩⟩

theorem mem_of_mem_firstOf {n : Nat} {ds : List Document} {e : Document} (h : e ∈ firstOf n ds)
    (he : e.isPresent = true) : e ∈ ds := by
  rcases List.mem_append.1 (List.mem_of_mem_take h) with hmem | hnull
  · exact hmem
  · rw [List.eq_of_mem_replicate hnull] at he
    cases he

theorem getElem?_firstOf {n j : Nat} (hj : j < n) (ds : List Document) :
    (firstOf n ds)[j]? = some (ds.getD j .null) := by
  rw [firstOf, List.getElem?_take_of_lt hj, List.getElem?_append, List.getD_eq_getElem?_getD]
  split
  · rename_i h
    simp [h]
  · rename_i h
    rw [List.getElem?_replicate_of_lt (by omega), List.getElem?_eq_none (by omega)]
    rfl

/-- Each column is looked at by itself. -/
theorem getElem?_point {xs : List Scalar} {j : Nat} (hj : j < f.columns)
    (hlo : f.lower[j]? = some lo)
    (hxs : (f.lower.zip (firstOf f.columns a.values)).mapM (fun p => valueOf p.1 p.2) = .ok xs) :
    ∃ x, xs[j]? = some x ∧ valueOf lo (a.values.getD j .null) = .ok x := by
  have hpair : (f.lower.zip (firstOf f.columns a.values))[j]? =
      some (lo, a.values.getD j .null) :=
    List.getElem?_zip_eq_some.2 ⟨hlo, getElem?_firstOf hj a.values⟩
  exact Computation.getElem?_of_forall₂ (Computation.mapM_eq_ok.1 hxs) hpair

theorem exists_duals (f : Formulation) (h : a.Numeric) : ∃ ds, duals f a = .ok ds := by
  have hdual : ∀ {n : Nat} {es : List Document},
      (∀ e ∈ es, e.isPresent = true → ∃ x, e.toScalar = .ok x) →
      ∃ ds, (firstOf n es).mapM dualOf = .ok ds := by
    intro n es hes
    refine Computation.exists_mapM_eq_ok fun e he => ?_
    unfold dualOf
    split
    · rename_i hpresent
      exact hes e (mem_of_mem_firstOf he hpresent) hpresent
    · exact ⟨_, rfl⟩
  cases hint : f.hasInteger with
  | true => exact ⟨_, duals_of_integer hint⟩
  | false =>
    obtain ⟨rows, hrows⟩ := hdual (n := f.rows.length) h.rowDuals
    obtain ⟨columns, hcolumns⟩ := hdual (n := f.columns) h.columnDuals
    refine ⟨.zero :: rows ++ columns, ?_⟩
    simp only [duals, hint, Bool.false_eq_true, if_false, hrows, hcolumns]
    rfl

end NamedModel

namespace LoadedProblem

variable {β : Type} {p : LoadedProblem β}

/-- After a run that leaves columns without a value, the objective is the dot product with the
values that are read. A column with a value keeps it; one without gets its lower bound or zero. It
may take that value exactly if the lower bound is finite, not above the upper bound and an integer
where one is needed, or if there is no lower bound and zero is not above the upper bound. -/
theorem reading_substitutes (round : Rounding) {backend : NamedModel → Action β NamedAnswer}
    {a : NamedAnswer} (hp : p.Formed)
    (ha : (backend p.formulation.namedForm p.backend).result = .ok a)
    (hu : Status.isUsable (.int (NamedModel.statusOf (some a.status) a.integerFeasible)) = true)
    (hnumeric : a.Numeric) :
    ∃ r xs, (reading (NamedModel.runner round backend) p).result = .ok r ∧
      r.values = .ofScalars xs ∧ xs.length = p.formulation.columns ∧
      r.objective = Scalar.dot round p.formulation.objective xs ∧
      (round = .exact → Scalar.AllFinite p.formulation.objective → Scalar.AllFinite xs →
        r.objective.isFinite = true ∧
          r.objective.toRat = product (Scalar.rats p.formulation.objective) (Scalar.rats xs)) ∧
      ∀ j < p.formulation.columns, ∃ lo up flag x,
        p.formulation.lower[j]? = some lo ∧ p.formulation.upper[j]? = some up ∧
        p.formulation.integer[j]? = some flag ∧ xs[j]? = some x ∧
        ((a.values.getD j .null).isPresent = true → (a.values.getD j .null).toScalar = .ok x) ∧
        ((a.values.getD j .null).isPresent = false → x = NamedModel.substitute lo ∧
          (Admits lo up flag x ↔
            lo.isFinite = true ∧ lo.le up = true ∧ (flag = true → lo.toRat.den = 1) ∨
              lo = .negInf ∧ Scalar.zero.le up = true)) := by
  have hf := hp.sound.2
  obtain ⟨xs, hxs⟩ := NamedModel.exists_point p.formulation hnumeric.values
  obtain ⟨ds, hds⟩ := NamedModel.exists_duals p.formulation hnumeric
  obtain ⟨r, hr, hobjective, hvalues, -⟩ := reading_named round hp ha hu hxs hds
  have hlen : xs.length = p.formulation.columns := by
    rw [Computation.length_mapM hxs, List.length_zip, NamedModel.length_firstOf, hf.lower,
      Nat.min_self]
  refine ⟨r, xs, hr, hvalues, hlen, hobjective, ?_, fun j hj => ?_⟩
  · rintro rfl hc hx
    rw [hobjective]
    exact Scalar.dot_exact hc hx
  have hlower := List.getElem?_eq_getElem (show j < p.formulation.lower.length from hf.lower ▸ hj)
  have hupper := List.getElem?_eq_getElem (show j < p.formulation.upper.length from hf.upper ▸ hj)
  have hflag := List.getElem?_eq_getElem
    (show j < p.formulation.integer.length from hf.integer ▸ hj)
  obtain ⟨x, hx, hvalue⟩ := NamedModel.getElem?_point hj hlower hxs
  refine ⟨_, _, _, x, hlower, hupper, hflag, hx, fun hpresent => ?_, fun habsent => ?_⟩
  · rwa [NamedModel.valueOf, if_pos hpresent] at hvalue
  · rw [NamedModel.valueOf_of_absent habsent] at hvalue
    obtain rfl := Except.ok.inj hvalue
    exact ⟨rfl, NamedModel.admits_substitute⟩

/-- A backend that gives the first column a one, and the others no value. -/
def firstOnlyBackend : NamedModel → Action Unit NamedAnswer :=
  fun _ => Action.give { status := .optimal, values := [.float .one] }

/-- The second of two columns is between 2 and 4. -/
def boundedEdits : List Edit :=
  [.objective (.ofScalars [.zero, .one, .finite 2]), .lower (.int 2) (.float (.finite 2)),
   .upper (.int 2) (.float (.finite 4))]

theorem reading_substitutes_bounded :
    ∃ (p : LoadedProblem Unit) (r : Reading) (xs : List Scalar) (x : Scalar),
      (editAll boundedEdits { formulation := .ofSize 0 2, backend := () }).state = p ∧
      (reading (NamedModel.runner .exact firstOnlyBackend) p).result = .ok r ∧
      r.values = .ofScalars xs ∧ xs[0]? = some .one ∧ xs[1]? = some x ∧
      Admits (.finite 2) (.finite 4) false x := by
  have hnew : Formed (β := Unit) { formulation := .ofSize 0 2, backend := () } :=
    @Formed.created Unit () 0 2 _ rfl
  have hp := hnew.editAll (show (editAll boundedEdits _).result = .ok () from rfl)
  have hnumeric : NamedAnswer.Numeric { status := .optimal, values := [.float .one] } := by
    refine ⟨fun e he _ => ?_, nofun, nofun⟩
    obtain rfl := List.mem_singleton.1 he
    exact ⟨_, rfl⟩
  obtain ⟨r, xs, hr, hvalues, -, -, -, hcolumns⟩ := reading_substitutes .exact hp
    (rfl : (firstOnlyBackend _ ()).result = .ok _) (by decide) hnumeric
  obtain ⟨_, _, _, y, -, -, -, hy, hgiven, -⟩ := hcolumns 0 (by decide)
  obtain ⟨lo, up, flag, x, hlo, hup, hflag, hx, -, hmissing⟩ := hcolumns 1 (by decide)
  obtain rfl : Scalar.one = y := Except.ok.inj (hgiven rfl)
  obtain rfl : Scalar.finite 2 = lo := Option.some.inj hlo
  obtain rfl : Scalar.finite 4 = up := Option.some.inj hup
  obtain rfl : false = flag := Option.some.inj hflag
  exact ⟨_, r, xs, x, rfl, hr, hvalues, hy, hx, (hmissing rfl).2.2 (.inl ⟨rfl, by decide, nofun⟩)⟩

/-- A backend that finds an optimum and gives no values. -/
def silentBackend : NamedModel → Action Unit NamedAnswer :=
  fun _ => Action.give { status := .optimal }

/-- The only column takes values from -5 down. -/
def negativeEdits : List Edit :=
  [.lower (.int 1) (.float .negInf), .upper (.int 1) (.float (.finite (-5)))]

/-- Without a value, a column that takes values from -5 down is read as zero. -/
theorem reading_substitutes_outside :
    ∃ (p : LoadedProblem Unit) (r : Reading), editAll negativeEdits fresh = ⟨.ok (), p, []⟩ ∧
      (reading (NamedModel.runner .exact silentBackend) p).result = .ok r ∧
      r.values = .ofScalars [.zero] ∧ ¬Admits .negInf (.finite (-5)) false .zero ∧
      Admits .negInf (.finite (-5)) false (.finite (-5)) := by
  have hnew : Formed fresh := @Formed.created Unit () 0 1 _ rfl
  have hp := hnew.editAll (show (editAll negativeEdits _).result = .ok () from rfl)
  obtain ⟨r, hr, -, hvalues, -⟩ := reading_named .exact hp
    (rfl : (silentBackend _ ()).result = .ok { status := .optimal }) (by decide)
    (show [(Scalar.negInf, Document.null)].mapM (fun p => NamedModel.valueOf p.1 p.2) =
      .ok [.zero] from rfl) rfl
  exact ⟨_, r, rfl, hr, hvalues, fun h => absurd h.upper (by decide), rfl, by decide, nofun⟩

end LoadedProblem

end LinearPrograms
