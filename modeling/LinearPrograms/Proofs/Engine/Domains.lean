import LinearPrograms.Proofs.Engine.Summary
import LinearPrograms.Proofs.Solve.Handover
import Mathlib.Data.EReal.Basic

/-!
# The domain that a backend is told for a column

The bounds of a column go two steps. An engine keeps them, with those that are far enough out as
infinities (`Request.lowerEntry`, `Request.upperEntry`), and a run hands over the ones that are
finite. `statedDomain` has the reals that the bounds set last leave to a column, in the order of the
extended reals, and `allowed` those that the handed over bounds leave.

A lower bound of plus infinity leaves a column nothing, and so does an upper bound of minus
infinity, yet both are handed over as no bound (`lower_handed`, `upper_handed`). So the backend is
never told too little, and it is told too much exactly for such a bound
(`LoadedProblem.solve_tellsDomain`).
-/

namespace LinearPrograms

/-! ## Bounds as extended reals -/

namespace Scalar

/-- The scalar as an extended real. An indeterminate value is none, and counts as zero. -/
noncomputable def extended : Scalar → EReal
  | posInf => ⊤
  | negInf => ⊥
  | x => ((x.toRat : ℝ) : EReal)

/-- What a lower bound says: nothing from minus 10^30 down. -/
noncomputable def asLower (x : Scalar) : EReal :=
  if x.le (.finite (-Formulation.unboundedFrom)) then ⊥ else x.extended

/-- What an upper bound says: nothing from 10^30 up. -/
noncomputable def asUpper (x : Scalar) : EReal :=
  if Scalar.le (.finite Formulation.unboundedFrom) x then ⊤ else x.extended

theorem extended_ne_top {x : Scalar} (h : x ≠ .posInf) : x.extended ≠ ⊤ := by
  cases x with
  | posInf => exact absurd rfl h
  | negInf => exact bot_ne_top
  | nan | finite _ | negZero => exact EReal.coe_ne_top _

theorem extended_ne_bot {x : Scalar} (h : x ≠ .negInf) : x.extended ≠ ⊥ := by
  cases x with
  | negInf => exact absurd rfl h
  | posInf => exact top_ne_bot
  | nan | finite _ | negZero => exact EReal.coe_ne_bot _

theorem asLower_ne_top {x : Scalar} (h : x ≠ .posInf) : x.asLower ≠ ⊤ := by
  unfold asLower
  split
  · exact bot_ne_top
  · exact extended_ne_top h

theorem asUpper_ne_bot {x : Scalar} (h : x ≠ .negInf) : x.asUpper ≠ ⊥ := by
  unfold asUpper
  split
  · exact top_ne_bot
  · exact extended_ne_bot h

@[simp] theorem asLower_posInf : asLower .posInf = ⊤ := rfl

@[simp] theorem asUpper_negInf : asUpper .negInf = ⊥ := rfl

end Scalar

/-- The reals between a lower and an upper bound. -/
def statedDomain (lo up : Scalar) : Set ℝ := {x | lo.asLower ≤ x ∧ (x : EReal) ≤ up.asUpper}

/-- The reals that bounds leave if plus infinity is no lower bound, and minus infinity no upper one.
-/
def looseDomain (lo up : Scalar) : Set ℝ :=
  {x | (lo ≠ .posInf → lo.asLower ≤ x) ∧ (up ≠ .negInf → (x : EReal) ≤ up.asUpper)}

/-- The reals that the bounds of a model, either of which may be absent, leave to a column. -/
def allowed (bounds : Option Scalar × Option Scalar) : Set ℝ :=
  {x | (∀ lo ∈ bounds.1, lo.extended ≤ x) ∧ ∀ up ∈ bounds.2, (x : EReal) ≤ up.extended}

/-- The bounds of the columns of a model. -/
def boundsTold : SplitModel ⊕ NamedModel → List (Option Scalar × Option Scalar)
  | .inl m => m.bounds
  | .inr m => m.columns.map fun c => (c.lower, c.upper)

section
variable {lo up : Scalar}

theorem statedDomain_subset : statedDomain lo up ⊆ looseDomain lo up :=
  fun _ hx => ⟨fun _ => hx.1, fun _ => hx.2⟩

theorem statedDomain_eq_empty (h : lo = .posInf ∨ up = .negInf) : statedDomain lo up = ∅ := by
  refine Set.eq_empty_of_forall_notMem fun x hx => ?_
  rcases h with rfl | rfl
  · exact EReal.coe_ne_top x (top_le_iff.1 hx.1)
  · exact EReal.coe_ne_bot x (le_bot_iff.1 hx.2)

theorem looseDomain_nonempty (h : lo = .posInf ∨ up = .negInf) : (looseDomain lo up).Nonempty := by
  by_cases hlo : lo = .posInf
  · by_cases hup : up = .negInf
    · exact ⟨0, fun hne => absurd hlo hne, fun hne => absurd hup hne⟩
    · obtain ⟨x, -, hx⟩ :=
        EReal.lt_iff_exists_real_btwn.1 (bot_lt_iff_ne_bot.2 (Scalar.asUpper_ne_bot hup))
      exact ⟨x, fun hne => absurd hlo hne, fun _ => hx.le⟩
  · have hup : up = .negInf := h.resolve_left hlo
    obtain ⟨x, hx, -⟩ :=
      EReal.lt_iff_exists_real_btwn.1 (lt_top_iff_ne_top.2 (Scalar.asLower_ne_top hlo))
    exact ⟨x, fun _ => hx.le, fun hne => absurd hup hne⟩

theorem looseDomain_eq_iff :
    looseDomain lo up = statedDomain lo up ↔ lo ≠ .posInf ∧ up ≠ .negInf := by
  constructor
  · intro heq
    by_contra h
    have hinf : lo = .posInf ∨ up = .negInf := by
      rwa [not_and_or, not_not, not_not] at h
    have hne := looseDomain_nonempty hinf
    rw [heq, statedDomain_eq_empty hinf] at hne
    exact Set.not_nonempty_empty hne
  · rintro ⟨hlo, hup⟩
    exact Set.Subset.antisymm (fun _ hx => ⟨hx.1 hlo, hx.2 hup⟩) statedDomain_subset

end

/-! ## From a bound that is set to one that is handed over -/

section
variable {x : Scalar} {r : EReal}

/-- What is handed over of a lower bound says what it says, unless that is plus infinity. -/
theorem lower_handed (hx : x ≠ .nan) :
    (∀ lo ∈ SplitModel.bound? (Request.lowerEntry (.float x)), lo.extended ≤ r) ↔
      (x ≠ .posInf → x.asLower ≤ r) := by
  have hentry : Request.lowerEntry (.float x) =
      if x.le (.finite (-Formulation.unboundedFrom)) then .negInf else x := rfl
  rw [hentry, Scalar.asLower]
  by_cases hfar : x.le (.finite (-Formulation.unboundedFrom)) = true
  · -- far enough down, nothing is kept and nothing is said
    simp [hfar, SplitModel.bound?, Scalar.isFinite]
  · cases x with
    | nan => exact absurd rfl hx
    | negInf => exact absurd rfl hfar
    | posInf => simp [SplitModel.bound?, Scalar.isFinite, Scalar.le]
    | finite _ | negZero => simp [hfar, SplitModel.bound?, Scalar.isFinite]

/-- What is handed over of an upper bound says what it says, unless that is minus infinity. -/
theorem upper_handed (hx : x ≠ .nan) :
    (∀ up ∈ SplitModel.bound? (Request.upperEntry (.float x)), r ≤ up.extended) ↔
      (x ≠ .negInf → r ≤ x.asUpper) := by
  have hentry : Request.upperEntry (.float x) =
      if Scalar.le (.finite Formulation.unboundedFrom) x then .posInf else x := rfl
  rw [hentry, Scalar.asUpper]
  by_cases hfar : Scalar.le (.finite Formulation.unboundedFrom) x = true
  · -- far enough up, nothing is kept and nothing is said
    simp [hfar, SplitModel.bound?, Scalar.isFinite]
  · cases x with
    | nan => exact absurd rfl hx
    | posInf => exact absurd rfl hfar
    | negInf => simp [SplitModel.bound?, Scalar.isFinite, Scalar.le]
    | finite _ | negZero => simp [hfar, SplitModel.bound?, Scalar.isFinite]

end

namespace Edit

/-- The float that the edit sets as the lower bound of the column at position `j`. -/
@[simp] def lowerFloat? (j : Nat) : Edit → Option Scalar
  | .lower column (.float x) => if column.isInteger (j + 1) then some x else none
  | _ => none

/-- The float that the edit sets as the upper bound of the column at position `j`. -/
@[simp] def upperFloat? (j : Nat) : Edit → Option Scalar
  | .upper column (.float x) => if column.isInteger (j + 1) then some x else none
  | _ => none

/-- The edit sets no bound, or sets one to a float that is determinate. -/
def SetsFloat : Edit → Prop
  | .lower _ value | .upper _ value => ∃ x, value = .float x ∧ x ≠ .nan
  | _ => True

variable {es : List Edit} {j : Nat}

/-- What is made of the values that are set is set last if its value is. -/
theorem lastSet_map {α γ : Type} {set : Edit → Option α} {made : Edit → Option γ} (make : α → γ)
    (default : α) (h : ∀ e ∈ es, made e = (set e).map make) :
    lastSet made (make default) es = make (lastSet set default es) := by
  have hall : es.filterMap made = (es.filterMap set).map make := by
    rw [List.map_filterMap]
    exact List.filterMap_congr h
  rw [lastSet, lastSet, hall, List.getLast?_map]
  cases (es.filterMap set).getLast? <;> rfl

theorem lastSet_mem {α : Type} {P : α → Prop} {set : Edit → Option α} {default : α}
    (hdefault : P default) (h : ∀ e ∈ es, ∀ a, set e = some a → P a) :
    P (lastSet set default es) := by
  unfold lastSet
  cases hlast : (es.filterMap set).getLast? with
  | none => exact hdefault
  | some a =>
    obtain ⟨e, he, hset⟩ := List.mem_filterMap.1 (List.mem_of_getLast? hlast)
    exact h e he a hset

theorem lower_lastSet (h : ∀ e ∈ es, e.SetsFloat) :
    lastSet (lower? j) .zero es =
      Request.lowerEntry (.float (lastSet (lowerFloat? j) .zero es)) := by
  refine lastSet_map (fun x => Request.lowerEntry (.float x)) .zero ?_
  intro e he
  have hfloat := h e he
  cases e with
  | lower column value =>
    obtain ⟨x, rfl, -⟩ := hfloat
    simp only [lower?, lowerFloat?]
    split <;> rfl
  | _ => rfl

theorem upper_lastSet (h : ∀ e ∈ es, e.SetsFloat) :
    lastSet (upper? j) .posInf es =
      Request.upperEntry (.float (lastSet (upperFloat? j) .posInf es)) := by
  refine lastSet_map (fun x => Request.upperEntry (.float x)) .posInf ?_
  intro e he
  have hfloat := h e he
  cases e with
  | upper column value =>
    obtain ⟨x, rfl, -⟩ := hfloat
    simp only [upper?, upperFloat?]
    split <;> rfl
  | _ => rfl

theorem lowerFloat_ne_nan (h : ∀ e ∈ es, e.SetsFloat) :
    lastSet (lowerFloat? j) .zero es ≠ .nan := by
  refine lastSet_mem (P := fun x => x ≠ Scalar.nan) nofun fun e he x hx => ?_
  have hfloat := h e he
  cases e with
  | lower column value =>
    obtain ⟨y, rfl, hy⟩ := hfloat
    obtain ⟨-, rfl⟩ : column.isInteger (j + 1) = true ∧ y = x := by simpa using hx
    exact hy
  | _ => cases hx

theorem upperFloat_ne_nan (h : ∀ e ∈ es, e.SetsFloat) :
    lastSet (upperFloat? j) .posInf es ≠ .nan := by
  refine lastSet_mem (P := fun x => x ≠ Scalar.nan) nofun fun e he x hx => ?_
  have hfloat := h e he
  cases e with
  | upper column value =>
    obtain ⟨y, rfl, hy⟩ := hfloat
    obtain ⟨-, rfl⟩ : column.isInteger (j + 1) = true ∧ y = x := by simpa using hx
    exact hy
  | _ => cases hx

end Edit

/-! ## From a history to the model of its next run -/

/-- The bounds of a column are the same in both forms. -/
theorem boundsTold_eq {f : Formulation} {told : SplitModel ⊕ NamedModel} {j : Nat}
    {lo up : Scalar} {flag : Bool} (htold : told = .inl f.splitForm ∨ told = .inr f.namedForm)
    (hlo : f.lower[j]? = some lo) (hup : f.upper[j]? = some up)
    (hflag : f.integer[j]? = some flag) :
    (boundsTold told)[j]? = some (SplitModel.bound? lo, SplitModel.bound? up) := by
  rcases htold with rfl | rfl
  · have hpair : (f.lower.zip f.upper)[j]? = some (lo, up) :=
      List.getElem?_zip_eq_some.2 ⟨hlo, hup⟩
    simp [boundsTold, Formulation.splitForm, hpair]
  · have htriple : (f.lower.zip (f.upper.zip f.integer))[j]? = some (lo, up, flag) :=
      List.getElem?_zip_eq_some.2 ⟨hlo, List.getElem?_zip_eq_some.2 ⟨hup, hflag⟩⟩
    show ((NamedModel.columnsOf f).map fun c => (c.lower, c.upper))[j]? = _
    rw [NamedModel.columnsOf, List.getElem?_map, List.getElem?_mapIdx, htriple]
    rfl

/-- A run of an engine with noting backends notes one of the two forms. -/
theorem Backends.tells {β : Type} {backends : Backends β} {round : Rounding} {initial : β}
    {name : String} {engine : Engine (LoadedProblem (β × List (SplitModel ⊕ NamedModel)))}
    (h : (name, engine) ∈ backends.noting.catalogue round (initial, [])) :
    ∃ runner form, runner.Notes form ∧ engine = .ofRunner runner (initial, []) ∧
      ∀ f : Formulation, form f = .inl f.splitForm ∨ form f = .inr f.namedForm := by
  rcases List.mem_pair.1 h with h | h
  · cases h
    exact ⟨_, _, NamedModel.notes_runner backends, rfl, fun _ => .inr rfl⟩
  · cases h
    exact ⟨_, _, SplitModel.notes_runner backends, rfl, fun _ => .inl rfl⟩

namespace LoadedProblem

variable {β : Type}

theorem solve_notes {ν : Type} {runner : Runner (β × List ν)} {form : Formulation → ν}
    {p : LoadedProblem (β × List ν)} (hrunner : runner.Notes form) (hp : p.released = false)
    (hf : p.formulation.WellFormed) :
    ∃ b, (solve runner p).state.backend = (b, p.backend.2 ++ [form p.formulation]) := by
  obtain ⟨b, hb⟩ := hrunner p.formulation p.backend.1 p.backend.2 hf
  have hends : (solve runner).Ends p _ _ := ends_solve_any hp
  obtain ⟨solution, hstate⟩ := hends.state
  refine ⟨b, ?_⟩
  rw [hstate]
  exact hb

/-- After a history whose bounds are set to floats other than the indeterminate one, a run tells the
backend for each column an interval that leaves out nothing that the last bounds allow. It is the
interval that they state unless the lower one is plus infinity or the upper one minus infinity:
these are dropped, and the backend is told too much. -/
theorem solve_tellsDomain {backends : Backends β} {round : Rounding} {initial : β} {name : String}
    {engine : Engine (LoadedProblem (β × List (SplitModel ⊕ NamedModel)))} {rows columns : Nat}
    {new : LoadedProblem (β × List (SplitModel ⊕ NamedModel))} {ops : List Operation} {j : Nat}
    (hengine : (name, engine) ∈ backends.noting.catalogue round (initial, []))
    (hnew : engine.create rows columns = .ok new) (hops : Operation.Regular ops)
    (hfloats : ∀ e ∈ engine.editsTaken new ops, e.SetsFloat) (hj : j < columns) :
    let now := engine.performAll new ops
    let lo := Edit.lastSet (Edit.lowerFloat? j) .zero (engine.editsTaken new ops)
    let up := Edit.lastSet (Edit.upperFloat? j) .posInf (engine.editsTaken new ops)
    ∃ backend told bounds,
      (engine.solve now).state.backend = (backend, now.backend.2 ++ [told]) ∧
      (boundsTold told)[j]? = some bounds ∧ allowed bounds = looseDomain lo up ∧
      statedDomain lo up ⊆ allowed bounds ∧
      (allowed bounds = statedDomain lo up ↔ lo ≠ .posInf ∧ up ≠ .negInf) := by
  intro now lo up
  obtain ⟨runner, form, hrunner, rfl, hform⟩ := Backends.tells hengine
  obtain ⟨halive, hwell, hsummary⟩ := sumsUp_performAll (initial, []) rows columns hops
    (sumsUp_create hnew)
  obtain ⟨backend, hbackend⟩ := solve_notes hrunner halive hwell
  have hlower : now.formulation.lower[j]? = some (Request.lowerEntry (.float lo)) := by
    rw [show now.formulation = _ from hsummary, Formulation.summary]
    simp [hj, Edit.lower_lastSet hfloats, lo]
  have hupper : now.formulation.upper[j]? = some (Request.upperEntry (.float up)) := by
    rw [show now.formulation = _ from hsummary, Formulation.summary]
    simp [hj, Edit.upper_lastSet hfloats, up]
  have hflag : ∃ flag, now.formulation.integer[j]? = some flag := by
    rw [show now.formulation = _ from hsummary, Formulation.summary]
    simp [hj]
  obtain ⟨flag, hflag⟩ := hflag
  have hallowed : allowed (SplitModel.bound? (Request.lowerEntry (.float lo)),
      SplitModel.bound? (Request.upperEntry (.float up))) = looseDomain lo up := by
    ext x
    exact and_congr (lower_handed (Edit.lowerFloat_ne_nan hfloats))
      (upper_handed (Edit.upperFloat_ne_nan hfloats))
  refine ⟨backend, _, _, hbackend, boundsTold_eq (hform _) hlower hupper hflag, hallowed, ?_, ?_⟩
  · rw [hallowed]
    exact statedDomain_subset
  · rw [hallowed]
    exact looseDomain_eq_iff

/-- The engine "cbc" of backends that find no point and note what they are told. -/
def notingEngine : Engine (LoadedProblem (Unit × List (SplitModel ⊕ NamedModel))) :=
  .ofRunner (NamedModel.runner .exact Request.pointlessBackends.noting.named) ((), [])

/-- Bounds of the second of two columns, of which the last ones count. -/
def boundHistory : List Operation :=
  [.edit (.lower (.int 2) (.float .negInf)), .edit (.upper (.int 2) (.float (.finite 4))),
   .edit (.lower (.int 2) (.float .one)), .edit (.upper (.int 3) (.float .one)),
   .edit (.upper (.int 2) (.float (.finite 7)))]

theorem solve_tellsDomain_lastBounds :
    ∃ new backend told bounds, notingEngine.create 0 2 = .ok new ∧
      (notingEngine.solve (notingEngine.performAll new boundHistory)).state.backend =
        (backend, [told]) ∧
      (boundsTold told)[1]? = some bounds ∧ allowed bounds = statedDomain .one (.finite 7) := by
  have hengine : ("cbc", notingEngine) ∈
      Request.pointlessBackends.noting.catalogue .exact ((), []) := List.mem_cons_self
  obtain ⟨new, hnew⟩ : ∃ new, notingEngine.create (0 : Nat) (2 : Nat) = .ok new := ⟨_, rfl⟩
  have hops : Operation.Regular boundHistory := by
    refine ⟨by simp [boundHistory], fun row relation rhs h => ?_⟩
    simp [boundHistory] at h
  have htaken : notingEngine.editsTaken new boundHistory = [.lower (.int 2) (.float .negInf),
      .upper (.int 2) (.float (.finite 4)), .lower (.int 2) (.float .one),
      .upper (.int 2) (.float (.finite 7))] := by
    obtain rfl := Except.ok.inj hnew
    rfl
  have hfloats : ∀ e ∈ notingEngine.editsTaken new boundHistory, e.SetsFloat := by
    rw [htaken]
    simp [Edit.SetsFloat, Scalar.one]
  obtain ⟨backend, told, bounds, hbackend, hbounds, -, -, hiff⟩ :=
    solve_tellsDomain hengine hnew hops hfloats (show 1 < 2 by decide)
  have hnotes : (notingEngine.performAll new boundHistory).backend.2 = [] := by
    obtain rfl := Except.ok.inj hnew
    rfl
  rw [hnotes] at hbackend
  rw [htaken] at hiff
  exact ⟨new, backend, told, bounds, hnew, hbackend, hbounds, hiff.2 ⟨by decide, by decide⟩⟩

/-- A lower bound of plus infinity is taken and leaves a column nothing, and the backend is told
that the column is free. -/
theorem solve_tellsDomain_posInf :
    ∃ engine new told,
      ("highs", engine) ∈ Request.pointlessBackends.noting.catalogue .exact ((), []) ∧
      engine.create 0 1 = .ok new ∧
      (engine.edit (.lower (.int 1) (.float .posInf)) new).result = .ok () ∧
      (engine.solve (engine.edit (.lower (.int 1) (.float .posInf)) new).state).state.backend =
        ((), [told]) ∧
      (boundsTold told)[0]? = some (none, none) ∧ allowed (none, none) = Set.univ ∧
      statedDomain .posInf .posInf = ∅ := by
  refine ⟨_, _, _, List.mem_cons_of_mem _ List.mem_cons_self, rfl, rfl, rfl, rfl, ?_,
    statedDomain_eq_empty (.inl rfl)⟩
  simp [allowed]

end LoadedProblem

end LinearPrograms
