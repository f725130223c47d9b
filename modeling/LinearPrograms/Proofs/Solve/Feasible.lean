import LinearPrograms.Solve
import LinearPrograms.Proofs.Engine.Soundness

/-!
# What a request asks for

A request speaks of constraints, and of arrays of bounds and flags that count only if they have one
entry per variable. `Request.Feasible` says which points satisfy it, in the caller's own terms: a
variable without a lower bound in an array starts at zero, and a bound of `unboundedFrom` or more in
magnitude is none.

`Formulation.States f c low high flag cs` says that a formulation maximizes `c` within such bounds
and flags subject to `cs`; there is one lemma for each edit that a solve makes once it maximizes. A
formulation that states a request allows the points that are feasible (`Poses.allows_iff_feasible`).
-/

namespace LinearPrograms

/-- Does a point satisfy the constraint? -/
def Constraint.Holds (k : Constraint) (x : List Rat) : Prop :=
  match k.relation with
  | .le => product (Scalar.rats k.body) x ≤ k.rhs.toRat
  | .ge => k.rhs.toRat ≤ product (Scalar.rats k.body) x
  | .eq => product (Scalar.rats k.body) x = k.rhs.toRat

/-- The rational that a value is read as, and zero if it is read as none. -/
def Document.rational (v : Document) : Rat :=
  match v.toScalar with
  | .ok x => x.toRat
  | .error _ => 0

namespace Request

/-- The part of an array for a variable, if the array has one part per variable. -/
def counted (d : Document) (n j : Nat) : Option Document :=
  if d.isPresent ∧ d.length? = some n then (part d j).toOption else none

/-- The lower bound that a value sets. -/
def boundBelow (v : Document) : Option Rat :=
  if v.number?.any fun x => x.le (.finite (-Formulation.unboundedFrom)) then none
  else some v.rational

/-- The upper bound that a value sets. -/
def boundAbove (v : Document) : Option Rat :=
  if v.number?.any fun x => Scalar.le (.finite Formulation.unboundedFrom) x then none
  else some v.rational

/-- The lower bound of a variable: zero, unless an array sets another one or none. -/
def lowerOf (d : Document) (n j : Nat) : Option Rat := (counted d n j).elim (some 0) boundBelow

/-- The upper bound of a variable: none, unless an array sets one. -/
def upperOf (d : Document) (n j : Nat) : Option Rat := (counted d n j).elim none boundAbove

/-- Is a variable limited to integers? -/
def flagOf (d : Document) (n j : Nat) : Bool := (counted d n j).elim false Document.isTrue

/-- A point satisfies the constraints, the bounds and the integer flags of a request. -/
structure Feasible (r : Request) (n : Nat) (cs : List Constraint) (x : List Rat) : Prop where
  length : x.length = n
  constraints : ∀ k ∈ cs, k.Holds x
  lower : ∀ j < n, ∀ b, lowerOf r.lowerBounds n j = some b → b ≤ x.getD j 0
  upper : ∀ j < n, ∀ b, upperOf r.upperBounds n j = some b → x.getD j 0 ≤ b
  integer : ∀ j < n, flagOf r.integerVariables n j = true → ∃ z : Int, x.getD j 0 = z

/-- A feasible point with the greatest objective. -/
def Best (r : Request) (c : List Scalar) (cs : List Constraint) (x : List Rat) : Prop :=
  r.Feasible c.length cs x ∧ ∀ y, r.Feasible c.length cs y →
    product (Scalar.rats c) y ≤ product (Scalar.rats c) x

end Request

namespace Formulation

/-! ## What the arguments of an edit come to -/

section
variable {f : Formulation}

theorem atMost_int (s : String) (a b : Int) :
    Document.atMost s (.int a) (.int b) = .ok (decide (a ≤ b)) := by
  show Except.ok (decide ((a : Rat) ≤ b)) = _
  simp only [Int.cast_le]

/-- The column that a solve names by its number is the one at the position before. -/
theorem position_int (k : Nat) : f.position (.int (k + 1)) =
    if k < f.columns then .ok k else .error (.engine (.column (.int (k + 1)) f.columns)) := by
  have h1 : (1 : Int) ≤ k + 1 := by omega
  simp only [position, atMost_int, h1, decide_true]
  by_cases h : k < f.columns
  · have h2 : (k : Int) + 1 ≤ f.columns := by omega
    have hk : ((k : Int) + 1 - 1).toNat = k := by omega
    simp only [h2, decide_true, if_pos h]
    exact congrArg Except.ok hk
  · have h2 : ¬(k : Int) + 1 ≤ f.columns := by omega
    simp only [h2, decide_false, if_neg h]
    rfl

theorem lowerBound_of_number {v : Document} {x : Scalar} (hx : v.number? = some x) :
    lowerBound v = if x.le (.finite (-unboundedFrom)) then .ok .negInf else v.toScalar := by
  simp only [lowerBound, Document.atMost, hx]
  rfl

theorem upperBound_of_number {v : Document} {x : Scalar} (hx : v.number? = some x) :
    upperBound v = if Scalar.le (.finite unboundedFrom) x then .ok .posInf else v.toScalar := by
  simp only [upperBound, atLeast, hx]
  rfl

theorem lowerBound_ne_ok {v : Document} {b : Scalar} (hx : v.number? = none) :
    lowerBound v ≠ .ok b := by
  rw [lowerBound, Document.atMost, hx]
  exact fun h => by cases h

theorem upperBound_ne_ok {v : Document} {b : Scalar} (hx : v.number? = none) :
    upperBound v ≠ .ok b := by
  rw [upperBound, atLeast, hx]
  exact fun h => by cases h

/-- The row behind the ignored entry is taken over as it is. -/
theorem unpadded_of_length {xs : List Scalar} (h : xs.length = f.columns) :
    f.unpadded (.ofScalars (.zero :: xs)) = .ok xs := by
  rw [unpadded, Tensor.ofDocument_ofScalars, ← h]
  show ((Tensor.ofScalars (.zero :: xs)).unpadded xs.length).mapError Fault.shape = _
  rw [Tensor.unpadded_ofScalars]
  rfl

theorem relationOf_code (r : Relation) : relationOf (.int r.code) = .ok r := by
  cases r <;> rfl

end

/-! ## What a formulation states -/

/-- A formulation maximizes `c` within bounds and flags subject to constraints. -/
structure States (f : Formulation) (c : List Scalar) (low high : Nat → Option Rat)
    (flag : Nat → Bool) (cs : List Constraint) : Prop where
  wellFormed : f.WellFormed
  maximize : f.maximize = true
  objective : f.objective = c
  lower : ∀ j < f.columns, (f.lower.getD j .nan).bound? = low j
  upper : ∀ j < f.columns, (f.upper.getD j .nan).bound? = high j
  integer : ∀ j < f.columns, f.integer.getD j false = flag j
  rows : f.rows = cs.map Constraint.body
  relations : f.relations = cs.map Constraint.relation
  rhs : f.rhs = cs.map Constraint.rhs

namespace States

variable {f g : Formulation} {c : List Scalar} {low high low' high' : Nat → Option Rat}
  {flag flag' : Nat → Bool} {cs : List Constraint}

theorem columns (h : f.States c low high flag cs) : f.columns = c.length := by
  rw [← h.objective, h.wellFormed.objective]

theorem congr (h : f.States c low high flag cs) (hlow : ∀ j < c.length, low j = low' j)
    (hhigh : ∀ j < c.length, high j = high' j) (hflag : ∀ j < c.length, flag j = flag' j) :
    f.States c low' high' flag' cs where
  __ := h
  lower j hj := (h.lower j hj).trans (hlow j (h.columns ▸ hj))
  upper j hj := (h.upper j hj).trans (hhigh j (h.columns ▸ hj))
  integer j hj := (h.integer j hj).trans (hflag j (h.columns ▸ hj))

/-! ## One lemma for each edit

### Columns -/

theorem getD_set {α : Type} {xs : List α} {k : Nat} (hk : k < xs.length) (y d : α) (j : Nat) :
    (xs.set k y).getD j d = if j = k then y else xs.getD j d := by
  simp only [List.getD_eq_getElem?_getD, List.getElem?_set, hk, if_true]
  by_cases h : j = k
  · simp [h]
  · simp [h, Ne.symm h]

/-- A column that is found is the one at the position before, and there is one. -/
theorem position_succ {k i : Nat} (h : f.position (.int (k + 1)) = .ok i) :
    i = k ∧ k < f.columns := by
  rw [position_int] at h
  split at h
  · exact ⟨(Except.ok.inj h).symm, ‹_›⟩
  · cases h

/-! ### Bounds -/

/-- A value that is a finite number is read as one. -/
theorem isFinite_of_number {v : Document} {x b : Scalar} (hx : v.number? = some x)
    (hfin : x.isFinite = true) (hb : v.toScalar = .ok b) : b.isFinite = true := by
  cases v with
  | bool t =>
    cases hb
    cases t <;> rfl
  | int i =>
    simp only [Document.toScalar, Document.scalarOfInt] at hb
    split at hb
    · cases hb
      assumption
    · cases hb
  | float y =>
    cases hb
    cases hx
    exact hfin
  | null | text _ | list _ | object _ => cases hx

theorem bound?_of_rational {v : Document} {b : Scalar} (hb : v.toScalar = .ok b)
    (hfin : b.isFinite = true) : b.bound? = some v.rational := by
  rw [Scalar.bound?, if_pos hfin, Document.rational, hb]

/-- A bound that is taken bounds by the number that the value is, unless that is far out. -/
theorem bound?_of_taken {bound : Except ConversionFault Scalar} {isFar : Scalar → Bool}
    {infinite b : Scalar} {v : Document}
    (hnumber : ∀ x, v.number? = some x → bound = if isFar x then .ok infinite else v.toScalar)
    (hother : v.number? = none → bound ≠ .ok b) (hinfinite : infinite.bound? = none)
    (hnear : ∀ x, v.number? = some x → ¬isFar x = true → x.isFinite = true)
    (hb : bound = .ok b) :
    b.bound? = if v.number?.any isFar then none else some v.rational := by
  cases hx : v.number? with
  | none => exact absurd hb (hother hx)
  | some x =>
    rw [hnumber x hx] at hb
    rw [Option.any_some]
    split at hb
    · rename_i hfar
      cases hb
      rw [if_pos hfar, hinfinite]
    · rename_i hnot
      rw [if_neg hnot]
      exact bound?_of_rational hb (isFinite_of_number hx (hnear x hx hnot) hb)

theorem bound?_lowerBound {v : Document} {b : Scalar}
    (hv : v.number? ≠ some .nan ∧ v.number? ≠ some .posInf) (hb : lowerBound v = .ok b) :
    b.bound? = Request.boundBelow v := by
  refine bound?_of_taken (fun x => lowerBound_of_number) lowerBound_ne_ok rfl (fun x hx hnot => ?_) hb
  cases x with
  | nan => exact absurd hx hv.1
  | posInf => exact absurd hx hv.2
  | negInf => exact absurd rfl hnot
  | finite _ | negZero => rfl

theorem bound?_upperBound {v : Document} {b : Scalar}
    (hv : v.number? ≠ some .nan ∧ v.number? ≠ some .negInf) (hb : upperBound v = .ok b) :
    b.bound? = Request.boundAbove v := by
  refine bound?_of_taken (fun x => upperBound_of_number) upperBound_ne_ok rfl (fun x hx hnot => ?_) hb
  cases x with
  | nan => exact absurd hx hv.1
  | posInf => exact absurd rfl hnot
  | negInf => exact absurd hx hv.2
  | finite _ | negZero => rfl

/-! ### Edits -/

theorem scaling {mode : Document} (h : f.States c low high flag cs)
    (he : (Edit.scaling mode).Effect f g) : g.States c low high flag cs := by
  obtain ⟨m, -, rfl⟩ := he
  exact { h with wellFormed := { h.wellFormed with } }

theorem setLower {k : Nat} {v : Document} (h : f.States c low high flag cs)
    (hv : v.number? ≠ some .nan ∧ v.number? ≠ some .posInf)
    (he : (Edit.lower (.int (k + 1)) v).Effect f g) :
    g.States c (fun j => if j = k then Request.boundBelow v else low j) high flag cs := by
  have hg := h.wellFormed.effect he
  obtain ⟨b, i, hb, hi, rfl⟩ := he
  obtain ⟨rfl, hk⟩ := position_succ hi
  refine { h with wellFormed := hg, lower := fun j hj => ?_ }
  rw [getD_set (h.wellFormed.lower.symm ▸ hk)]
  split
  · exact bound?_lowerBound hv hb
  · exact h.lower j hj

theorem setUpper {k : Nat} {v : Document} (h : f.States c low high flag cs)
    (hv : v.number? ≠ some .nan ∧ v.number? ≠ some .negInf)
    (he : (Edit.upper (.int (k + 1)) v).Effect f g) :
    g.States c low (fun j => if j = k then Request.boundAbove v else high j) flag cs := by
  have hg := h.wellFormed.effect he
  obtain ⟨b, i, hb, hi, rfl⟩ := he
  obtain ⟨rfl, hk⟩ := position_succ hi
  refine { h with wellFormed := hg, upper := fun j hj => ?_ }
  rw [getD_set (h.wellFormed.upper.symm ▸ hk)]
  split
  · exact bound?_upperBound hv hb
  · exact h.upper j hj

theorem setInteger {k : Nat} {v : Document} (h : f.States c low high flag cs)
    (he : (Request.integerEdit (.int (k + 1)) v).Effect f g) :
    g.States c low high (fun j => if j = k then v.isTrue else flag j) cs := by
  have hg := h.wellFormed.effect he
  obtain ⟨i, hi, rfl⟩ := he
  obtain ⟨rfl, hk⟩ := position_succ hi
  refine { h with wellFormed := hg, integer := fun j hj => ?_ }
  rw [getD_set (h.wellFormed.integer.symm ▸ hk)]
  split
  · rfl
  · exact h.integer j hj

theorem setObjective {c' : List Scalar} (h : f.States c low high flag cs)
    (hlen : c'.length = c.length)
    (he : (Edit.objective (.ofScalars (.zero :: c'))).Effect f g) :
    g.States c' low high flag cs := by
  have hg := h.wellFormed.effect he
  obtain ⟨ys, hys, rfl⟩ := he
  have hc' := unpadded_of_length (hlen.trans h.columns.symm)
  exact { h with wellFormed := hg, objective := Except.ok.inj (hys.symm.trans hc') }

theorem addConstraint {k : Constraint} (h : f.States c low high flag cs)
    (hlen : k.body.length = c.length)
    (he : (Edit.constraint (.ofScalars (.zero :: k.body)) (.int k.relation.code)
      (.float k.rhs)).Effect f g) :
    g.States c low high flag (cs ++ [k]) := by
  have hg := h.wellFormed.effect he
  obtain ⟨ys, r, b, hys, hr, hb, rfl⟩ := he
  obtain rfl : k.body = ys :=
    Except.ok.inj ((unpadded_of_length (hlen.trans h.columns.symm)).symm.trans hys)
  obtain rfl : k.relation = r := Except.ok.inj ((relationOf_code k.relation).symm.trans hr)
  obtain rfl : k.rhs = b := Except.ok.inj hb
  refine { h with wellFormed := hg, rows := ?_, relations := ?_, rhs := ?_ }
  · rw [h.rows, List.map_append]
    rfl
  · rw [h.relations, List.map_append]
    rfl
  · rw [h.rhs, List.map_append]
    rfl

/-! ## What the formulation of a request allows -/

theorem statedRows_eq (h : f.States c low high flag cs) :
    f.statedRows = cs.map fun k => ⟨Scalar.rats k.body, k.relation, k.rhs.toRat⟩ := by
  rw [statedRows, h.rows, h.relations, h.rhs, List.zip_map', List.zip_map', List.map_map]
  rfl

theorem holds_row (k : Constraint) (x : List Rat) :
    (Row.mk (Scalar.rats k.body) k.relation k.rhs.toRat).holds x = true ↔ k.Holds x := by
  unfold Row.holds Constraint.Holds
  cases k.relation <;> exact decide_eq_true_iff

theorem holds_bounds {low high : Option Rat} {q : Rat} :
    (Bounds.mk low high).holds q = true ↔
      (∀ b, low = some b → b ≤ q) ∧ ∀ b, high = some b → q ≤ b := by
  cases low <;> cases high <;> simp [Bounds.holds]

theorem den_eq_one_iff {q : Rat} : q.den = 1 ↔ ∃ z : Int, q = z := by
  constructor
  · exact fun h => ⟨q.num, ((Rat.den_eq_one_iff q).1 h).symm⟩
  · rintro ⟨z, rfl⟩
    rfl

end States

/-- A formulation states the request to maximize `c` subject to `cs`. -/
def Poses (f : Formulation) (r : Request) (c : List Scalar) (cs : List Constraint) : Prop :=
  f.States c (Request.lowerOf r.lowerBounds c.length) (Request.upperOf r.upperBounds c.length)
    (Request.flagOf r.integerVariables c.length) cs

namespace Poses

open States

variable {f : Formulation} {c : List Scalar} {cs : List Constraint} {r : Request}

/-- The points that the formulation of a request allows are the feasible ones. -/
theorem allows_iff_feasible (h : f.Poses r c cs) {x : List Rat} :
    f.program.allows x = true ↔ r.Feasible c.length cs x := by
  rw [allows_iff h.wellFormed, h.statedRows_eq, h.columns]
  constructor
  · rintro ⟨hlen, hrows, hbounds, hint⟩
    have hb : ∀ j < c.length, _ := fun j hj => by
      have hb := hbounds j hj
      rwa [h.lower j (h.columns ▸ hj), h.upper j (h.columns ▸ hj), holds_bounds] at hb
    exact {
      length := hlen
      constraints := fun k hk => (holds_row k x).1 (hrows _ (List.mem_map.2 ⟨k, hk, rfl⟩))
      lower := fun j hj => (hb j hj).1
      upper := fun j hj => (hb j hj).2
      integer := fun j hj hf => den_eq_one_iff.1
        (hint j hj ((h.integer j (h.columns ▸ hj)).trans hf)) }
  · intro hx
    refine ⟨hx.length, ?_, fun j hj => ?_, fun j hj hf => ?_⟩
    · intro row hrow
      obtain ⟨k, hk, rfl⟩ := List.mem_map.1 hrow
      exact (holds_row k x).2 (hx.constraints k hk)
    · rw [h.lower j (h.columns ▸ hj), h.upper j (h.columns ▸ hj), holds_bounds]
      exact ⟨hx.lower j hj, hx.upper j hj⟩
    · rw [h.integer j (h.columns ▸ hj)] at hf
      exact den_eq_one_iff.2 (hx.integer j hj hf)

theorem costAt_eq (h : f.Poses r c cs) (x : List Rat) :
    f.program.costAt x = -product (Scalar.rats c) x := by
  rw [costAt_program, sense, h.maximize, h.objective, if_pos rfl, neg_one_mul]

/-- An optimum of the formulation is a feasible point with the greatest objective. -/
theorem best_of_isOptimal (h : f.Poses r c cs) {x : List Rat} (hx : f.program.IsOptimal x) :
    r.Best c cs x := by
  refine ⟨(allows_iff_feasible h).1 hx.1, fun y hy => ?_⟩
  have hle := hx.2 y ((allows_iff_feasible h).2 hy)
  rwa [h.costAt_eq, h.costAt_eq, neg_le_neg_iff] at hle

end Poses

end Formulation

end LinearPrograms
