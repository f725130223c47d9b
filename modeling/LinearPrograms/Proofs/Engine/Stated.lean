import LinearPrograms.Engine.NamedModel
import LinearPrograms.Proofs.Engine.Formed
import LinearPrograms.Proofs.Engine.Selection
import Mathlib.Data.List.Nodup

/-!
# The programs that formulations and models state

A formulation states a `Program` over the rationals, and so do the two forms in which it is handed
over: a split model as it stands, a named model once its terms are resolved by the names of its
columns (`NamedModel.coefficients`). The cost of a program is minimized, so an objective that is
maximized counts with its sign changed (`Formulation.sense`).

* `SplitModel.ofFormulation_eq`, `NamedModel.ofFormulation_eq`: a well-formed formulation is always
  handed over, in its `splitForm` and its `namedForm`.
* `allows_splitForm`, `cost_splitForm`: the split form allows the same points at the same cost. Its
  rows are those of the formulation with each row `≥` turned round (`perm_rows_splitForm`).
* `program_namedForm`: the named form states the very program of the formulation. This rests on
  `columnName_injective`: a term counts for the column of its name only.
-/

namespace LinearPrograms

/-- The bound that a scalar sets: an infinity or an indeterminate value sets none. -/
def Scalar.bound? (x : Scalar) : Option Rat := if x.isFinite then some x.toRat else none

/-! ## What is stated -/

namespace Formulation

/-- The sign with which the objective counts when it is minimized. -/
def sense (f : Formulation) : Rat := if f.maximize then -1 else 1

/-- The rows in their order. -/
def statedRows (f : Formulation) : List Row :=
  (f.rows.zip (f.relations.zip f.rhs)).map fun p => ⟨Scalar.rats p.1, p.2.1, p.2.2.toRat⟩

/-- The program that a formulation states. -/
def program (f : Formulation) : Program where
  cost := (Scalar.rats f.objective).map (f.sense * ·)
  rows := f.statedRows
  bounds := (f.lower.zip f.upper).map fun b => ⟨b.1.bound?, b.2.bound?⟩
  integer := f.integer

end Formulation

/-- A point that is allowed and that no allowed point undercuts. -/
def Program.IsOptimal (p : Program) (x : List Rat) : Prop :=
  p.allows x = true ∧ ∀ y, p.allows y = true → p.costAt x ≤ p.costAt y

/-- The program that a split model states. -/
def SplitModel.program (m : SplitModel) : Program where
  cost := Scalar.rats m.cost
  rows :=
    (m.upperRows.zip m.upperRhs).map (fun p => ⟨Scalar.rats p.1, .le, p.2.toRat⟩) ++
      (m.equalRows.zip m.equalRhs).map fun p => ⟨Scalar.rats p.1, .eq, p.2.toRat⟩
  bounds := m.bounds.map fun b => ⟨b.1.map Scalar.toRat, b.2.map Scalar.toRat⟩
  integer := m.integrality.getD (List.replicate m.cost.length false)

namespace NamedModel

/-- The coefficient of the column with a name: the sum of the terms of that name. -/
def coefficient (ts : List (String × Scalar)) (name : String) : Rat :=
  ((ts.filter fun t => t.1 = name).map fun t => t.2.toRat).sum

/-- The coefficients of the columns of a model. -/
def coefficients (m : NamedModel) (ts : List (String × Scalar)) : List Rat :=
  m.columns.map fun c => coefficient ts c.name

/-- The value of the objective, in the model's own sense. -/
def worthAt (m : NamedModel) (x : List Rat) : Rat := product (m.coefficients m.objective) x

/-- The program that a named model states. -/
def program (m : NamedModel) : Program where
  cost := (m.coefficients m.objective).map ((if m.maximize then -1 else 1) * ·)
  rows := m.rows.map fun r => ⟨m.coefficients r.terms, r.relation, r.rhs.toRat⟩
  bounds := m.columns.map fun c => ⟨c.lower.map Scalar.toRat, c.upper.map Scalar.toRat⟩
  integer := m.columns.map NamedColumn.integer

end NamedModel

/-! ## What a formulation allows -/

theorem all_zip_iff {α β : Type} {p : α × β → Bool} {d : α} {e : β} :
    ∀ {n : Nat} {xs : List α} {ys : List β}, xs.length = n → ys.length = n →
      ((xs.zip ys).all p = true ↔ ∀ j < n, p (xs.getD j d, ys.getD j e) = true)
  | 0, [], [], _, _ => by simp
  | n + 1, x :: xs, y :: ys, hx, hy => by
    have ih := all_zip_iff (Nat.succ.inj hx) (Nat.succ.inj hy) (p := p) (d := d) (e := e)
    rw [List.zip_cons_cons, List.all_cons, Bool.and_eq_true, ih]
    constructor
    · rintro ⟨h0, hs⟩ (_ | j) hj
      · exact h0
      · exact hs j (Nat.lt_of_succ_lt_succ hj)
    · intro h
      exact ⟨h 0 n.succ_pos, fun j hj => h (j + 1) (Nat.succ_lt_succ hj)⟩

namespace Formulation

variable {f : Formulation}

/-- A point is allowed if it satisfies the rows and, column by column, bounds and integer flags. -/
theorem allows_iff (hf : f.WellFormed) {x : List Rat} :
    f.program.allows x = true ↔ x.length = f.columns ∧ (∀ r ∈ f.statedRows, r.holds x = true) ∧
      (∀ j < f.columns, (Bounds.mk (f.lower.getD j .nan).bound? (f.upper.getD j .nan).bound?).holds
        (x.getD j 0) = true) ∧
      ∀ j < f.columns, f.integer.getD j false = true → (x.getD j 0).den = 1 := by
  have hcost : f.program.columns = f.columns := by
    rw [Program.columns, program, List.length_map, Scalar.length_rats, hf.objective]
  have hbound : ∀ j < f.columns, f.program.bounds.getD j ⟨none, none⟩ =
      ⟨(f.lower.getD j .nan).bound?, (f.upper.getD j .nan).bound?⟩ := by
    intro j hj
    have hl : j < f.lower.length := hf.lower.symm ▸ hj
    have hu : j < f.upper.length := hf.upper.symm ▸ hj
    simp [program, hl, hu]
  have hbounds : f.program.bounds.length = f.columns := by
    simp [program, hf.lower, hf.upper]
  simp only [Program.allows, Bool.and_eq_true, beq_iff_eq, hcost, List.all_eq_true]
  rw [and_assoc, and_assoc]
  refine and_congr_right fun hx => and_congr_right fun _ => and_congr ?_ ?_
  · rw [← List.all_eq_true, all_zip_iff (d := ⟨none, none⟩) (e := 0) hbounds hx]
    exact forall₂_congr fun j hj => by rw [hbound j hj]
  · have hint : f.program.integer.length = f.columns := hf.integer
    rw [← List.all_eq_true, all_zip_iff (d := false) (e := 0) hint hx]
    refine forall₂_congr fun j _ => ?_
    show (!f.integer.getD j false || (x.getD j 0).den == 1) = true ↔ _
    cases f.integer.getD j false <;> simp

end Formulation

/-! ## Rows turned round -/

/-- A row `≥` as the row `≤` with all signs changed; other rows stay. -/
def Row.oriented (r : Row) : Row :=
  if r.relation = .ge then ⟨r.coefficients.map (-1 * ·), .le, -r.rhs⟩ else r

theorem Row.holds_oriented (r : Row) (x : List Rat) : r.oriented.holds x = r.holds x := by
  obtain ⟨c, rel, b⟩ := r
  cases rel with
  | le => rfl
  | eq => rfl
  | ge =>
    show decide (product (c.map (-1 * ·)) x ≤ -b) = decide (b ≤ product c x)
    rw [product_map_mul, neg_one_mul]
    exact decide_eq_decide.2 neg_le_neg_iff

theorem rats_map_neg (xs : List Scalar) :
    Scalar.rats (xs.map Scalar.neg) = (Scalar.rats xs).map (-1 * ·) := by
  simp only [Scalar.rats, List.map_map]
  refine List.map_congr_left fun x _ => ?_
  show (-x).toRat = -1 * x.toRat
  rw [Scalar.toRat_neg, neg_one_mul]

theorem rats_map_negateIf (b : Bool) (xs : List Scalar) :
    Scalar.rats (xs.map (Scalar.negateIf b)) =
      (Scalar.rats xs).map ((if b then -1 else 1) * ·) := by
  simp only [Scalar.rats, List.map_map]
  exact List.map_congr_left fun x _ => Scalar.toRat_negateIf b x

theorem Scalar.map_bound? (x : Scalar) :
    (if x.isFinite then some x else none).map toRat = x.bound? := by
  unfold bound?
  split <;> rfl

/-! ## The split form -/

/-- The split form of a formulation, with its rows and right-hand sides by relation. -/
def Formulation.splitForm (f : Formulation) : SplitModel where
  cost := f.objective.map (Scalar.negateIf f.maximize)
  upperRows :=
    select .le f.relations f.rows ++ (select .ge f.relations f.rows).map (List.map Scalar.neg)
  upperRhs := select .le f.relations f.rhs ++ (select .ge f.relations f.rhs).map Scalar.neg
  equalRows := select .eq f.relations f.rows
  equalRhs := select .eq f.relations f.rhs
  bounds := (f.lower.zip f.upper).map fun b => (SplitModel.bound? b.1, SplitModel.bound? b.2)
  integrality := if f.hasInteger then some f.integer else none
  display := f.reports
  presolve := !f.scalingDisabled

variable {f : Formulation}

theorem SplitModel.ofFormulation_eq (hf : f.WellFormed) :
    SplitModel.ofFormulation f = .ok f.splitForm := by
  have h : f.relations.length = f.rhs.length := hf.relations.trans hf.rhs.symm
  simp only [ofFormulation, pick_positions h, rowsOf_eq_select]
  rfl

namespace Formulation

/-- The rows one by one, as functions of their relation. -/
theorem statedRows_oriented (rs : List Relation) (xs : List (List Scalar)) (bs : List Scalar) :
    (xs.zip (rs.zip bs)).map
        (fun p => Row.oriented ⟨Scalar.rats p.1, p.2.1, p.2.2.toRat⟩) =
      List.zipWith (fun r p => Row.oriented ⟨Scalar.rats p.1, r, p.2.toRat⟩) rs (xs.zip bs) := by
  induction rs generalizing xs bs with
  | nil => simp
  | cons r rs ih =>
    cases xs with
    | nil => simp
    | cons x xs =>
      cases bs with
      | nil => simp
      | cons b bs => simp [ih]

/-- The split form has the rows of the formulation, each once, those with `≥` turned round. -/
theorem perm_rows_splitForm (hf : f.WellFormed) :
    f.splitForm.program.rows.Perm (f.statedRows.map Row.oriented) := by
  have hrows : f.relations.length = f.rows.length := hf.relations
  have hrhs : f.relations.length = f.rhs.length := hf.relations.trans hf.rhs.symm
  have hlen : ∀ r, (select r f.relations f.rows).length = (select r f.relations f.rhs).length :=
    fun r => (length_select r hrows).trans (length_select r hrhs).symm
  have hzip : f.relations.length = (List.zipWith
      (fun r p => Row.oriented ⟨Scalar.rats p.1, r, p.2.toRat⟩) f.relations
      (f.rows.zip f.rhs)).length := by
    simp only [List.length_zipWith, List.length_zip]
    omega
  -- rows with their right-hand sides are picked as one list, so that neither strays from the other
  have hperm := perm_select hzip
  simp only [select_zipWith, ← zip_select] at hperm
  simp only [statedRows, List.map_map, Function.comp_def]
  rw [statedRows_oriented]
  refine List.Perm.trans (.of_eq ?_) hperm
  simp only [SplitModel.program, splitForm]
  rw [List.zip_append (hlen .le), List.map_append, List.zip_map, List.map_map]
  congr 1
  congr 1
  refine List.map_congr_left fun p _ => ?_
  exact congrArg₂ (Row.mk · .le ·) (rats_map_neg p.1) (Scalar.toRat_neg p.2)

theorem all_of_no_flag {fs : List Bool} (h : fs.any id = false) (x : List Rat) :
    (fs.zip x).all (fun p => !p.1 || p.2.den == 1) = true := by
  rw [List.all_eq_true]
  rintro ⟨b, q⟩ hp
  have hb : b = false := by simpa using (List.any_eq_false.1 h) b (List.of_mem_zip hp).1
  simp [hb]

/-- The split form allows the points of the formulation. -/
theorem allows_splitForm (hf : f.WellFormed) (x : List Rat) :
    f.splitForm.program.allows x = f.program.allows x := by
  have hcost : f.splitForm.program.columns = f.program.columns := by
    simp [Program.columns, SplitModel.program, program, splitForm, Scalar.rats]
  have hrows : f.splitForm.program.rows.all (fun r => r.holds x) =
      f.program.rows.all fun r => r.holds x := by
    rw [(perm_rows_splitForm hf).all_eq, List.all_map]
    simp only [Function.comp_def, Row.holds_oriented]
    rfl
  have hbounds : f.splitForm.program.bounds = f.program.bounds := by
    simp only [SplitModel.program, program, splitForm, List.map_map]
    refine List.map_congr_left fun b _ => ?_
    exact congrArg₂ Bounds.mk (Scalar.map_bound? b.1) (Scalar.map_bound? b.2)
  have hint : (f.splitForm.program.integer.zip x).all (fun p => !p.1 || p.2.den == 1) =
      (f.program.integer.zip x).all fun p => !p.1 || p.2.den == 1 := by
    cases h : f.hasInteger with
    | true => simp [SplitModel.program, program, splitForm, h]
    | false =>
      rw [show f.program.integer = f.integer from rfl, all_of_no_flag h]
      refine all_of_no_flag ?_ x
      simp [SplitModel.program, splitForm, h]
  unfold Program.allows
  rw [hcost, hrows, hbounds, hint]

/-- The split form charges what the formulation charges. -/
theorem cost_splitForm (f : Formulation) : f.splitForm.program.cost = f.program.cost :=
  rats_map_negateIf f.maximize f.objective

end Formulation

/-! ## The named form -/

/-- The named form of a formulation. -/
def Formulation.namedForm (f : Formulation) : NamedModel where
  maximize := f.maximize
  columns := NamedModel.columnsOf f
  objective := NamedModel.terms f.objective
  rows := (f.rows.zip f.relations).zipIdx.map fun p =>
    ⟨NamedModel.rowName p.2, NamedModel.terms p.1.1, p.1.2, (f.rhs.getD p.2 .zero).plusZero⟩
  display := f.reports
  options := NamedModel.scalingOptions f.scaling

namespace NamedModel

/-- A number is what its decimal digits say. -/
theorem numeral_injective {i j : Nat} (h : i.repr = j.repr) : i = j := by
  have h' := congrArg (fun s : String => Nat.ofDigitChars 10 s.toList 0) h
  simpa [Nat.toList_repr] using h'

theorem columnName_injective : Function.Injective columnName := by
  intro i j h
  have h' : (i + 1).repr = (j + 1).repr := (String.append_right_inj "C").1 h
  exact Nat.succ.inj (numeral_injective h')

theorem rowName_injective : Function.Injective rowName := by
  intro i j h
  have h' : (i + 1).repr = (j + 1).repr := (String.append_right_inj "R").1 h
  exact Nat.succ.inj (numeral_injective h')

theorem ofFormulation_eq (hf : f.WellFormed) :
    NamedModel.ofFormulation f = .ok f.namedForm := by
  have hrows : (f.rows.zip f.relations).zipIdx.mapM (fun p => rowOf f p.2 p.1) =
      .ok f.namedForm.rows := by
    refine Computation.mapM_eq_ok_map fun p hp => ?_
    have hi : p.2 < f.rhs.length := by
      have := List.snd_lt_of_mem_zipIdx hp
      simp only [List.length_zip] at this
      have := hf.rhs
      omega
    simp only [rowOf, List.getElem?_eq_getElem hi, List.getD_eq_getElem?_getD, Option.getD_some]
  rw [ofFormulation, hrows]
  rfl

/-! ### Terms resolved by name -/

theorem coefficient_cons (t : String × Scalar) (ts : List (String × Scalar)) (name : String) :
    coefficient (t :: ts) name =
      (if t.1 = name then t.2.toRat else 0) + coefficient ts name := by
  unfold coefficient
  rw [List.filter_cons]
  by_cases h : t.1 = name
  · simp [h]
  · simp [h]

/-- Of terms that are named in order from `k` on, one counts at most, by its position. -/
theorem coefficient_from :
    ∀ (cs : List Scalar) (k i : Nat),
      coefficient (cs.mapIdx fun j c => (columnName (k + j), c)) (columnName i) =
        if i < k then 0 else (Scalar.rats cs).getD (i - k) 0
  | [], k, i => by simp [coefficient]
  | c :: cs, k, i => by
    have ih := coefficient_from cs (k + 1) i
    rw [List.mapIdx_cons, coefficient_cons]
    simp only [Nat.add_assoc, Nat.add_comm 1] at ih
    rw [ih]
    simp only [Nat.add_zero, columnName_injective.eq_iff]
    -- the first name is that of the column, or the column was passed over, or it is further on
    rcases Nat.lt_trichotomy i k with h | rfl | h
    · rw [if_neg (by omega), if_pos (by omega), if_pos h, add_zero]
    · rw [if_pos rfl, if_pos (by omega), if_neg (by omega), Nat.sub_self, add_zero]
      rfl
    · obtain ⟨d, rfl⟩ := Nat.exists_eq_add_of_lt h
      rw [if_neg (by omega), if_neg (by omega), if_neg (by omega), zero_add,
        show k + d + 1 - (k + 1) = d by omega, show k + d + 1 - k = d + 1 by omega]
      rfl

/-- The coefficient of a column is the entry at its position. -/
theorem coefficient_terms (cs : List Scalar) (i : Nat) :
    coefficient (terms cs) (columnName i) = (Scalar.rats cs).getD i 0 := by
  simpa [terms] using coefficient_from cs 0 i

theorem coefficients_terms {m : NamedModel} {cs : List Scalar} {n : Nat}
    (hm : m.columns.map NamedColumn.name = (List.range n).map columnName) (h : cs.length = n) :
    m.coefficients (terms cs) = Scalar.rats cs := by
  have hmap : m.coefficients (terms cs) =
      (m.columns.map NamedColumn.name).map (coefficient (terms cs)) := by
    simp only [coefficients, List.map_map, Function.comp_def]
  rw [hmap, hm, List.map_map]
  refine List.ext_getElem (by simp [h]) fun i h1 h2 => ?_
  simp only [List.getElem_map, List.getElem_range, Function.comp_apply, coefficient_terms]
  exact (List.getElem_eq_getD 0).symm

/-- The columns of the named form, by their names. -/
theorem columnNames_namedForm (hf : f.WellFormed) :
    f.namedForm.columns.map NamedColumn.name = (List.range f.columns).map columnName := by
  have h1 := hf.lower
  have h2 := hf.upper
  have h3 := hf.integer
  refine List.ext_getElem (by simp [Formulation.namedForm, columnsOf]; omega) fun i _ _ => ?_
  simp [Formulation.namedForm, columnsOf]

theorem rowNames_namedForm (hf : f.WellFormed) :
    f.namedForm.rows.map NamedRow.name = (List.range f.rows.length).map rowName := by
  have h1 := hf.relations
  refine List.ext_getElem (by simp [Formulation.namedForm]; omega) fun i _ _ => ?_
  simp [Formulation.namedForm]

theorem rows_namedForm (hf : f.WellFormed) : f.namedForm.program.rows = f.statedRows := by
  have hnames := columnNames_namedForm hf
  have h1 := hf.relations
  have h2 := hf.rhs
  refine List.ext_getElem
    (by simp [program, Formulation.namedForm, Formulation.statedRows]; omega) fun i hi hi' => ?_
  have hrow : i < f.rows.length := by
    simp [Formulation.statedRows] at hi'
    omega
  have hterms : f.namedForm.coefficients (terms f.rows[i]) = Scalar.rats f.rows[i] :=
    coefficients_terms hnames (hf.row _ (List.getElem_mem hrow))
  have hb : f.rhs.getD i .zero = f.rhs[i] := (List.getElem_eq_getD _).symm
  simp only [program, Formulation.namedForm, Formulation.statedRows, List.getElem_map,
    List.getElem_zip, List.getElem_zipIdx, Nat.zero_add, hb, Scalar.toRat_plusZero]
  exact congrArg (Row.mk · f.relations[i] f.rhs[i].toRat) hterms

/-- The named form states the program of the formulation. -/
theorem program_namedForm (hf : f.WellFormed) : f.namedForm.program = f.program := by
  have hnames := columnNames_namedForm hf
  have h1 := hf.lower
  have h2 := hf.upper
  have h3 := hf.integer
  have hcost : f.namedForm.program.cost = f.program.cost :=
    congrArg (List.map (f.sense * ·)) (coefficients_terms hnames hf.objective)
  have hbounds : f.namedForm.program.bounds = f.program.bounds := by
    refine List.ext_getElem
      (by simp [program, Formulation.namedForm, columnsOf, Formulation.program]; omega)
      fun i _ _ => ?_
    simp [program, Formulation.namedForm, columnsOf, Formulation.program, bound?, Scalar.bound?]
  have hint : f.namedForm.program.integer = f.program.integer := by
    refine List.ext_getElem
      (by simp [program, Formulation.namedForm, columnsOf, Formulation.program]; omega)
      fun i _ _ => ?_
    simp [program, Formulation.namedForm, columnsOf, Formulation.program]
  have hrows : f.namedForm.program.rows = f.program.rows := rows_namedForm hf
  rcases hp : f.namedForm.program with ⟨c, r, b, k⟩
  rw [hp] at hcost hbounds hint hrows
  exact congr (congr (congrArg₂ Program.mk hcost hrows) hbounds) hint

end NamedModel

end LinearPrograms
