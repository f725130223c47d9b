import LinearPrograms.Proofs.Engine.Stated

/-!
# Both engines pose the same problem

A formulation is handed over as a split model by one engine and as a named model by the other.
`SameProblem f s m` says that the two are one problem: the same points are allowed and come in the
same order, every row of the formulation stands once in each, and scaling is turned off in both or
in neither. Both forms of a well-formed formulation are so related (`sameProblem_forms`), and every
engine between its creation and its release holds such a formulation.
-/

namespace LinearPrograms

namespace NamedModel

/-- Is a point at least as good as another in the model's own sense? -/
def AtLeastAsGood (m : NamedModel) (x y : List Rat) : Prop :=
  if m.maximize then m.worthAt y ≤ m.worthAt x else m.worthAt x ≤ m.worthAt y

/-- The cost of the program is the value of the objective, with its sign changed if it is maximized.
-/
theorem costAt_program (m : NamedModel) (x : List Rat) :
    m.program.costAt x = (if m.maximize then -1 else 1) * m.worthAt x :=
  product_map_mul _ _ _

theorem costAt_le_costAt {m : NamedModel} {x y : List Rat} :
    m.program.costAt x ≤ m.program.costAt y ↔ m.AtLeastAsGood x y := by
  rw [costAt_program, costAt_program, AtLeastAsGood]
  cases m.maximize with
  | true => simp only [if_true, neg_one_mul, neg_le_neg_iff]
  | false => simp only [Bool.false_eq_true, if_false, one_mul]

/-- Scaling is turned off by name exactly for the modes whose base is zero. -/
theorem off_mem_scalingOptions (mode : Int) :
    "scaling off" ∈ scalingOptions mode ↔ mode % 8 = 0 := by
  unfold scalingOptions scalingKeyword?
  by_cases h : mode % 8 = 0
  · simp [h]
  · simp only [h, if_false, iff_false]
    split
    · rename_i keyword hk
      rw [List.mem_singleton]
      rintro hoff
      have hoff : keyword = "off" := (String.append_right_inj "scaling ").1 hoff.symm
      subst hoff
      revert hk
      repeat' split
      all_goals decide
    · exact List.not_mem_nil

theorem names_terms (cs : List Scalar) :
    (terms cs).map Prod.fst = (List.range cs.length).map columnName :=
  List.ext_getElem (by simp [terms]) fun i _ _ => by simp [terms]

end NamedModel

/-- A split model and a named model pose the problem of one formulation. -/
structure SameProblem (f : Formulation) (s : SplitModel) (m : NamedModel) : Prop where
  /-- The same points are allowed. -/
  allows : ∀ x, s.program.allows x = m.program.allows x
  /-- The points come in the same order. -/
  order : ∀ x y, s.program.costAt x ≤ s.program.costAt y ↔ m.AtLeastAsGood x y
  /-- The split model has every row once, those with `≥` turned round. -/
  splitRows : s.program.rows.Perm (f.statedRows.map Row.oriented)
  /-- The named model has every row once and in order. -/
  namedRows : m.program.rows = f.statedRows
  rowNames : m.rows.map NamedRow.name = (List.range f.rows.length).map NamedModel.rowName
  columnNames : m.columns.map NamedColumn.name = (List.range f.columns).map NamedModel.columnName
  rowsDistinct : (m.rows.map NamedRow.name).Nodup
  columnsDistinct : (m.columns.map NamedColumn.name).Nodup
  /-- The objective and every row name each column once, in order. -/
  objectiveNames : m.objective.map Prod.fst = m.columns.map NamedColumn.name
  termNames : ∀ r ∈ m.rows, r.terms.map Prod.fst = m.columns.map NamedColumn.name
  /-- Scaling is turned off in both or in neither. -/
  scaling : s.presolve = false ↔ "scaling off" ∈ m.options

open NamedModel in
theorem sameProblem_forms {f : Formulation} (hf : f.WellFormed) :
    SameProblem f f.splitForm f.namedForm where
  allows x := by rw [program_namedForm hf, Formulation.allows_splitForm hf]
  order x y := by
    rw [← costAt_le_costAt, program_namedForm hf]
    simp only [Program.costAt, Formulation.cost_splitForm]
  splitRows := Formulation.perm_rows_splitForm hf
  namedRows := rows_namedForm hf
  rowNames := rowNames_namedForm hf
  columnNames := columnNames_namedForm hf
  rowsDistinct := by
    rw [rowNames_namedForm hf]
    exact List.nodup_range.map rowName_injective
  columnsDistinct := by
    rw [columnNames_namedForm hf]
    exact List.nodup_range.map columnName_injective
  objectiveNames := by
    rw [columnNames_namedForm hf, ← hf.objective]
    exact names_terms f.objective
  termNames r hr := by
    obtain ⟨p, hp, rfl⟩ := List.mem_map.1 hr
    have hrow : p.1.1 ∈ f.rows :=
      (List.of_mem_zip (List.fst_mem_of_mem_zipIdx hp)).1
    rw [columnNames_namedForm hf, ← hf.row _ hrow]
    exact names_terms p.1.1
  scaling := by
    rw [show f.namedForm.options = scalingOptions f.scaling from rfl, off_mem_scalingOptions]
    simp [Formulation.splitForm, Formulation.scalingDisabled]

namespace LoadedProblem

/-- Whatever edits an engine received, both forms of its formulation can be handed over, and they
pose the same problem. -/
theorem handedOver_sameProblem {β : Type} {p : LoadedProblem β} (hp : p.Formed) :
    ∃ s m, SplitModel.ofFormulation p.formulation = .ok s ∧
      NamedModel.ofFormulation p.formulation = .ok m ∧ SameProblem p.formulation s m := by
  have hf := hp.sound.2
  exact ⟨_, _, SplitModel.ofFormulation_eq hf, NamedModel.ofFormulation_eq hf, sameProblem_forms hf⟩

/-- Two rows with different relations in reverse order, bounds of both kinds and one integer column,
to be maximized with a scaling mode below zero. -/
def mixedEdits : List Edit :=
  let row := fun qs : List Rat => Document.ofScalars (qs.map Scalar.finite)
  [.maximize, .objective (row [0, 3, -2]), .lower (.int 1) (.float .negInf),
   .upper (.int 2) (.float (.finite 4)), .integer (.int 2) (.bool true),
   .constraint (row [0, 1, 1]) (.int 2) (.float (.finite 1)),
   .constraint (row [0, 2, -1]) (.int 1) (.float (.finite 6)), .scaling (.int (-8))]

theorem handedOver_sameProblem_mixed :
    ∃ p : LoadedProblem Unit, p.formulation.relations = [.le, .ge, .le] ∧
      ∃ s m, SplitModel.ofFormulation p.formulation = .ok s ∧
        NamedModel.ofFormulation p.formulation = .ok m ∧ SameProblem p.formulation s m := by
  have hnew : Formed (β := Unit) { formulation := .ofSize 1 2, backend := () } :=
    @Formed.created Unit () 1 2 _ rfl
  have hedits := hnew.editAll (show (editAll mixedEdits _).result = .ok () from rfl)
  exact ⟨_, rfl, handedOver_sameProblem hedits⟩

end LoadedProblem

end LinearPrograms
