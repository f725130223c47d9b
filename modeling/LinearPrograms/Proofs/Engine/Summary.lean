import LinearPrograms.Engine.Scripted
import LinearPrograms.Proofs.Engine.Histories
import LinearPrograms.Proofs.Solve.Posed

/-!
# A formulation as the summary of its history

The edits of a history that succeed say all there is to say of the formulation that it leads to.
Each edit has one thing that it sets (`Edit.sense?`, `Edit.lower?` and so on, with the columns named
by numbers from one on) or one row that it adds (`Edit.row?`), and `Formulation.summary` puts
together what was set last and all that was added.

An edit that succeeds turns the summary of the edits before it into the summary with it
(`Formulation.summary_of_effect`, with a case for each edit); one that fails, a run and a reading
leave the formulation alone. So any history leads to the summary of its successful edits
(`LoadedProblem.formulation_eq_summary`), as long as the problem is not released and no right-hand
side tears a row (`Operation.Regular`).
-/

namespace LinearPrograms

/-- The numbers of a row behind its first. -/
def Document.behindFirst? (row : Document) : Option (List Scalar) :=
  (Tensor.ofDocument row).toOption.map fun t => t.entries.drop 1

/-! ## What an edit sets -/

namespace Edit

/-- Whether the objective is maximized. -/
@[simp] def sense? : Edit → Option Bool
  | .maximize => some true
  | .minimize => some false
  | _ => none

@[simp] def level? : Edit → Option Document
  | .verbosity level => some level
  | _ => none

@[simp] def mode? : Edit → Option Int
  | .scaling mode => mode.toInt.toOption
  | _ => none

@[simp] def coefficients? : Edit → Option (List Scalar)
  | .objective row => row.behindFirst?
  | _ => none

/-- The lower bound of the column at position `j`: none from minus 10^30 down. -/
@[simp] def lower? (j : Nat) : Edit → Option Scalar
  | .lower column value =>
    if column.isInteger (j + 1) then some (Request.lowerEntry value) else none
  | _ => none

/-- The upper bound of the column at position `j`: none from 10^30 up. -/
@[simp] def upper? (j : Nat) : Edit → Option Scalar
  | .upper column value =>
    if column.isInteger (j + 1) then some (Request.upperEntry value) else none
  | _ => none

/-- Whether the column at position `j` takes integers only. -/
@[simp] def flag? (j : Nat) : Edit → Option Bool
  | .integer column flag => if column.isInteger (j + 1) then some flag.isTrue else none
  | _ => none

/-- The row that the edit adds: its coefficients, its relation and its right-hand side. -/
@[simp] def row? : Edit → Option (List Scalar × Relation × Scalar)
  | .constraint row relation rhs => do
    let coefficients ← row.behindFirst?
    let r ← Relation.all.find? fun r => relation.isInteger r.code
    let b ← rhs.toScalar.toOption
    return (coefficients, r, b)
  | _ => none

/-- The last of the values that edits set, and a default if none sets any. -/
def lastSet {α : Type} (set : Edit → Option α) (default : α) (es : List Edit) : α :=
  (es.filterMap set).getLast?.getD default

@[simp] theorem lastSet_concat {α : Type} (set : Edit → Option α) (default : α) (es : List Edit)
    (e : Edit) : lastSet set default (es ++ [e]) = (set e).getD (lastSet set default es) := by
  unfold lastSet
  rw [List.filterMap_append]
  cases h : set e <;> simp [h]

end Edit

namespace Formulation

open LinearPrograms.Computation

/-- A new formulation after edits: what was set last, and all rows that were added. -/
def summary (rows columns : Nat) (es : List Edit) : Formulation :=
  let zeros := List.replicate columns Scalar.zero
  let stated := List.replicate rows (zeros, Relation.le, Scalar.zero) ++ es.filterMap Edit.row?
  { columns := columns
    maximize := Edit.lastSet Edit.sense? false es
    verbosity := Edit.lastSet Edit.level? (.int 0) es
    scaling := Edit.lastSet Edit.mode? 196 es
    objective := Edit.lastSet Edit.coefficients? zeros es
    lower := (List.range columns).map fun j => Edit.lastSet (Edit.lower? j) .zero es
    upper := (List.range columns).map fun j => Edit.lastSet (Edit.upper? j) .posInf es
    integer := (List.range columns).map fun j => Edit.lastSet (Edit.flag? j) false es
    rows := stated.map Prod.fst
    relations := stated.map fun s => s.2.1
    rhs := stated.map fun s => s.2.2 }

theorem summary_nil (rows columns : Nat) : summary rows columns [] = ofSize rows columns := by
  simp [summary, ofSize, Edit.lastSet, List.map_const', defaultScaling]

/-! ## What an argument that is taken says -/

section
variable {f : Formulation}

/-- A column that is found is named by an integer, or by a truth value that counts as one. -/
theorem integer_of_position {column : Document} {j : Nat} (h : f.position column = .ok j) :
    ∃ k : Int, column.number? = some (.finite k) ∧ 1 ≤ k ∧ k ≤ f.columns ∧ j = (k - 1).toNat := by
  obtain ⟨low, hlow, h⟩ := bind_eq_ok.1 h
  cases low with
  | false => cases h
  | true =>
    obtain ⟨high, hhigh, h⟩ := bind_eq_ok.1 h
    cases high with
    | false => cases h
    | true =>
      rw [mapError_eq_ok] at hlow hhigh
      cases column with
      | int k =>
        rw [atMost_int, Except.ok.injEq, decide_eq_true_eq] at hlow hhigh
        exact ⟨k, rfl, hlow, hhigh, (Except.ok.inj h).symm⟩
      | bool b =>
        cases b with
        | false => cases hlow
        | true =>
          replace hhigh : Document.atMost "<=" (.int 1) (.int f.columns) = .ok true := hhigh
          rw [atMost_int, Except.ok.injEq, decide_eq_true_eq] at hhigh
          exact ⟨1, rfl, le_rfl, hhigh, (Except.ok.inj h).symm⟩
      | float x => cases h
      | null | text _ | list _ | object _ => cases hlow

/-- A column that is found has the position before its number. -/
theorem position_eq_ok {column : Document} {j : Nat} (h : f.position column = .ok j) :
    j < f.columns ∧ ∀ i : Nat, column.isInteger (i + 1) = decide (i = j) := by
  obtain ⟨k, hk, h1, h2, rfl⟩ := integer_of_position h
  refine ⟨by omega, fun i => ?_⟩
  have hint : column.isInteger (i + 1) = (Document.int k).isInteger (i + 1) := by
    rw [Document.isInteger, hk]
    rfl
  rw [hint, Document.isInteger_int]
  exact decide_eq_decide.2 (by omega)

theorem behindFirst?_of_unpadded {row : Document} {c : List Scalar} (h : f.unpadded row = .ok c) :
    row.behindFirst? = some c := by
  obtain ⟨t, ht, h⟩ := bind_eq_ok.1 h
  rw [mapError_eq_ok, Tensor.unpadded] at h
  split at h
  · rw [Document.behindFirst?, ht]
    exact congrArg some (Except.ok.inj h)
  · cases h

theorem verbosityLevel_eq_ok {level v : Document} (h : verbosityLevel level = .ok v) :
    v = level := by
  obtain ⟨low, -, h⟩ := bind_eq_ok.1 h
  cases low with
  | false => cases h
  | true =>
    obtain ⟨high, -, h⟩ := bind_eq_ok.1 h
    cases high with
    | false => cases h
    | true => exact (pure_eq_ok.1 h).symm

theorem find?_of_relationOf {value : Document} {r : Relation} (h : relationOf value = .ok r) :
    (Relation.all.find? fun r => value.isInteger r.code) = some r := by
  unfold relationOf at h
  cases hr : Relation.all.find? fun r => value.isInteger r.code with
  | none => rw [hr] at h; cases h
  | some r' => rw [hr] at h; exact congrArg some (Except.ok.inj h)

end

/-- What is set for a column is the latest for this column, and for no other. -/
theorem map_lastSet_concat {α : Type} {n j : Nat} {set : Nat → Edit → Option α} {default y : α}
    {es : List Edit} {e : Edit} (hset : ∀ i, set i e = if i = j then some y else none) :
    (List.range n).map (fun i => Edit.lastSet (set i) default (es ++ [e])) =
      ((List.range n).map fun i => Edit.lastSet (set i) default es).set j y := by
  rw [Request.map_range_set]
  refine List.map_congr_left fun i _ => ?_
  rw [Edit.lastSet_concat, hset]
  split <;> rfl

/-- An edit that succeeds on a summary leads to the summary with this edit. -/
theorem summary_of_effect {rows columns : Nat} {es : List Edit} {e : Edit} {g : Formulation}
    (h : e.Effect (summary rows columns es) g) : g = summary rows columns (es ++ [e]) := by
  cases e with
  | verbosity level =>
    obtain ⟨v, hv, rfl⟩ := h
    obtain rfl := verbosityLevel_eq_ok hv
    simp [summary]
  | maximize =>
    obtain rfl := h
    simp [summary]
  | minimize =>
    obtain rfl := h
    simp [summary]
  | objective row =>
    obtain ⟨c, hc, rfl⟩ := h
    simp [summary, behindFirst?_of_unpadded hc]
  | lower column value =>
    obtain ⟨b, j, hb, hj, rfl⟩ := h
    obtain ⟨-, rfl⟩ := lowerBound_eq_ok.1 hb
    have hset : ∀ i, (Edit.lower column value).lower? i =
        if i = j then some (Request.lowerEntry value) else none := by
      intro i
      simp [(position_eq_ok hj).2]
    rw [summary, summary, map_lastSet_concat hset]
    simp
  | upper column value =>
    obtain ⟨b, j, hb, hj, rfl⟩ := h
    obtain ⟨-, rfl⟩ := upperBound_eq_ok.1 hb
    have hset : ∀ i, (Edit.upper column value).upper? i =
        if i = j then some (Request.upperEntry value) else none := by
      intro i
      simp [(position_eq_ok hj).2]
    rw [summary, summary, map_lastSet_concat hset]
    simp
  | integer column flag =>
    obtain ⟨j, hj, rfl⟩ := h
    have hset : ∀ i, (Edit.integer column flag).flag? i =
        if i = j then some flag.isTrue else none := by
      intro i
      simp [(position_eq_ok hj).2]
    rw [summary, summary, map_lastSet_concat hset]
    simp
  | scaling mode =>
    obtain ⟨m, hm, rfl⟩ := h
    simp [summary, hm, Except.toOption]
  | constraint row relation rhs =>
    obtain ⟨c, r, b, hc, hr, hb, rfl⟩ := h
    have hrow : (Edit.constraint row relation rhs).row? = some (c, r, b) := by
      simp [behindFirst?_of_unpadded hc, find?_of_relationOf hr, hb, Except.toOption]
    have hrows : [Edit.constraint row relation rhs].filterMap Edit.row? = [(c, r, b)] := by
      rw [List.filterMap_cons_some hrow, List.filterMap_nil]
    simp [summary, hrows]

end Formulation

/-! ## Histories -/

namespace Engine

variable {σ : Type}

/-- The edit of an operation that succeeds. -/
def taken (engine : Engine σ) (s : σ) : Operation → Option Edit
  | .edit e =>
    match (engine.edit e s).result with
    | .ok _ => some e
    | .error _ => none
  | _ => none

/-- The edits of a history that succeed. -/
def editsTaken (engine : Engine σ) (s : σ) (ops : List Operation) : List Edit :=
  engine.observed engine.taken s ops

end Engine

/-- No operation releases the problem, and every right-hand side that is handed over is a number. -/
structure Operation.Regular (ops : List Operation) : Prop where
  alive : .release ∉ ops
  rhs : ∀ row relation rhs, .edit (.constraint row relation rhs) ∈ ops → ∃ b, rhs.toScalar = .ok b

theorem Operation.Regular.of_concat {ops : List Operation} {op : Operation}
    (h : Regular (ops ++ [op])) : Regular ops where
  alive hmem := h.alive (List.mem_append_left _ hmem)
  rhs row relation rhs hmem := h.rhs row relation rhs (List.mem_append_left _ hmem)

namespace LoadedProblem

variable {β : Type} {p : LoadedProblem β} {runner : Runner β} {initial : β} {rows columns : Nat}
  {es : List Edit}

/-- The problem is not released and its formulation, of a well-formed kind, sums up the edits. -/
structure SumsUp (p : LoadedProblem β) (rows columns : Nat) (es : List Edit) : Prop where
  alive : p.released = false
  wellFormed : p.formulation.WellFormed
  formulation : p.formulation = .summary rows columns es

theorem create_ok (initial : β) (rows columns : Nat) : create initial rows columns =
    .ok { formulation := .ofSize rows columns, backend := initial } := by
  simp [create]

theorem sumsUp_create {new : LoadedProblem β} (h : create initial rows columns = .ok new) :
    new.SumsUp rows columns [] := by
  rw [create_ok] at h
  obtain rfl := Except.ok.inj h
  exact ⟨rfl, Formulation.wellFormed_ofSize rows columns,
    (Formulation.summary_nil rows columns).symm⟩

/-- An operation adds to the summary the edit that it makes, if it is one that succeeds. -/
theorem SumsUp.perform (h : p.SumsUp rows columns es) {op : Operation} (hop : op ≠ .release)
    (hrhs : ∀ row relation rhs, op = .edit (.constraint row relation rhs) →
      ∃ b, rhs.toScalar = .ok b) :
    ((Engine.ofRunner runner initial).perform p op).SumsUp rows columns
      (es ++ ((Engine.ofRunner runner initial).taken p op).toList) := by
  cases op with
  | release => exact absurd rfl hop
  | solve =>
    obtain ⟨hformulation, hreleased⟩ := solve_keeps runner p
    simp only [Engine.taken, Option.toList_none, List.append_nil]
    exact ⟨hreleased.trans h.alive, hformulation ▸ h.wellFormed, hformulation.trans h.formulation⟩
  | scaling | statusText _ | objective | values | duals =>
    simp only [Engine.taken, Option.toList_none, List.append_nil]
    rwa [perform_of_asks runner initial p rfl]
  | edit e =>
    rcases he : p.formulation.edit e with ⟨answer, g⟩
    have hedit : (Engine.ofRunner runner initial).edit e p =
        ⟨answer, { p with formulation := g }, []⟩ :=
      (edit_of_alive h.alive e).trans (by rw [he])
    simp only [Engine.perform, Engine.taken, hedit]
    cases answer with
    | ok u =>
      have heffect : e.Effect p.formulation g := Formulation.effect_of_edit he
      refine ⟨h.alive, h.wellFormed.effect heffect, ?_⟩
      rw [h.formulation] at heffect
      exact Formulation.summary_of_effect heffect
    | error fault =>
      -- an edit that fails leaves something only if it tears a row
      obtain ⟨hg, -⟩ | ⟨r, c, htears, -⟩ := Formulation.edit_of_error (congrArg Prod.fst he)
      · obtain rfl : g = p.formulation := by rw [← hg, he]
        simp only [Option.toList_none, List.append_nil]
        exact h
      · cases e with
        | constraint row relation rhs =>
          obtain ⟨b, hb⟩ := hrhs row relation rhs rfl
          exact absurd hb (htears.2.2 b)
        | _ => exact htears.elim

/-- A history leads to the summary of the edits that succeed in it. -/
theorem sumsUp_performAll (initial : β) (rows columns : Nat) {ops : List Operation}
    (h : Operation.Regular ops) {new : LoadedProblem β} (hnew : new.SumsUp rows columns []) :
    ((Engine.ofRunner runner initial).performAll new ops).SumsUp rows columns
      ((Engine.ofRunner runner initial).editsTaken new ops) := by
  induction ops using List.reverseRecOn with
  | nil => exact hnew
  | append_singleton ops op ih =>
    rw [Engine.performAll_concat, Engine.editsTaken, Engine.observed_concat]
    refine (ih h.of_concat).perform (fun hop => h.alive ?_)
      fun row relation rhs hop => h.rhs row relation rhs ?_
    · rw [hop]
      exact List.mem_concat_self
    · rw [hop]
      exact List.mem_concat_self

/-- Without runs and a release, a history changes nothing but the formulation. -/
theorem performAll_of_formulating (runner : Runner β) (initial : β) (new : LoadedProblem β)
    {ops : List Operation} (hrelease : .release ∉ ops) (hsolve : .solve ∉ ops) :
    ∃ f, (Engine.ofRunner runner initial).performAll new ops = { new with formulation := f } := by
  induction ops using List.reverseRecOn with
  | nil => exact ⟨_, rfl⟩
  | append_singleton ops op ih =>
    rw [List.mem_append, List.mem_singleton, not_or] at hrelease hsolve
    obtain ⟨f, hf⟩ := ih hrelease.1 hsolve.1
    rw [Engine.performAll_concat, hf]
    cases op with
    | release => exact absurd rfl hrelease.2
    | solve => exact absurd rfl hsolve.2
    | scaling | statusText _ | objective | values | duals =>
      exact ⟨f, perform_of_asks runner initial _ rfl⟩
    | edit e =>
      obtain ⟨g, hg⟩ := edit_formulates e { new with formulation := f }
      exact ⟨g, hg⟩

/-- Before its release, an engine's formulation is the summary of the edits that succeeded, whatever
other edits, runs and questions came between: each setting is the last one made, and the rows are
the empty ones it was created with and those added since, in order. So all its lists have the
lengths that rows and columns ask for, two histories with the same successful edits lead to the same
formulation, and without runs nothing else has changed. -/
theorem formulation_eq_summary (runner : Runner β) (initial : β) (rows columns : Nat)
    {ops : List Operation} (hops : Operation.Regular ops) :
    ∃ new, (Engine.ofRunner runner initial).create rows columns = .ok new ∧
      let engine := Engine.ofRunner runner initial
      let now := engine.performAll new ops
      now.released = false ∧
      now.formulation = .summary rows columns (engine.editsTaken new ops) ∧
      now.formulation.WellFormed ∧ (∀ r ∈ now.formulation.relations, r.code ∈ [1, 2, 3]) ∧
      (∀ ops', Operation.Regular ops' → engine.editsTaken new ops' = engine.editsTaken new ops →
        (engine.performAll new ops').formulation = now.formulation) ∧
      (.solve ∉ ops → now = { new with formulation := now.formulation }) := by
  refine ⟨_, create_ok initial rows columns, ?_⟩
  intro engine now
  have hnew := sumsUp_create (create_ok initial rows columns)
  have hnow : now.SumsUp rows columns _ := sumsUp_performAll initial rows columns hops hnew
  refine ⟨hnow.alive, hnow.formulation, hnow.wellFormed, fun r _ => ?_, fun ops' hops' h => ?_,
    fun hsolve => ?_⟩
  · cases r <;> decide
  · rw [(sumsUp_performAll initial rows columns hops' hnew).formulation, hnow.formulation]
    exact congrArg (Formulation.summary rows columns) h
  · obtain ⟨f, hf⟩ := performAll_of_formulating runner initial _ hops.alive hsolve
    show now = _
    rw [show now = _ from hf]

/-- Edits of which three fail, with a run and a question between them. -/
def mixedHistory : List Operation :=
  let row := Document.ofScalars [.zero, .one, .finite 2]
  [.edit .maximize, .edit (.lower (.int 2) (.float .negInf)),
   .edit (.upper (.bool true) (.float (.finite 7))), .edit (.upper (.int 3) (.float .one)), .solve,
   .edit (.lower (.int 2) (.float .one)), .values, .edit (.constraint row (.int 4) (.float .one)),
   .edit (.constraint row (.int 2) (.float .one)), .edit .minimize,
   .edit (.verbosity (.int 9))]

theorem formulation_eq_summary_mixed :
    Operation.Regular mixedHistory ∧
      ∃ new f, (Engine.ofRunner Runner.none ()).create 1 2 = .ok new ∧
        ((Engine.ofRunner Runner.none ()).performAll new mixedHistory).formulation = f ∧
        f = .summary 1 2 [.maximize, .lower (.int 2) (.float .negInf),
          .upper (.bool true) (.float (.finite 7)), .lower (.int 2) (.float .one),
          .constraint (.ofScalars [.zero, .one, .finite 2]) (.int 2) (.float .one), .minimize] ∧
        f.maximize = false ∧ f.lower = [.zero, .one] ∧ f.upper = [.finite 7, .posInf] ∧
        f.rows = [[.zero, .zero], [.one, .finite 2]] ∧ f.relations = [.le, .ge] := by
  have hops : Operation.Regular mixedHistory := by
    refine ⟨by simp [mixedHistory], fun row relation rhs h => ?_⟩
    simp [mixedHistory] at h
    rcases h with ⟨-, -, rfl⟩ | ⟨-, -, rfl⟩
    · exact ⟨.one, rfl⟩
    · exact ⟨.one, rfl⟩
  obtain ⟨new, hnew, -, hsummary, -⟩ := formulation_eq_summary Runner.none () 1 2 hops
  obtain rfl := Except.ok.inj hnew
  exact ⟨hops, _, _, hnew, hsummary, rfl, rfl, rfl, rfl, rfl, rfl⟩

end LoadedProblem

end LinearPrograms
