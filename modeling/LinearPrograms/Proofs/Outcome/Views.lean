import LinearPrograms.CommandLine.Run
import LinearPrograms.Proofs.Document.Numbers
import LinearPrograms.Proofs.Scalar.Fixed
import LinearPrograms.Proofs.Solve.Attempts
import LinearPrograms.Proofs.Solve.Collecting

/-!
# Views of an outcome

An outcome keeps its duals in one array and does not say how many constraints there are: the
number is what is left of the length of the array (`Outcome.constraintCount`), and each view of the
array begins or ends at a position that is computed from it. `Outcome.Sized n m` says that the array
has room for `n` variables and `m` constraints behind its first entry; then the views are its parts
(`Outcome.Sized.parts`), and the text that a run prints goes through them position by position
(`Report.isReport_of_sized`).
-/

namespace LinearPrograms

namespace Outcome

variable {o : Outcome} {n m : Nat}

/-- There are values for `n` variables, and duals for them and for `m` constraints behind a first
entry. -/
structure Sized (o : Outcome) (n m : Nat) : Prop where
  values : o.values.length = n
  duals : o.duals.length = n + m + 1

/-- A position inside the list that is not negative counts from its beginning. -/
theorem bounded_of_eq {size k : Nat} {i : Int} (hi : i = k) (h : k ≤ size) :
    bounded size i = k := by
  rw [bounded, if_neg (by omega), hi, Int.toNat_natCast, Nat.min_eq_left h]

theorem exists_sized (h : o.values.length + 1 ≤ o.duals.length) :
    ∃ m, o.Sized o.values.length m := by
  obtain ⟨m, hm⟩ := Nat.exists_eq_add_of_le h
  exact ⟨m, rfl, by omega⟩

namespace Sized

theorem constraintCount (h : o.Sized n m) : o.constraintCount = m := by
  rw [Outcome.constraintCount, h.values, h.duals]
  omega

theorem constraintDuals (h : o.Sized n m) : o.constraintDuals = (o.duals.drop 1).take m := by
  have hduals := h.duals
  have hfirst : bounded o.duals.length 1 = 1 := bounded_of_eq rfl (by omega)
  have hlast : bounded o.duals.length (1 + m) = 1 + m := bounded_of_eq (by omega) (by omega)
  rw [Outcome.constraintDuals, h.constraintCount, between, hfirst, hlast, List.drop_take,
    Nat.add_sub_cancel_left]

theorem reducedCosts (h : o.Sized n m) : o.reducedCosts = o.duals.drop (1 + m) := by
  have hduals := h.duals
  have hfirst : bounded o.duals.length (1 + m) = 1 + m := bounded_of_eq (by omega) (by omega)
  rw [Outcome.reducedCosts, h.constraintCount, since, hfirst]

theorem length_constraintDuals (h : o.Sized n m) : o.constraintDuals.length = m := by
  rw [h.constraintDuals, List.length_take, List.length_drop, h.duals]
  omega

theorem length_reducedCosts (h : o.Sized n m) : o.reducedCosts.length = n := by
  rw [h.reducedCosts, List.length_drop, h.duals]
  omega

theorem getElem?_constraintDuals (h : o.Sized n m) {i : Nat} (hi : i < m) :
    o.constraintDuals[i]? = o.duals[1 + i]? := by
  rw [h.constraintDuals, List.getElem?_take_of_lt hi, List.getElem?_drop]

theorem getElem?_reducedCosts (h : o.Sized n m) (j : Nat) :
    o.reducedCosts[j]? = o.duals[1 + m + j]? := by
  rw [h.reducedCosts, List.getElem?_drop]

/-- The first entry, the duals of the constraints and the reduced costs are the whole array. -/
theorem parts (h : o.Sized n m) :
    ∃ first, o.duals[0]? = some first ∧
      o.duals = [first] ++ o.constraintDuals ++ o.reducedCosts := by
  rw [h.constraintDuals, h.reducedCosts]
  cases hduals : o.duals with
  | nil =>
    have hlength := h.duals
    rw [hduals] at hlength
    simp at hlength
  | cons first rest =>
    refine ⟨first, rfl, ?_⟩
    simp [Nat.add_comm 1 m, List.take_append_drop]

end Sized

/-- The views of the outcome are the parts of its array of duals behind the first entry. -/
structure Partitioned (o : Outcome) (n m : Nat) : Prop where
  count : o.constraintCount = m
  constraintDuals : o.constraintDuals.length = m
  reducedCosts : o.reducedCosts.length = n
  duals : ∃ first, o.duals[0]? = some first ∧
    o.duals = [first] ++ o.constraintDuals ++ o.reducedCosts

theorem Sized.partitioned (h : o.Sized n m) : o.Partitioned n m :=
  ⟨h.constraintCount, h.length_constraintDuals, h.length_reducedCosts, h.parts⟩

/-- The document lists the values and all of the duals, entry for entry. -/
structure Listed (o : Outcome) (d : Document) : Prop where
  objective : d.field? "objective_value" = some o.objective
  values : ∃ items, d.field? "variable_values" = some (.list items) ∧
    ∀ j : Nat, items[j]? = o.values[j]?.map Document.float
  duals : ∃ items, d.field? "dual_solution" = some (.list items) ∧
    ∀ i : Nat, items[i]? = o.duals[i]?.map Document.float

theorem listed_toDocument (o : Outcome) : o.Listed o.toDocument where
  objective := rfl
  values := ⟨_, rfl, fun _ => List.getElem?_map⟩
  duals := ⟨_, rfl, fun _ => List.getElem?_map⟩

theorem formatted_of_number {code : String} {d : Document} {x : Scalar} (h : d.number? = some x) :
    formatted code d = d.toScalar := by
  cases d with
  | bool _ | int _ | float _ => rfl
  | null | text _ | list _ | object _ => cases h

end Outcome

namespace Report

open Outcome (Sized)

variable {o : Outcome} {n m : Nat}

/-- The text has these lines, and each of them ends. -/
def HasLines (text : String) (ls : List String) : Prop :=
  text.toList = ls.flatMap fun l => l.toList ++ ['\n']

theorem hasLines_joined (ls : List String) : HasLines (joined ls) ls := by
  have hline : ∀ l : String, (l ++ "\n").toList = l.toList ++ ['\n'] :=
    fun l => String.toList_append
  rw [HasLines, joined, String.toList_join, List.flatMap_map]
  simp only [hline]

/-- The line shows a variable with its value and its reduced cost. -/
def IsVariableLine (j : Nat) (value cost : Scalar) (line : String) : Prop :=
  ∃ shown shownCost, value.Fixes 6 shown ∧ cost.Fixes 6 shownCost ∧
    line = s!"  x{j} = {shown}  (reduced cost {shownCost})"

/-- The line shows a constraint with its dual. -/
def IsDualLine (i : Nat) (dual : Scalar) (line : String) : Prop :=
  ∃ shown, dual.Fixes 6 shown ∧ line = s!"  R{i + 1}: {shown}"

/-- There is a line for each variable, with its value and its reduced cost, and a line for each
constraint, with its dual. -/
structure Tells (o : Outcome) (n m : Nat) (ofVariables ofConstraints : List String) : Prop where
  variableCount : ofVariables.length = n
  variableAt : ∀ j value cost, o.values[j]? = some value → o.duals[1 + m + j]? = some cost →
    ∃ line, ofVariables[j]? = some line ∧ IsVariableLine j value cost line
  constraintCount : ofConstraints.length = m
  constraintAt : ∀ i < m, ∀ dual, o.duals[1 + i]? = some dual →
    ∃ line, ofConstraints[i]? = some line ∧ IsDualLine i dual line
  oneLine : ∀ line ∈ ofVariables ++ ofConstraints, '\n' ∉ line.toList

theorem isVariableLine (j : Nat) (entry : Scalar × Scalar) :
    IsVariableLine j entry.1 entry.2 (variableLine j entry) :=
  ⟨_, _, Scalar.fixes_fixed 6 entry.1, Scalar.fixes_fixed 6 entry.2, rfl⟩

theorem isDualLine (i : Nat) (dual : Scalar) : IsDualLine i dual (dualLine i dual) :=
  ⟨_, Scalar.fixes_fixed 6 dual, rfl⟩

/-- The decimal form of a number is on one line. -/
theorem oneLine_toString (n : Nat) : '\n' ∉ (toString n).toList := by
  rw [Nat.toString_eq_repr, Nat.toList_repr]
  exact fun hmem => absurd (Nat.isDigit_of_mem_toDigits (by decide) (by decide) hmem) (by decide)

theorem IsVariableLine.oneLine {j : Nat} {value cost : Scalar} {line : String}
    (h : IsVariableLine j value cost line) : '\n' ∉ line.toList := by
  obtain ⟨shown, shownCost, hvalue, hcost, rfl⟩ := h
  have hnumber := oneLine_toString j
  simp only [String.toList_append, List.mem_append, not_or]
  exact ⟨⟨⟨⟨⟨⟨by decide, hnumber⟩, by decide⟩, hvalue.oneLine⟩, by decide⟩, hcost.oneLine⟩,
    by decide⟩

theorem IsDualLine.oneLine {i : Nat} {dual : Scalar} {line : String} (h : IsDualLine i dual line) :
    '\n' ∉ line.toList := by
  obtain ⟨shown, hdual, rfl⟩ := h
  have hnumber := oneLine_toString (i + 1)
  simp only [String.toList_append, List.mem_append, not_or]
  exact ⟨⟨⟨by decide, hnumber⟩, by decide⟩, hdual.oneLine⟩

theorem tells_of_sized (h : o.Sized n m) :
    Tells o n m (variableLines o) (o.constraintDuals.mapIdx dualLine) where
  variableCount := by
    rw [variableLines, List.length_mapIdx, List.length_zip, h.values, h.length_reducedCosts,
      Nat.min_self]
  variableAt j value cost hvalue hcost := by
    have hpair : (o.values.zip o.reducedCosts)[j]? = some (value, cost) :=
      List.getElem?_zip_eq_some.2 ⟨hvalue, (h.getElem?_reducedCosts j).trans hcost⟩
    refine ⟨_, ?_, isVariableLine j (value, cost)⟩
    rw [variableLines, List.getElem?_mapIdx, hpair]
    rfl
  constraintCount := by rw [List.length_mapIdx, h.length_constraintDuals]
  constraintAt i hi dual hdual := by
    refine ⟨_, ?_, isDualLine i dual⟩
    rw [List.getElem?_mapIdx, h.getElem?_constraintDuals hi, hdual]
    rfl
  oneLine line hline := by
    rcases List.mem_append.1 hline with hline | hline
    · obtain ⟨j, hj, rfl⟩ := List.mem_mapIdx.1 hline
      exact (isVariableLine j _).oneLine
    · obtain ⟨i, hi, rfl⟩ := List.mem_mapIdx.1 hline
      exact (isDualLine i _).oneLine

/-- The lines of variables and of constraints in the frame of a report; without constraints, their
title is left out as well. -/
def framed (engine : String) (columns m : Nat) (objective : String)
    (ofVariables ofConstraints : List String) : List String :=
  [rule, s!"LP Solver ({engine})", rule, s!"Variables: {columns}, constraints: {m}",
      s!"Objective value: {objective}", "", "Variables:"] ++ ofVariables ++
    (if m = 0 then [] else "" :: "Constraint duals:" :: ofConstraints) ++ [rule]

/-- The text is a report on an outcome, whose objective is `z`. -/
def IsReport (o : Outcome) (n m : Nat) (z : Scalar) (engine : String) (columns : Nat)
    (text : String) : Prop :=
  ∃ objective ofVariables ofConstraints, z.Fixes 6 objective ∧
    Tells o n m ofVariables ofConstraints ∧
    HasLines text (framed engine columns m objective ofVariables ofConstraints)

/-- What is printed of an outcome with a number for its objective is a report. -/
theorem isReport_of_sized (h : o.Sized n m) {x z : Scalar} (hx : o.objective.number? = some x)
    (hz : o.objective.toScalar = .ok z) {a : Arguments} (ha : a.json = false) (s : Settings)
    {p : Problem} (hp : p.constraints.length = m) :
    ∃ text, CommandLine.rendered a s p o = .ok text ∧
      IsReport o n m z s.engine.shown p.objective.length text := by
  have hlines : lines s.engine.shown p.objective.length m o =
      .ok (framed s.engine.shown p.objective.length m (z.fixed 6) (variableLines o)
        (o.constraintDuals.mapIdx dualLine)) := by
    rw [lines, Outcome.formatted_of_number hx, hz]
    rfl
  refine ⟨_, ?_, _, _, _, Scalar.fixes_fixed 6 z, tells_of_sized h, hasLines_joined _⟩
  rw [CommandLine.rendered, ha, hp, hlines]
  rfl

end Report

namespace Outcome

/-- An outcome with more duals than values has room for some number of constraints, and so has every
outcome that a solve returns, for the constraints of the request: the engines that keep a formulation
answer arrays. Its views are then the parts of the array of duals, the document lists the array, and
the text that is printed goes through it position by position, whichever number the objective is; only
an integer that no double represents is not printed. -/
theorem views_partition (o : Outcome) :
    (o.values.length + 1 ≤ o.duals.length → ∃ m, o.Sized o.values.length m) ∧
    (∀ {σ : Type} {r : Request} {choice : EngineChoice σ},
      (∀ engine, choice.resolve = .ok engine → engine.AnswersArrays) →
      (r.solve choice).result = .ok o →
        ∃ n, r.objective.length? = some n ∧ o.Sized n r.constraints.length) ∧
    (∀ {β : Type} (runner : Runner β) (initial : β),
      (Engine.ofRunner runner initial).AnswersArrays) ∧
    ∀ n m, o.Sized n m → o.Partitioned n m ∧ o.Listed o.toDocument ∧
      ∀ x, o.objective.number? = some x → o.objective.IsTooLarge ∨
        ∃ z, o.objective.toScalar = .ok z ∧
          ∀ (a : Arguments) (s : Settings) (p : Problem), a.json = false →
            p.constraints.length = m →
            ∃ text, CommandLine.rendered a s p o = .ok text ∧
              Report.IsReport o n m z s.engine.shown p.objective.length text := by
  refine ⟨exists_sized, fun hchoice hsolve => ?_, Engine.answersArrays_ofRunner,
    fun n m h => ⟨h.partitioned, o.listed_toDocument, fun x hx => ?_⟩⟩
  · obtain ⟨hn, hduals⟩ := Request.lengths_of_solve hchoice hsolve
    exact ⟨_, hn, rfl, hduals⟩
  · rcases Document.toScalar_of_number hx with ⟨z, hz⟩ | hlarge
    · exact .inr ⟨z, hz, fun a s p ha hp => Report.isReport_of_sized h hx hz ha s hp⟩
    · exact .inl hlarge

open Request (retriedRequest rehearsed retriedRuns)

/-- What is returned for two variables under one constraint after a run that failed. -/
def retried : Outcome :=
  ⟨[.finite 4, .zero], [.zero, .finite 3, .zero, .finite (-1)], .float (.finite 12)⟩

/-- The problem that was solved. -/
def retriedProblem : Problem where
  objective := [.finite 3, .finite 2]
  constraints := [⟨[.finite 1, .finite 1], .le, .finite 4⟩]

theorem views_partition_retried :
    (retriedRequest.solve (rehearsed retriedRuns)).result = .ok retried ∧
      retried.Partitioned 2 1 ∧
      ∃ text, CommandLine.rendered { problem := .ofString "p.json" } { engine := .ofString "highs" }
          retriedProblem retried = .ok text ∧
        Report.IsReport retried 2 1 (.finite 12) "highs" 2 text := by
  have hsolve : (retriedRequest.solve (rehearsed retriedRuns)).result = .ok retried := rfl
  have harrays : ∀ engine, (rehearsed retriedRuns).resolve = .ok engine → engine.AnswersArrays := by
    rintro engine ⟨⟩
    exact (views_partition retried).2.2.1 _ _
  obtain ⟨n, hn, hsized⟩ := (views_partition retried).2.1 harrays hsolve
  obtain rfl : 2 = n := Option.some.inj hn
  obtain ⟨hparts, -, hreport⟩ := (views_partition retried).2.2.2 2 1 hsized
  rcases hreport (.finite 12) rfl with ⟨i, hi, -⟩ | ⟨z, hz, hprinted⟩
  · cases hi
  · obtain rfl : Scalar.finite 12 = z := Except.ok.inj hz
    exact ⟨hsolve, hparts, hprinted _ _ retriedProblem rfl rfl⟩

end Outcome

end LinearPrograms
