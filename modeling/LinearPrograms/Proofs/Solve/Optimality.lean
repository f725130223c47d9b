import LinearPrograms.Proofs.Solve.Admission
import LinearPrograms.Proofs.Solve.Formulating

/-!
# What a solve returns is best

On sound backends a solve whose last attempt was optimal returns a feasible point with the greatest
objective and its exact value, and a solve that fails with the status of infeasibility was asked for
something that no point satisfies.

A run of the engine on a formulation that poses the request ends in a problem whose solution is best
if the status is optimal (`ends_attempt`); a second attempt changes the scaling only, so the
formulation still poses the request (`ends_run`); the outcome is read off that solution
(`reads_collect_best`), and the release at the end changes neither the result nor the verdict
(`drive_spec`).
-/

namespace LinearPrograms

namespace LoadedProblem

variable {β : Type} {p : LoadedProblem β}

/-- The solution of the last run is best for the request. -/
def Solves (p : LoadedProblem β) (r : Request) (c : List Scalar) (cs : List Constraint) : Prop :=
  ∃ k xs ds, p.solution =
      some ⟨k, .float (Scalar.dot .exact c xs), .ofScalars xs, .ofScalars ds⟩ ∧
    Scalar.AllFinite xs ∧ r.Best c cs (Scalar.rats xs)

end LoadedProblem

/-- The outcome is a best point, with what it is worth. -/
structure Outcome.Best (o : Outcome) (r : Request) (c : List Scalar) (cs : List Constraint) :
    Prop where
  finite : Scalar.AllFinite o.values
  best : r.Best c cs (Scalar.rats o.values)
  objective : ∃ z, o.objective = .float z ∧ z.isFinite = true ∧
    z.toRat = product (Scalar.rats c) (Scalar.rats o.values)

/-- A fault that reports infeasibility only where no point is feasible. -/
def Fault.Refutes (e : Fault) (r : Request) (c : List Scalar) (cs : List Constraint) : Prop :=
  ∀ text, e = .unsolved Status.infeasible text → ∀ x, ¬r.Feasible c.length cs x

theorem Fault.refutes_of_other {e : Fault} (h : ¬e.IsUnsolved) (r : Request) (c : List Scalar)
    (cs : List Constraint) : e.Refutes r c cs := by
  rintro text rfl
  exact absurd trivial h

namespace Request

variable {β : Type} {runner : Runner β} {initial : β} {r : Request} {c : List Scalar}
  {cs : List Constraint} {s : Session (LoadedProblem β)}

/-! ## The attempts -/

theorem ends_attempt (hr : runner.Sound) (hs : s.Holds fun f => f.Poses r c cs) :
    (attempt (.ofRunner runner initial)).Ends s
      (fun k t => (t.Holds fun f => f.Poses r c cs) ∧
        (k = Status.optimal → t.state.Solves r c cs) ∧
        (k = Status.infeasible → ∀ x, ¬r.Feasible c.length cs x)) Action.Other := by
  obtain ⟨hreleased, hposes⟩ := hs
  rw [attempt, Action.ends_bind, Session.ends_call]
  refine LoadedProblem.ends_solve hreleased
    ((hr _ s.state.backend hposes.wellFormed).imp fun sol b hsol => ?_)
  obtain ⟨k, hk⟩ := hsol
  refine ⟨k, hk.status, ?_⟩
  rw [Action.ends_ofExcept]
  refine ⟨fun i hi => ?_, clean_conversion _⟩
  obtain rfl : k = i := Except.ok.inj (Computation.mapError_eq_ok.1 hi)
  refine ⟨⟨hreleased, hposes⟩, fun h => ?_, fun h x hx => ?_⟩
  · obtain ⟨xs, ds, hsol, hfin, hopt⟩ := hk.optimal h
    refine ⟨.int k, xs, ds, ?_, hfin, hposes.best_of_isOptimal hopt⟩
    rw [hposes.objective] at hsol
    subst h
    exact congrArg some hsol
  · have hnone := hk.infeasible h x
    rw [hposes.allows_iff_feasible.2 hx] at hnone
    cases hnone

theorem ofCode_eq_optimal {k : Int} (h : StatusKind.ofCode k = .optimal) : k = Status.optimal := by
  unfold StatusKind.ofCode at h
  split at h
  · assumption
  · repeat' split at h
    all_goals cases h

theorem ends_run (hr : runner.Sound) (hs : s.Holds fun f => f.Poses r c cs) :
    (run (.ofRunner runner initial)).Ends s
      (fun kind t => (t.Holds fun f => f.Poses r c cs) ∧
        (kind = .optimal → t.state.Solves r c cs)) fun e _ => e.Refutes r c cs := by
  have other : ∀ (e : Fault) (t : Session (LoadedProblem β)), Action.Other e t →
      e.Refutes r c cs := fun e _ he => e.refutes_of_other he r c cs
  have kept : ∀ {k : Int} {t : Session (LoadedProblem β)}, (t.Holds fun f => f.Poses r c cs) →
      (k = Status.optimal → t.state.Solves r c cs) →
      (t.Holds fun f => f.Poses r c cs) ∧ (StatusKind.ofCode k = .optimal → t.state.Solves r c cs) :=
    fun ht hopt => ⟨ht, fun h => hopt (ofCode_eq_optimal h)⟩
  -- the second attempt comes after an edit that leaves what the formulation poses as it is
  refine ends_run_of_attempts (M := fun t => t.Holds fun f => f.Poses r c cs)
    ((ends_attempt hr hs).mono ?_ other) fun t ht => (ends_attempt hr ht).mono ?_ other
  · rintro k t ⟨ht, hopt, -⟩
    exact ⟨fun _ => kept ht hopt,
      fun _ => (Session.ends_edit ht fun f g hf he => hf.scaling he).weaken other⟩
  · rintro k u ⟨hu, hopt, hinf⟩
    refine ⟨fun _ => kept hu hopt, fun _ text h => ?_⟩
    rw [Fault.unsolved.injEq] at h
    exact hinf h.1

/-! ## The outcome -/

theorem reads_collect_best {m : Nat} (hfin : Scalar.AllFinite c) :
    (collect (.ofRunner runner initial) c.length m).Reads s
      fun o => s.state.Solves r c cs → o.Best r c cs := by
  rw [collect]
  refine (Session.reads_ask (LoadedProblem.reads_objective s.state)).bind fun z hz => ?_
  obtain ⟨sz, hsz, hz⟩ := hz
  refine (Session.reads_ask (LoadedProblem.reads_values s.state)).bind fun t ht => ?_
  obtain ⟨st, hst, ht⟩ := ht
  refine (Action.reads_ofExcept (clean_shape _)).bind fun values hvalues => ?_
  refine (Session.reads_ask (LoadedProblem.reads_duals s.state)).bind fun _ _ => ?_
  refine (Action.reads_ofExcept (clean_shape _)).bind fun duals _ => ?_
  refine ⟨rfl, ?_⟩
  rintro ⟨k, xs, ds, hsol, hxfin, hbest⟩
  obtain rfl := Option.some.inj (hsz.symm.trans hsol)
  obtain rfl := Option.some.inj (hst.symm.trans hsol)
  obtain rfl := Except.ok.inj hz
  obtain rfl := Except.ok.inj ((Tensor.ofDocument_ofScalars xs).symm.trans ht)
  have hlen : xs.length = c.length := (Scalar.length_rats xs).symm.trans hbest.1.length
  rw [← hlen, Computation.mapError_eq_ok, Tensor.spread_ofScalars] at hvalues
  obtain rfl := Except.ok.inj hvalues
  have hdot := Scalar.dot_exact hfin hxfin
  exact ⟨hxfin, hbest, _, rfl, hdot.1, hdot.2⟩

theorem ends_session {entries : List Document} (hr : runner.Sound) (initial : β)
    (hobjective : r.objective = .list entries) (hc : Document.toScalars entries = .ok c)
    (hfin : Scalar.AllFinite c) (hlen : ∀ k ∈ cs, k.body.length = c.length)
    (hlow : ∀ j v, counted r.lowerBounds c.length j = some v →
      v.number? ≠ some .nan ∧ v.number? ≠ some .posInf)
    (hhigh : ∀ j v, counted r.upperBounds c.length j = some v →
      v.number? ≠ some .nan ∧ v.number? ≠ some .negInf)
    (hs : s.Holds fun f => f = .ofSize 0 c.length) :
    (session (.ofRunner runner initial) r c.length cs).Ends s
      (fun ko _ => ko.1 = .optimal → ko.2.Best r c cs) fun e _ => e.Refutes r c cs := by
  have other : ∀ (e : Fault) (t : Session (LoadedProblem β)), Action.Other e t →
      e.Refutes r c cs := fun e _ he => e.refutes_of_other he r c cs
  rw [session]
  refine ((ends_formulate hobjective hc hlen hlow hhigh hs).weaken other).bind fun _ s hs => ?_
  refine (ends_run hr hs).bind fun kind s hs => ?_
  rw [Action.ends_bind]
  exact (reads_collect_best hfin).mono (fun _ _ ho hkind => ho.2 (hs.2 hkind))
    fun e t he => other e t he.2

/-! ## From the session to the solve -/

theorem solvedEntry_injective {k k' : StatusKind} {o : Outcome}
    (h : solvedEntry k o = solvedEntry k' o) : k = k' := by
  have hmessage := congrArg LogEntry.message h
  have hname : k.name = k'.name :=
    (String.append_right_inj _).1 ((String.append_left_inj _).1
      ((String.append_left_inj _).1 hmessage))
  revert hname
  cases k <;> cases k' <;> decide

/-- The release at the end keeps the result, and the log tells its kind last. -/
theorem drive_spec (runner : Runner β) (initial : β) (r : Request) (cs : List Constraint)
    (s : Session (LoadedProblem β)) (n : Nat) :
    (∀ o, (drive (.ofRunner runner initial) r n cs s).result = .ok o → ∃ kind,
      (session (.ofRunner runner initial) r n cs s).result = .ok (kind, o) ∧
        (drive (.ofRunner runner initial) r n cs s).log.getLast? = some (solvedEntry kind o)) ∧
    ∀ e, (drive (.ofRunner runner initial) r n cs s).result = .error e →
      (session (.ofRunner runner initial) r n cs s).result = .error e := by
  have hrelease : ∀ t : Session (LoadedProblem β),
      (Session.call (Engine.ofRunner runner initial) .released t).result = .ok () :=
    fun _ => rfl
  have hresult := Action.result_finallyDo
    (x := session (.ofRunner runner initial) r n cs) hrelease s
  unfold drive
  rcases hx : Action.finallyDo (session (.ofRunner runner initial) r n cs)
    (Session.call (Engine.ofRunner runner initial) .released) s with ⟨res, t, log⟩
  rw [hx] at hresult
  cases res with
  | ok ko =>
    rw [Action.bind_eq_of_ok hx]
    refine ⟨fun o ho => ⟨ko.1, ?_, ?_⟩, fun e he => by cases he⟩
    · obtain rfl : ko.2 = o := Except.ok.inj ho
      exact hresult.symm
    · obtain rfl : ko.2 = o := Except.ok.inj ho
      exact List.getLast?_concat
  | error e =>
    rw [Action.bind_eq_of_error hx]
    refine ⟨fun o ho => (by cases ho), fun e' he => ?_⟩
    cases he
    exact hresult.symm

/-- The engines of the catalogue keep a formulation and run it soundly. -/
theorem resolve_catalogue {backends : Backends β} {name : String} (hb : backends.SoundFor name)
    (initial : β) :
    ∃ runner : Runner β, runner.Sound ∧
      (EngineChoice.named (backends.catalogue .exact initial) (.ofString name)).resolve =
        .ok (.ofRunner runner initial) := by
  obtain ⟨rfl, hb⟩ | ⟨rfl, hb⟩ := hb
  · exact ⟨_, SplitModel.sound_runner hb, resolve_highs backends .exact initial⟩
  · exact ⟨_, NamedModel.sound_runner hb, resolve_cbc backends .exact initial⟩

/-- A solve by an engine of the catalogue, in exact arithmetic. -/
def solveBy (backends : Backends β) (initial : β) (name : String) (r : Request) :
    Solved (LoadedProblem β) :=
  r.solve (.named (backends.catalogue .exact initial) (.ofString name))

/-- A solve of a request in shape is the session of an engine on sound backends. -/
theorem solveBy_eq {backends : Backends β} {name : String} {entries : List Document}
    (hb : backends.SoundFor name) (initial : β)
    (hobjective : r.objective = .list entries) (hentries : entries.length = c.length)
    (hne : c ≠ []) (hconstraints : r.constraints = cs.map .constraint)
    (hlen : ∀ k ∈ cs, k.body.length = c.length) :
    ∃ (runner : Runner β) (s : Session (LoadedProblem β)), runner.Sound ∧
      (s.Holds fun f => f = .ofSize 0 c.length) ∧
      (solveBy backends initial name r).result =
        (drive (.ofRunner runner initial) r c.length cs s).result ∧
      (solveBy backends initial name r).log =
        (drive (.ofRunner runner initial) r c.length cs s).log := by
  obtain ⟨runner, hr, hresolve⟩ := resolve_catalogue hb initial
  have hcheck := check_of_length hobjective hentries (mt List.length_eq_zero_iff.1 hne)
    hconstraints hlen
  have hsolve := solve_eq_drive hcheck hresolve (create_ofRunner runner initial c.length)
  refine ⟨runner, ⟨{ formulation := .ofSize 0 c.length, backend := initial },
    [.created 0 c.length]⟩, hr, ⟨rfl, rfl⟩, ?_, ?_⟩
  · rw [solveBy, hsolve]
  · rw [solveBy, hsolve]

/-- A solve whose last attempt was optimal, as the last entry of the log tells, returns a best point
and what it is worth; a solve that reports infeasibility was asked for something that no point
satisfies. -/
theorem solveBy_sound {backends : Backends β} {name : String} {entries : List Document}
    (hb : backends.SoundFor name) (initial : β)
    (hobjective : r.objective = .list entries) (hc : Document.toScalars entries = .ok c)
    (hne : c ≠ []) (hfin : Scalar.AllFinite c)
    (hconstraints : r.constraints = cs.map .constraint)
    (hlen : ∀ k ∈ cs, k.body.length = c.length)
    (hlow : ∀ j v, counted r.lowerBounds c.length j = some v →
      v.number? ≠ some .nan ∧ v.number? ≠ some .posInf)
    (hhigh : ∀ j v, counted r.upperBounds c.length j = some v →
      v.number? ≠ some .nan ∧ v.number? ≠ some .negInf) :
    (∀ o, (solveBy backends initial name r).result = .ok o →
      (solveBy backends initial name r).log.getLast? = some (solvedEntry .optimal o) →
        o.Best r c cs) ∧
      ∀ text, (solveBy backends initial name r).result = .error (.unsolved Status.infeasible text) →
        ∀ x, ¬r.Feasible c.length cs x := by
  have hentries : entries.length = c.length := (Document.forall₂_of_toScalars hc).length_eq
  obtain ⟨runner, s, hr, hs, hresult, hlog⟩ :=
    solveBy_eq hb initial hobjective hentries hne hconstraints hlen
  have hsession := ends_session hr initial hobjective hc hfin hlen hlow hhigh hs
  obtain ⟨hok, herror⟩ := drive_spec (β := β) runner initial r cs s c.length
  rw [hresult, hlog]
  constructor
  · intro o ho hlast
    obtain ⟨kind, hkind, hentry⟩ := hok o ho
    rw [hentry] at hlast
    obtain rfl := solvedEntry_injective (Option.some.inj hlast)
    exact hsession.ok hkind rfl
  · intro text htext
    exact hsession.error (herror _ htext) text rfl

/-! ### A solve of a sample -/

/-- The row `x + y ≤ 4`. -/
def sampleConstraint : Constraint := ⟨[.finite 1, .finite 1], .le, .finite 4⟩

/-- Maximize `2x + y` with an integer `x ≤ 3` subject to one row. -/
def sample : Request where
  objective := .list [.float (.finite 2), .float (.finite 1)]
  constraints := [.constraint sampleConstraint]
  upperBounds := .list [.int 3, .float (.finite Formulation.unboundedFrom)]
  integerVariables := .list [.bool true, .bool false]

/-- The model that this request is handed over as. -/
def sampleModel : NamedModel where
  maximize := true
  columns := [⟨"C1", some .zero, some (.finite 3), true⟩, ⟨"C2", some .zero, none, false⟩]
  objective := [("C1", .finite 2), ("C2", .finite 1)]
  rows := [⟨"R1", [("C1", .finite 1), ("C2", .finite 1)], .le, .finite 4⟩]
  display := false
  options := ["scaling geometric"]

/-- Backends that know the optimum of this model, at `(3, 1)`, and of no other. -/
def sampleBackends : Backends Unit where
  split := fun _ => Action.give { status := .int 4 }
  named := fun m => Action.give
    (if m = sampleModel then
      { status := .optimal, values := [.float (.finite 3), .float (.finite 1)] }
    else { status := .undefined })

theorem isOptimal_sampleModel : sampleModel.program.IsOptimal [3, 1] := by
  have hcost : sampleModel.program.cost = [-2, -1] := by decide +kernel
  have hrows : sampleModel.program.rows = [⟨[1, 1], .le, 4⟩] := by decide +kernel
  have hbounds : sampleModel.program.bounds = [⟨some 0, some 3⟩, ⟨some 0, none⟩] := by
    decide +kernel
  refine ⟨by decide +kernel, fun y hy => ?_⟩
  simp only [Program.allows, Program.columns, hcost, hrows, hbounds, Bool.and_eq_true,
    beq_iff_eq] at hy
  obtain ⟨⟨⟨hlen, hrow⟩, hbound⟩, -⟩ := hy
  obtain ⟨a, b, rfl⟩ := List.length_eq_two.1 hlen
  simp only [Program.costAt, hcost]
  -- twice the first column is at most 3 more than what the row allows
  simp [Row.holds, product] at hrow
  simp [Bounds.holds] at hbound
  simp [product]
  linarith only [hrow, hbound.1.2]

theorem soundFor_sampleBackends : sampleBackends.SoundFor "cbc" := by
  refine .inr ⟨rfl, ?_, ?_, ?_⟩
  · intro m b a ha hs _
    obtain rfl := Except.ok.inj ha
    split at hs
    · rename_i hm
      subst hm
      exact ⟨[.finite 3, .finite 1], by rw [if_pos rfl]; rfl, by decide, isOptimal_sampleModel⟩
    · cases hs
  · intro m b a ha hs
    obtain rfl := Except.ok.inj ha
    split at hs <;> cases hs
  · intro m b e he
    cases he

theorem solveBy_sound_sample :
    ∃ o, (solveBy sampleBackends () "cbc" sample).result = .ok o ∧
      o.values = [.finite 3, .finite 1] ∧
      o.Best sample [.finite 2, .finite 1] [sampleConstraint] := by
  have hsome : (solveBy sampleBackends () "cbc" sample).result.toOption.map Outcome.values =
      some [.finite 3, .finite 1] := by
    decide +kernel
  have hlast : (solveBy sampleBackends () "cbc" sample).log.getLast? =
      (solveBy sampleBackends () "cbc" sample).result.toOption.map (solvedEntry .optimal) := by
    decide +kernel
  have hbounds : ∀ j v, counted sample.upperBounds 2 j = some v →
      v.number? ≠ some .nan ∧ v.number? ≠ some .negInf := by
    intro j v hv
    match j with
    | 0 => obtain rfl := Option.some.inj hv; decide
    | 1 => obtain rfl := Option.some.inj hv; decide
    | _ + 2 => cases hv
  obtain ⟨hok, -⟩ := solveBy_sound (r := sample) (c := [.finite 2, .finite 1])
    soundFor_sampleBackends () rfl rfl (by decide) (by decide) rfl
    (by decide : ∀ k ∈ [sampleConstraint], k.body.length = 2) (fun _ _ hv => by cases hv)
    hbounds
  cases hresult : (solveBy sampleBackends () "cbc" sample).result with
  | error e =>
    rw [hresult] at hsome
    cases hsome
  | ok o =>
    rw [hresult] at hsome hlast
    exact ⟨o, rfl, Option.some.inj hsome, hok o hresult hlast⟩

end Request

end LinearPrograms
