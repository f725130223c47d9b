import LinearPrograms.Proofs.CommandLine.Endings
import LinearPrograms.Proofs.CommandLine.Options
import LinearPrograms.Proofs.Problem.Format
import LinearPrograms.Proofs.Solve.Handover
import LinearPrograms.Proofs.Solve.Shown

/-!
# Which engine solves, and with which scaling mode

The engine of a run and the scaling mode of its first attempt may be given at several levels: by an
option among the arguments, by a variable of the environment, and the scaling mode also by the
problem file. The first level that gives a value decides, whatever the value is, and a standard value
if none does (`Prevails`). The program never compares the levels: each of its layers overwrites what
the layers below left, where it has something to say. That this comes to the same is
`combined_engine` for the engine, and `withScaling_combined` with `Problem.inForce_toRequest` for the
scaling mode; what an option gives is known from the arguments alone (`Arguments.engine_iff`,
`Arguments.scaling_iff`).

What a run asks for is seen from its engines: each notes the formulations that it is given under its
own name (`Runner.signing`), and the notes that are left are the attempts of the run. They are made
by the engine that the levels name, and the first one has the scaling mode that the levels name
(`run_attempts`). The notes change nothing (`run_unsigned`), so this is told of the engines of the
catalogue (`run_precedence`).
-/

namespace LinearPrograms

/-! ## Levels -/

/-- The value that the first level to give one gives; the standard value if no level does. -/
inductive Prevails {α : Type} (standard : α) : List (α → Prop) → α → Prop
  | standard : Prevails standard [] standard
  | given {level : α → Prop} {rest : List (α → Prop)} {v : α} : level v →
      Prevails standard (level :: rest) v
  | passed {level : α → Prop} {rest : List (α → Prop)} {v : α} : (∀ w, ¬level w) →
      Prevails standard rest v → Prevails standard (level :: rest) v

namespace Prevails

variable {α : Type} {standard v w : α} {level : α → Prop} {rest levels : List (α → Prop)}

/-- A level that gives one value at most is passed over exactly if it gives none. -/
theorem of_option {found : Option α} (h : ∀ v, level v ↔ found = some v)
    (hrest : Prevails standard rest w) : Prevails standard (level :: rest) (found.getD w) := by
  cases found with
  | none => exact passed (fun v hv => by cases (h v).1 hv) hrest
  | some v => exact given ((h v).2 rfl)

/-- No two values prevail over levels that give one value at most. -/
theorem unique (h : Prevails standard levels v)
    (hlevels : ∀ level ∈ levels, ∀ v w, level v → level w → v = w)
    (h' : Prevails standard levels w) : v = w := by
  induction h with
  | standard =>
    cases h'
    rfl
  | given hv =>
    cases h' with
    | given hw => exact hlevels _ (.head _) _ _ hv hw
    | passed hnone _ => exact absurd hv (hnone _)
  | passed hnone _ ih =>
    cases h' with
    | given hw => exact absurd hw (hnone _)
    | passed _ hrest => exact ih (fun level hlevel => hlevels level (.tail _ hlevel)) hrest

end Prevails

/-! ## The environment -/

namespace Settings

variable {environment : List (Text × Text)} {name : String} {given : Settings}

/-- The environment sets a variable to a value that is not empty. -/
def Sets (environment : List (Text × Text)) (name : String) (value : Text) : Prop :=
  environment.lookup (Text.ofString name) = some value ∧ value ≠ ⟨[]⟩

theorem map_find? (key : Text) :
    ∀ environment : List (Text × Text),
      (environment.find? fun entry => entry.1 = key).map Prod.snd = environment.lookup key
  | [] => rfl
  | (k, value) :: rest => by
    have ih := map_find? key rest
    by_cases h : k = key
    · subst h
      simp
    · have hne : (key == k) = false := by simpa using Ne.symm h
      simpa [List.lookup_cons, hne, h] using ih

theorem sets_iff {value : Text} : Sets environment name value ↔
    setting? environment name = some value := by
  have hempty : value ≠ ⟨[]⟩ ↔ (!value.isEmpty) = true := by
    cases value
    simp [Text.isEmpty]
  rw [setting?, map_find?, Option.filter_eq_some_iff, Sets, hempty]

/-- The engine of the environment: what its variable is set to, without blanks and in lower case. -/
theorem ofEnvironment_engine (h : ofEnvironment environment = .ok given) :
    given.engine = .text (((setting? environment engineVariable).map fun value =>
      value.strip.lower).getD (Text.ofString "highs")) := by
  obtain ⟨mode, -, hgiven⟩ := Computation.bind_eq_ok.1 h
  obtain rfl := Except.ok.inj hgiven
  cases setting? environment engineVariable <;> rfl

/-- The scaling mode of the environment: the integer that its variable is set to. -/
theorem ofEnvironment_scaling (h : ofEnvironment environment = .ok given) :
    ∃ found : Option Int, given.scalingMode = Problem.scalingDocument found ∧
      ∀ mode, (∃ value, Sets environment scalingVariable value ∧
        Numeral.integer value = .ok mode) ↔ found = some mode := by
  obtain ⟨mode, hmode, hgiven⟩ := Computation.bind_eq_ok.1 h
  obtain rfl := Except.ok.inj hgiven
  simp only [sets_iff]
  unfold scalingOf at hmode
  cases hvalue : setting? environment scalingVariable with
  | none =>
    rw [hvalue] at hmode
    obtain rfl := Except.ok.inj hmode
    exact ⟨none, rfl, by simp⟩
  | some value =>
    rw [hvalue] at hmode
    cases hi : Numeral.integer value with
    | error flaw => simp [hi] at hmode
    | ok i =>
      simp only [hi, Except.ok.injEq] at hmode
      exact ⟨some i, hmode.symm, by simp [hi]⟩

end Settings

/-! ## Problems as requests -/

namespace Request

variable {n : Nat} {P : Document → Prop}

/-- A list supplies its items. -/
theorem supplies_list {items : List Document} (h : ∀ v ∈ items, P v) :
    Supplies (.list items) n P := by
  intro _
  refine ⟨items.length, rfl, ?_⟩
  rintro rfl i hi
  exact ⟨items[i], part_list_eq_ok.2 (List.getElem?_eq_getElem hi), h _ (List.getElem_mem hi)⟩

end Request

namespace Problem

variable {p : Problem} {n : Nat}

/-- Has every constraint a coefficient for each variable? -/
def Fits (p : Problem) : Prop := ∀ c ∈ p.constraints, c.body.length = p.objective.length

theorem supplies_scalarsDocument {P : Document → Prop} (h : ∀ x, P (.float x))
    (bounds : Option (List Scalar)) : Request.Supplies (scalarsDocument bounds) n P := by
  cases bounds with
  | none => exact fun hpresent => by cases hpresent
  | some xs =>
    refine Request.supplies_list fun v hv => ?_
    obtain ⟨x, -, rfl⟩ := List.mem_map.1 hv
    exact h x

/-- A problem whose constraints fit is a valid request: all its numbers are read. -/
theorem valid_toRequest (hne : p.objective ≠ []) (hfits : p.Fits) :
    p.toRequest.Valid p.objective p.constraints where
  objective := ⟨_, rfl, Document.toScalars_float p.objective⟩
  nonempty := hne
  constraints := rfl
  length := hfits
  scaling := by
    intro hpresent
    cases hmode : p.scalingMode with
    | none => simp [toRequest, hmode, scalingDocument, Document.isPresent] at hpresent
    | some mode => exact ⟨mode, by simp [toRequest, hmode, scalingDocument, Document.toInt]⟩
  lower := supplies_scalarsDocument (fun x => ⟨x, rfl, .inr ⟨x, rfl⟩⟩) _
  upper := supplies_scalarsDocument (fun x => ⟨x, rfl, .inr ⟨x, rfl⟩⟩) _
  integer := by
    show Request.Supplies (flagsDocument p.integerVariables) _ _
    cases p.integerVariables with
    | none => exact fun hpresent => by cases hpresent
    | some flags => exact Request.supplies_list fun _ _ => trivial

/-- A problem that is admitted has constraints that fit. -/
theorem fits_of_check {cs : List Constraint} (h : p.toRequest.check = .ok (n, cs)) : p.Fits := by
  intro c hc
  rw [Request.check_list rfl, List.length_map] at h
  split at h
  · cases h
  · cases hentries : p.toRequest.constraints.zipIdx.mapM
        (Request.checkEntry p.objective.length) with
    | error e =>
      rw [hentries] at h
      cases h
    | ok ds => exact Request.fits_of_checkEntries hentries _ (List.mem_map_of_mem hc)

theorem inForce_toRequest (p : Problem) : p.toRequest.InForce (p.scalingMode.getD 196) := by
  show Request.InForce { p.toRequest with scalingMode := scalingDocument p.scalingMode } _
  cases p.scalingMode with
  | none => exact .inl ⟨rfl, rfl⟩
  | some mode => exact .inr ⟨rfl, rfl⟩

end Problem

/-! ## Attempts -/

section
variable {β : Type}

/-- A runner that notes the formulations that it is given, each under a name. -/
def Runner.signing (runner : Runner β) (name : String) :
    Runner (β × List (String × Formulation)) where
  name := runner.name
  run := fun f => Action.noting (name, f) (runner.run f)

theorem Runner.notes_signing (runner : Runner β) (name : String) :
    (runner.signing name).Notes fun f => (name, f) :=
  fun f b notes _ =>
    ⟨_, congrArg Reply.state (Action.noting_eq (name, f) (runner.run f) b notes)⟩

/-- The runners of the catalogue. -/
def Backends.runners (backends : Backends β) (round : Rounding) : List (String × Runner β) :=
  [("cbc", NamedModel.runner round backends.named),
   ("highs", SplitModel.runner round backends.split)]

namespace CommandLine

/-- An engine for each runner. -/
def plain (runners : List (String × Runner β)) (initial : β) :
    List (String × Engine (LoadedProblem β)) :=
  runners.map fun entry => (entry.1, .ofRunner entry.2 initial)

/-- The catalogue has an engine for each of its runners. -/
theorem catalogue_eq_plain (backends : Backends β) (round : Rounding) (initial : β) :
    backends.catalogue round initial = plain (backends.runners round) initial := rfl

/-- An engine for each runner, which notes what it is given under the runner's name. -/
def signed (runners : List (String × Runner β)) (initial : β) :
    List (String × Engine (LoadedProblem (β × List (String × Formulation)))) :=
  runners.map fun entry => (entry.1, .ofRunner (entry.2.signing entry.1) (initial, []))

/-- A problem without the notes of its backend. -/
def unsigned (q : LoadedProblem (β × List (String × Formulation))) : LoadedProblem β :=
  q.seen Prod.fst

theorem shows_signing (runner : Runner β) (name : String) (initial : β) :
    (Engine.ofRunner (runner.signing name) (initial, [])).Shows unsigned
      (.ofRunner runner initial) := by
  have hname : runner.name = (runner.signing name).name := rfl
  have hrun : ∀ f, Action.Shows Prod.fst ((runner.signing name).run f) (runner.run f) :=
    fun _ _ => rfl
  exact Engine.shows_ofRunner hname hrun (initial, [])

theorem shows_signed (runners : List (String × Runner β)) (initial : β) :
    ShowsTable unsigned (signed runners initial) (plain runners initial) := by
  unfold ShowsTable signed plain
  induction runners with
  | nil => exact .nil
  | cons entry runners ih => exact .cons ⟨rfl, shows_signing entry.2 entry.1 initial⟩ ih

/-- The notes change nothing else of a run. -/
theorem run_unsigned (runners : List (String × Runner β)) (initial : β)
    (environment : List (Text × Text)) (look : Look) (texts : List Text) :
    run (plain runners initial) environment look texts =
      (run (signed runners initial) environment look texts).seen unsigned :=
  run_shown (shows_signed runners initial) environment look texts

/-- What an engine noted; nothing if there was none. -/
def noted {ν : Type} (final : Option (LoadedProblem (β × List ν))) : List ν :=
  final.elim [] fun q => q.backend.2

theorem noted_of_ran {ν : Type} {o : Solved (LoadedProblem (β × List ν))} {runs : Nat} {b : β}
    {notes : List ν} (h : o.Ran runs (b, notes)) : noted o.final = notes := by
  obtain ⟨-, hbackend⟩ := h
  cases hfinal : o.final with
  | none =>
    rw [hfinal] at hbackend
    cases hbackend
  | some q =>
    rw [hfinal] at hbackend
    have hq : q.backend = (b, notes) := Option.some.inj hbackend
    rw [noted, Option.elim_some, hq]

variable {runners : List (String × Runner β)} {initial : β} {name : Text}

theorem resolve_signed {entry : String × Runner β}
    (h : runners.find? (fun entry => Text.ofString entry.1 = name) = some entry) :
    (EngineChoice.named (signed runners initial) (.text name)).resolve =
      .ok (.ofRunner (entry.2.signing entry.1) (initial, [])) := by
  have hfind : (signed runners initial).find? (fun e => Text.ofString e.1 = name) =
      some (entry.1, .ofRunner (entry.2.signing entry.1) (initial, [])) := by
    rw [signed, List.find?_map]
    exact congrArg (Option.map _) h
  simp only [EngineChoice.resolve, Document.asKey, hfind]

theorem resolve_signed_of_unknown (h : ∀ entry ∈ runners, Text.ofString entry.1 ≠ name) :
    (EngineChoice.named (signed runners initial) (.text name)).resolve =
      .error (.unknownEngine (.text name)) := by
  refine Request.resolve_of_unknown fun e he => ?_
  obtain ⟨entry, hentry, rfl⟩ := List.mem_map.1 he
  exact h entry hentry

/-- The attempts at a problem whose constraints fit are those of the runner that is named. -/
theorem noted_solve (initial : β) {entry : String × Runner β} {p : Problem} (hne : p.objective ≠ [])
    (hfits : p.Fits)
    (h : runners.find? (fun entry => Text.ofString entry.1 = name) = some entry) :
    noted (p.toRequest.solve (.named (signed runners initial) (.text name))).final ≠ [] ∧
      noted (p.toRequest.solve (.named (signed runners initial) (.text name))).final <+:
        [(entry.1, p.toRequest.posed p.objective p.constraints),
          (entry.1, (p.toRequest.posed p.objective p.constraints).unscaled)] := by
  have hr := Problem.valid_toRequest hne hfits
  obtain ⟨b, notes, hran, hvalid, hnotes⟩ :=
    Request.solve_notes (entry.2.notes_signing entry.1) hr.shaped (resolve_signed h)
  rw [noted_of_ran hran]
  exact ⟨hvalid hr, hnotes⟩

/-- Without an engine there are no attempts. -/
theorem noted_solve_of_error {p : Problem} {σ : Type}
    {choice : EngineChoice (LoadedProblem (β × List σ))} {fault : Fault}
    (h : p.toRequest.check = .error fault ∨ choice.resolve = .error fault) :
    noted (p.toRequest.solve choice).final = [] := by
  unfold Request.solve
  rcases h with h | h
  · rw [h]
    rfl
  · rw [h]
    split <;> rfl

theorem final_solveAndReport {σ : Type} (table : List (String × Engine σ)) (a : Arguments)
    (st : Settings) (path : Path) (p : Problem) :
    (solveAndReport table a st path p).final =
      (p.toRequest.solve (.named table st.engine)).final := by
  unfold solveAndReport
  dsimp only
  split
  · split <;> rfl
  · split <;> rfl

/-- What there is to say about the attempts at a problem: they are made by the engine of a name, the
first one with a scaling mode, and there is one unless the problem or the name is refused. -/
structure Takes (runners : List (String × Runner β)) (p : Problem) (name : Text) (mode : Int)
    (attempts : List (String × Formulation)) : Prop where
  engine : ∀ attempt ∈ attempts, Text.ofString attempt.1 = name
  problem : ∀ attempt ∈ attempts, p.toRequest.Restated p.objective p.constraints attempt.2
  scaling : ∀ first, attempts[0]? = some first → first.2.scaling = mode
  attempted : p.Fits → (∃ entry ∈ runners, Text.ofString entry.1 = name) → attempts ≠ []

/-- The first attempt at a problem whose constraints fit, if an engine has the name. -/
theorem Takes.exists_first {p : Problem} {mode : Int} {attempts : List (String × Formulation)}
    (h : Takes runners p name mode attempts) (hfits : p.Fits)
    (hname : ∃ entry ∈ runners, Text.ofString entry.1 = name) :
    ∃ first, attempts[0]? = some first ∧ Text.ofString first.1 = name ∧
      first.2.scaling = mode := by
  cases attempts with
  | nil => exact absurd rfl (h.attempted hfits hname)
  | cons first rest => exact ⟨first, rfl, h.engine first (.head _), h.scaling first rfl⟩

theorem takes_nil {p : Problem} {mode : Int}
    (h : p.Fits → ¬∃ entry ∈ runners, Text.ofString entry.1 = name) :
    Takes runners p name mode [] where
  engine := fun _ hmem => absurd hmem List.not_mem_nil
  problem := fun _ hmem => absurd hmem List.not_mem_nil
  scaling := fun _ hfirst => by cases hfirst
  attempted := fun hfits hknown => absurd hknown (h hfits)

theorem takes_of_prefix {p : Problem} {key : String} {f : Formulation}
    {attempts : List (String × Formulation)} (hname : Text.ofString key = name)
    (hf : p.toRequest.Restated p.objective p.constraints f) (hnonempty : attempts ≠ [])
    (hattempts : attempts <+: [(key, f), (key, f.unscaled)]) :
    Takes runners p name f.scaling attempts where
  engine := by
    intro attempt hmem
    rcases List.mem_pair.1 (hattempts.subset hmem) with rfl | rfl
    · exact hname
    · exact hname
  problem := by
    intro attempt hmem
    rcases List.mem_pair.1 (hattempts.subset hmem) with rfl | rfl
    · exact hf
    · exact { hf with }
  scaling := by
    intro first hfirst
    cases attempts with
    | nil => cases hfirst
    | cons attempt rest =>
      obtain ⟨rfl, -⟩ := List.cons_prefix_cons.1 hattempts
      obtain rfl := Option.some.inj hfirst
      rfl
  attempted := fun _ _ => hnonempty

/-- The scaling mode of a problem is in force for its first attempt, and 196 if it has none. -/
theorem takes_solve (runners : List (String × Runner β)) (initial : β) (name : Text) {p : Problem}
    (hne : p.objective ≠ []) :
    Takes runners p name (p.scalingMode.getD 196)
      (noted (p.toRequest.solve (.named (signed runners initial) (.text name))).final) := by
  cases hcheck : p.toRequest.check with
  | error fault =>
    rw [noted_solve_of_error (.inl hcheck)]
    refine takes_nil fun hfits => ?_
    rw [(Problem.valid_toRequest hne hfits).shaped.check] at hcheck
    cases hcheck
  | ok admitted =>
    have hfits : p.Fits := Problem.fits_of_check hcheck
    cases hentry : runners.find? (fun entry => Text.ofString entry.1 = name) with
    | none =>
      have hunknown : ∀ entry ∈ runners, Text.ofString entry.1 ≠ name := by
        simpa using hentry
      rw [noted_solve_of_error (.inr (resolve_signed_of_unknown hunknown))]
      refine takes_nil fun _ hknown => ?_
      obtain ⟨entry, hmem, hname⟩ := hknown
      exact hunknown entry hmem hname
    | some entry =>
      have hname : Text.ofString entry.1 = name := by simpa using List.find?_some hentry
      have hmode : (p.toRequest.posed p.objective p.constraints).scaling =
          p.scalingMode.getD 196 := Request.scalingOf_of_inForce p.inForce_toRequest
      obtain ⟨hnonempty, hattempts⟩ := noted_solve initial hne hfits hentry
      rw [← hmode]
      exact takes_of_prefix hname Request.restated_posed hnonempty hattempts

/-! ## From the levels to the attempts -/

section
variable {texts : List Text} {environment : List (Text × Text)} {a : Arguments} {given : Settings}
  {data : Document} {p : Problem}

/-- Where the name of the engine may come from: the option, or the environment, where blanks around
it and upper case do not count. -/
def engineLevels (texts : List Text) (environment : List (Text × Text)) : List (Text → Prop) :=
  [fun name => Arguments.Gives "--engine" texts name,
   fun name => ∃ value, Settings.Sets environment Settings.engineVariable value ∧
     name = value.strip.lower]

/-- Where the scaling mode may come from: the option, the environment, or the problem file. -/
def scalingLevels (texts : List Text) (environment : List (Text × Text)) (data : Document) :
    List (Int → Prop) :=
  [fun mode => ∃ value, Arguments.Gives "--scaling" texts value ∧ Numeral.integer value = .ok mode,
   fun mode => ∃ value, Settings.Sets environment Settings.scalingVariable value ∧
     Numeral.integer value = .ok mode,
   fun mode => data.Has "scaling_mode" fun value => value = .int mode]

theorem combined_engine (hparse : Arguments.parse texts = .ok a)
    (h : Settings.ofEnvironment environment = .ok given) :
    ∃ name, (combined a given).engine = .text name ∧
      Prevails (Text.ofString "highs") (engineLevels texts environment) name := by
  have hvariable : ∀ name, (∃ value, Settings.Sets environment Settings.engineVariable value ∧
      name = value.strip.lower) ↔
      (Settings.setting? environment Settings.engineVariable).map (fun value =>
        value.strip.lower) = some name := by
    intro name
    simp only [Settings.sets_iff, Option.map_eq_some_iff, eq_comm (a := name)]
  have hoption : ∀ name, Arguments.Gives "--engine" texts name ↔ a.engine = some name :=
    fun name => (Arguments.engine_iff hparse name).symm
  refine ⟨_, ?_, .of_option hoption (.of_option hvariable .standard)⟩
  rw [combined, Settings.ofEnvironment_engine h]
  cases a.engine <;> rfl

theorem scalingMode_iff (h : data.Describes p) (mode : Int) :
    data.Has "scaling_mode" (fun value => value = .int mode) ↔ p.scalingMode = some mode := by
  rw [Document.has_iff (fun h => by cases h)]
  have hmode := h.scalingMode
  cases hp : p.scalingMode with
  | none =>
    rw [hp] at hmode
    simp [show data.fieldOrNull "scaling_mode" = .null from hmode]
  | some i =>
    rw [hp] at hmode
    simp [show data.fieldOrNull "scaling_mode" = .int i from hmode]

theorem withScaling_combined (hparse : Arguments.parse texts = .ok a)
    (h : Settings.ofEnvironment environment = .ok given) (hdata : data.Describes p) :
    ∃ found : Option Int,
      withScaling p (combined a given) = { p with scalingMode := found.or p.scalingMode } ∧
      Prevails 196 (scalingLevels texts environment data)
        ((found.or p.scalingMode).getD 196) := by
  obtain ⟨set, hgiven, hvariable⟩ := Settings.ofEnvironment_scaling h
  have hoption : ∀ mode, (∃ value, Arguments.Gives "--scaling" texts value ∧
      Numeral.integer value = .ok mode) ↔ a.scaling = some mode :=
    fun mode => (Arguments.scaling_iff hparse mode).symm
  refine ⟨a.scaling.or set, ?_, ?_⟩
  · rw [withScaling, combined, hgiven]
    cases a.scaling with
    | some mode => rfl
    | none => cases set <;> rfl
  · rw [Option.or_assoc, Option.getD_or, Option.getD_or]
    exact .of_option hoption (.of_option hvariable (.of_option (scalingMode_iff hdata) .standard))

/-- Each level gives one value at most. -/
theorem eq_of_engineLevels :
    ∀ level ∈ engineLevels texts environment, ∀ v w, level v → level w → v = w := by
  simp only [engineLevels, List.forall_mem_cons, Settings.sets_iff]
  refine ⟨fun v w hv hw => ?_, ?_, fun _ h => by cases h⟩
  · exact hv.unique (.inl ⟨rfl, rfl⟩) hw
  · rintro v w ⟨x, hx, rfl⟩ ⟨y, hy, rfl⟩
    obtain rfl := Option.some.inj (hx.symm.trans hy)
    rfl

theorem eq_of_scalingLevels :
    ∀ level ∈ scalingLevels texts environment data, ∀ v w, level v → level w → v = w := by
  simp only [scalingLevels, List.forall_mem_cons, Settings.sets_iff]
  refine ⟨?_, ?_, ?_, fun _ h => by cases h⟩
  · rintro v w ⟨x, hx, hv⟩ ⟨y, hy, hw⟩
    obtain rfl := hx.unique (.inr ⟨rfl, rfl⟩) hy
    exact Except.ok.inj (hv.symm.trans hw)
  · rintro v w ⟨x, hx, hv⟩ ⟨y, hy, hw⟩
    obtain rfl := Option.some.inj (hx.symm.trans hy)
    exact Except.ok.inj (hv.symm.trans hw)
  · rintro v w ⟨x, hx, rfl⟩ ⟨y, hy, rfl⟩
    exact Document.int.inj (Option.some.inj (hx.symm.trans hy))

/-- A name that no engine has is told. -/
theorem solveAndReport_of_unknown (a : Arguments) (path : Path) {st : Settings}
    (hne : p.objective ≠ []) (hfits : p.Fits) (hengine : st.engine = .text name)
    (h : ∀ entry ∈ runners, Text.ofString entry.1 ≠ name) :
    (solveAndReport (signed runners initial) a st path p).ending = .exit 1 ∧
      (solveAndReport (signed runners initial) a st path p).notices.getLast? =
        some (.text ("Error: Unknown solver engine: " ++ name.toString ++ "\n")) := by
  have hresolve : (EngineChoice.named (signed runners initial) (.text name)).resolve =
      .error (.unknownEngine (.text name)) := resolve_signed_of_unknown h
  have hcheck := (Problem.valid_toRequest hne hfits).shaped.check
  have hsolve := Request.solve_of_unresolved hcheck hresolve
  have hmessage : failureMessage? (.unknownEngine (.text name)) =
      some ("Error: Unknown solver engine: " ++ name.toString) := by
    show some ("Error: " ++ (Text.ofString ("Unknown solver engine: " ++ _)).toString) = _
    rw [Text.toString_ofString, ← String.append_assoc]
    rfl
  rw [solveAndReport, hengine, hsolve]
  simp only [hmessage, refusal, List.getLast?_concat, and_self]

end

section
variable {texts : List Text} {environment : List (Text × Text)} {s : FileSystem (List Nat)}
  {a : Arguments} {given : Settings} {octets : List Nat} {data : Document} {p : Problem}
  (hparse : Arguments.parse texts = .ok a) (hgiven : Settings.ofEnvironment environment = .ok given)
  (hfile : s.standing? (Path.ofText a.problem) = some (.file octets))
  (hdata : Problem.document (Path.ofText a.problem).toText.toString octets = .ok data)
  (hp : Problem.ofDocument data = .ok p)
include hparse hgiven hfile hdata hp

/-- Engines that note what they are given are asked for what the levels say. -/
theorem run_attempts (runners : List (String × Runner β)) (initial : β) :
    ∃ name mode, Prevails (Text.ofString "highs") (engineLevels texts environment) name ∧
      Prevails 196 (scalingLevels texts environment data) mode ∧
      Takes runners p name mode
        (noted (run (signed runners initial) environment s.look texts).final) ∧
      (p.Fits → (∀ entry ∈ runners, Text.ofString entry.1 ≠ name) →
        (run (signed runners initial) environment s.look texts).ending = .exit 1 ∧
        (run (signed runners initial) environment s.look texts).notices.getLast? =
          some (.text ("Error: Unknown solver engine: " ++ name.toString ++ "\n"))) := by
  obtain ⟨hdescribes, hne⟩ := Problem.ofDocument_eq_ok_iff.1 hp
  have hread : Problem.ofFile (Path.ofText a.problem).toText.toString octets = .ok p := by
    rw [Problem.ofFile, hdata]
    exact hp
  obtain ⟨name, hengine, hname⟩ := combined_engine hparse hgiven
  obtain ⟨found, hscaling, hmode⟩ := withScaling_combined hparse hgiven hdescribes
  refine ⟨name, _, hname, hmode, ?_⟩
  rw [run_of_file hparse hgiven hfile]
  obtain ⟨log, hrun⟩ := readAndSolve_of_ok hread
  rw [hrun, hscaling]
  constructor
  · rw [final_solveAndReport, hengine]
    have htakes := takes_solve runners initial name
      (p := { p with scalingMode := found.or p.scalingMode }) hne
    exact { htakes with problem := fun attempt hmem => { htakes.problem attempt hmem with } }
  · intro hfits hunknown
    obtain ⟨hending, hlast⟩ := solveAndReport_of_unknown a (Path.ofText a.problem)
      (p := { p with scalingMode := found.or p.scalingMode }) hne hfits hengine hunknown
    exact ⟨hending, by rw [List.getLast?_append, hlast]; rfl⟩

/-- If arguments, environment and problem file of a run are read, its levels settle the name of an
engine and a scaling mode. All attempts at the problem are made by the engine of the catalogue that
has this name, the first one with this scaling mode; a name that no engine has is told, and ends the
run. The attempts are those of engines that note them and otherwise do what the catalogue's do. -/
theorem run_precedence (backends : Backends β) (round : Rounding) (initial : β) :
    run (backends.catalogue round initial) environment s.look texts =
      (run (signed (backends.runners round) initial) environment s.look texts).seen unsigned ∧
    (∃ name, Prevails (Text.ofString "highs") (engineLevels texts environment) name) ∧
    (∃ mode, Prevails 196 (scalingLevels texts environment data) mode) ∧
    ∀ name mode, Prevails (Text.ofString "highs") (engineLevels texts environment) name →
      Prevails 196 (scalingLevels texts environment data) mode →
      Takes (backends.runners round) p name mode
        (noted (run (signed (backends.runners round) initial) environment s.look texts).final) ∧
      (p.Fits → (∀ entry ∈ backends.runners round, Text.ofString entry.1 ≠ name) →
        (run (backends.catalogue round initial) environment s.look texts).ending = .exit 1 ∧
        (run (backends.catalogue round initial) environment s.look texts).notices.getLast? =
          some (.text ("Error: Unknown solver engine: " ++ name.toString ++ "\n"))) := by
  obtain ⟨name₀, mode₀, hname₀, hmode₀, htakes, hrefused⟩ :=
    run_attempts hparse hgiven hfile hdata hp (backends.runners round) initial
  rw [catalogue_eq_plain, run_unsigned]
  refine ⟨rfl, ⟨name₀, hname₀⟩, ⟨mode₀, hmode₀⟩, fun name mode hname hmode => ?_⟩
  obtain rfl := hname₀.unique eq_of_engineLevels hname
  obtain rfl := hmode₀.unique eq_of_scalingLevels hmode
  exact ⟨htakes, hrefused⟩

end

/-- Two scaling modes, of which the last one counts, an engine, and a problem file. -/
def twiceScaled : List Text :=
  ["--sc", "4", "p.json", "--engine=cbc", "--scaling", "0"].map Text.ofString

theorem gives_twiceScaled :
    Arguments.Gives "--engine" twiceScaled (Text.ofString "cbc") ∧
      Arguments.Gives "--scaling" twiceScaled (Text.ofString "0") := by
  have hengine : Arguments.Hands "--engine" twiceScaled [Text.ofString "cbc"] := by
    refine .apart (by decide) (by decide) (.apart (by decide) (by decide) ?_)
    refine .apart (by decide) (by decide) (.joined ⟨.ofString "--engine", by decide, rfl⟩ ?_)
    exact .apart (by decide) (by decide) (.apart (by decide) (by decide) .nil)
  have hscaling : Arguments.Hands "--scaling" twiceScaled [.ofString "4", .ofString "0"] := by
    refine .behind (by decide) (.apart (by decide) (by decide) ?_)
    exact .apart (by decide) (by decide) (.behind (by decide) .nil)
  exact ⟨⟨_, hengine, rfl⟩, ⟨_, hscaling, rfl⟩⟩

theorem parse_twiceScaled : Arguments.parse twiceScaled =
    .ok { problem := .ofString "p.json", engine := some (.ofString "cbc"), scaling := some 0 } := by
  have hclassify : Argument.classifyAll twiceScaled =
      .ok [.option (.ofString "--sc") (some ⟨.scaling, "--scaling", false, none⟩),
        .operand (.ofString "4"), .operand (.ofString "p.json"),
        .option (.ofString "--engine=cbc") (some ⟨.engine, "--engine", true, some (.ofString "cbc")⟩),
        .option (.ofString "--scaling") (some ⟨.scaling, "--scaling", false, none⟩),
        .operand (.ofString "0")] := rfl
  rw [Arguments.parse, hclassify]
  refine Computation.bind_eq_ok.2 ⟨_, rfl, ?_⟩
  simp only [Arguments.take]
  rfl

/-- An environment that sets both variables. -/
def bothVariables (engine mode : String) : List (Text × Text) :=
  [(Text.ofString "LPSOLVER_ENGINE", Text.ofString engine),
   (Text.ofString "LPSOLVER_SCALING", Text.ofString mode)]

/-- A problem file with a scaling mode. -/
def scaledFile : List Nat :=
  (Text.ofString "\x7b\"objective\": [0], \"scaling_mode\": 4\x7d").points

/-- The options are used rather than the environment and the problem file, and the last of two modes,
which is zero, rather than the first. Without options the environment is used, with a mode of zero as
well, rather than the problem file. -/
theorem run_precedence_options :
    (∃ first, (noted (run (signed (Request.pointlessBackends.runners .exact) ())
        (bothVariables " HIGHS " "7") (folderWith scaledFile).look twiceScaled).final)[0]? =
          some first ∧
      Text.ofString first.1 = Text.ofString "cbc" ∧ first.2.scaling = 0) ∧
    ∃ first, (noted (run (signed (Request.pointlessBackends.runners .exact) ())
        (bothVariables " CBC " "0") (folderWith scaledFile).look
        [Text.ofString "p.json"]).final)[0]? = some first ∧
      Text.ofString first.1 = Text.ofString "cbc" ∧ first.2.scaling = 0 := by
  have hcontents : Problem.contents scaledFile = .ok scaledFile := rfl
  have hjson : Json.read scaledFile = .ok (.object
      [(Text.ofString "objective", .list [.int 0]), (Text.ofString "scaling_mode", .int 4)]) := rfl
  have hdata : Problem.document "p.json" scaledFile = .ok (.object
      [(Text.ofString "objective", .list [.int 0]), (Text.ofString "scaling_mode", .int 4)]) :=
    Computation.bind_eq_ok.2 ⟨scaledFile, hcontents, Computation.mapError_eq_ok.2 hjson⟩
  have hproblem : Problem.ofDocument (.object
      [(Text.ofString "objective", .list [.int 0]), (Text.ofString "scaling_mode", .int 4)]) =
      .ok { objective := [.zero], constraints := [], scalingMode := some 4 } := rfl
  have hfits : Problem.Fits { objective := [.zero], constraints := [], scalingMode := some 4 } :=
    fun _ h => by cases h
  have hknown : ∃ entry ∈ Request.pointlessBackends.runners .exact,
      Text.ofString entry.1 = Text.ofString "cbc" := ⟨_, .head _, rfl⟩
  constructor
  · have hgiven : Settings.ofEnvironment (bothVariables " HIGHS " "7") =
        .ok { engine := .ofString "highs", scalingMode := .int 7 } := rfl
    obtain ⟨-, -, -, htakes⟩ := run_precedence (s := folderWith scaledFile) parse_twiceScaled
      hgiven rfl hdata hproblem Request.pointlessBackends .exact ()
    obtain ⟨hfirst, -⟩ := htakes (Text.ofString "cbc") 0
      (.given gives_twiceScaled.1) (.given ⟨_, gives_twiceScaled.2, rfl⟩)
    exact hfirst.exists_first hfits hknown
  · have hgiven : Settings.ofEnvironment (bothVariables " CBC " "0") =
        .ok { engine := .ofString "cbc", scalingMode := .int 0 } := rfl
    have hparse : Arguments.parse [Text.ofString "p.json"] =
        .ok { problem := Text.ofString "p.json" } := rfl
    obtain ⟨-, -, -, htakes⟩ := run_precedence (s := folderWith scaledFile) hparse hgiven rfl
      hdata hproblem Request.pointlessBackends .exact ()
    have hengine : ∀ name, ¬Arguments.Gives "--engine" [Text.ofString "p.json"] name := by
      intro name h
      cases (Arguments.engine_iff hparse name).2 h
    have hscaling : ∀ mode, ¬∃ value, Arguments.Gives "--scaling" [Text.ofString "p.json"] value ∧
        Numeral.integer value = .ok mode := by
      intro mode h
      cases (Arguments.scaling_iff hparse mode).2 h
    have hname : Text.ofString "cbc" = (Text.ofString " CBC ").strip.lower := rfl
    obtain ⟨hfirst, -⟩ := htakes (Text.ofString "cbc") 0
      (.passed hengine (.given ⟨_, ⟨rfl, by decide⟩, hname⟩))
      (.passed hscaling (.given ⟨_, ⟨rfl, by decide⟩, rfl⟩))
    exact hfirst.exists_first hfits hknown

end CommandLine

end

end LinearPrograms
