import LinearPrograms.Proofs.Engine.Histories
import LinearPrograms.Proofs.Solve.Attempts

/-!
# The runs of a solve

Which formulations a solve runs does not depend on what the runs answer. To say so, a runner keeps
notes beside the state of its backend: `Runner.noting` notes each formulation before it is run, and
`Runner.Notes` says of any runner that each of its runs of a well-formed formulation adds one note.

Nothing is assumed of the answers, which may have any status or be faults, nor of the arrays and the
scaling mode of the request. After any solve of a request in shape the engine has had no run, one, or
two, and the second one without scaling (`Request.solve_runs`), so the notes are the first of two that
are known from the request alone (`Request.solve_notes`). For the formulations themselves this says
column by column and row by row what a run is asked for (`Request.solve_formulations`).
-/

namespace LinearPrograms

/-! ## Notes -/

/-- An action with a list of notes beside its state: first a note is added, then the action is taken.
-/
def Action.noting {σ ν α : Type} (note : ν) (x : Action σ α) : Action (σ × List ν) α := do
  Action.change fun s => (s.1, s.2 ++ [note])
  Action.onPart Prod.fst (fun t s => (t, s.2)) x

/-- The notes are the only difference. -/
theorem Action.noting_eq {σ ν α : Type} (note : ν) (x : Action σ α) (s : σ) (notes : List ν) :
    noting note x (s, notes) = ⟨(x s).result, ((x s).state, notes ++ [note]), (x s).log⟩ := rfl

theorem Action.ends_noting {σ ν α : Type} {note : ν} {x : Action σ α} {s : σ} {notes : List ν}
    {Q : α → σ × List ν → Prop} {E : Fault → σ × List ν → Prop} :
    (noting note x).Ends (s, notes) Q E ↔
      x.Ends s (fun a t => Q a (t, notes ++ [note])) fun e t => E e (t, notes ++ [note]) := Iff.rfl

/-- A note outlasts steps that only read. -/
theorem Action.noted_of_reads {σ ν α γ : Type} {note : ν} {x : Action σ α} {s : σ} {notes : List ν}
    {f : α → Action (σ × List ν) γ} (hf : ∀ a s, (f a).Ends s (fun _ t => t = s) fun _ t => t = s) :
    (noting note x).Ends (s, notes)
      (fun a t => (f a).Ends t (fun _ u => ∃ b, u = (b, notes ++ [note]))
        fun _ u => ∃ b, u = (b, notes ++ [note]))
      fun _ t => ∃ b, t = (b, notes ++ [note]) := by
  refine ends_noting.2 (ends_of_forall (fun a t => ?_) fun e t => ⟨t, rfl⟩)
  exact (hf a _).mono (fun _ _ hu => ⟨t, hu⟩) fun _ _ hu => ⟨t, hu⟩

namespace Runner

variable {β ν : Type} {runner : Runner β} {f : Formulation}

/-- The backend after the first runs of a solve, the second of them without scaling. -/
def after (runner : Runner β) (f : Formulation) (b : β) : Nat → β
  | 0 => b
  | 1 => (runner.run f b).state
  | _ => (runner.run f.unscaled (runner.run f b).state).state

/-- Each run of a well-formed formulation adds one note, and what it notes is known beforehand. -/
def Notes (runner : Runner (β × List ν)) (form : Formulation → ν) : Prop :=
  ∀ f b notes, f.WellFormed → ∃ b', (runner.run f (b, notes)).state = (b', notes ++ [form f])

/-- A runner that notes the formulations it is given. -/
def noting (runner : Runner β) : Runner (β × List Formulation) where
  name := runner.name
  run := fun f => Action.noting f (runner.run f)

theorem notes_noting (runner : Runner β) : runner.noting.Notes id :=
  fun f b notes _ => ⟨_, congrArg Reply.state (Action.noting_eq f (runner.run f) b notes)⟩

theorem after_of_notes {runner : Runner (β × List ν)} {form : Formulation → ν}
    (hrunner : runner.Notes form) (hf : f.WellFormed) (b : β) {k : Nat} (hk : k ≤ 2) :
    ∃ b', runner.after f (b, []) k = (b', [form f, form f.unscaled].take k) := by
  have hunscaled : f.unscaled.WellFormed := { hf with }
  obtain ⟨b₁, h₁⟩ := hrunner f b [] hf
  obtain ⟨b₂, h₂⟩ := hrunner f.unscaled b₁ [form f] hunscaled
  match k, hk with
  | 0, _ => exact ⟨b, rfl⟩
  | 1, _ => exact ⟨b₁, h₁⟩
  | 2, _ =>
    refine ⟨b₂, ?_⟩
    show (runner.run f.unscaled (runner.run f (b, [])).state).state = _
    rw [h₁]
    exact h₂

end Runner

/-! ## Attempts with any answer -/

/-- A run keeps some solution or none; the rest of the problem is as it was, but for the backend. -/
theorem LoadedProblem.ends_solve_any {β : Type} {runner : Runner β} {p : LoadedProblem β}
    (hp : p.released = false) :
    (solve runner).Ends p
      (fun _ q => ∃ solution, q =
        { p with solution := solution, backend := (runner.run p.formulation p.backend).state })
      fun _ q => ∃ solution, q =
        { p with solution := solution, backend := (runner.run p.formulation p.backend).state } := by
  refine ends_solve_of_answer hp ((Action.ends_state _ _).mono ?_ ?_)
  · rintro s b rfl
    refine ⟨fun _ _ => ⟨none, rfl⟩, ?_⟩
    rintro keep - q rfl
    exact ⟨fun _ _ => ⟨_, rfl⟩, _, rfl⟩
  · rintro e b rfl
    exact ⟨none, rfl⟩

namespace Request

variable {β : Type} {runner : Runner β} {initial : β} {f : Formulation}
  {solution : Option Solution} {b b' : β} {runs : Nat} {t : Session (LoadedProblem β)}

theorem ends_attempt_any (ht : t.Stands f solution b runs) :
    (attempt (.ofRunner runner initial)).Ends t
      (fun _ u => ∃ kept, u.Stands f kept (runner.run f b).state (runs + 1))
      fun _ u => u.Ran (runs + 1) (runner.run f b).state := by
  obtain ⟨hstate, hruns⟩ := ht
  have hcount : (t.events ++ [Event.solved]).countP Event.isRun = runs + 1 := by
    rw [List.countP_append, hruns]
    rfl
  have hsolve : (LoadedProblem.solve runner).Ends t.state _ _ :=
    LoadedProblem.ends_solve_any (by rw [hstate])
  rw [hstate] at hsolve
  rw [attempt, Action.ends_bind, Session.ends_call, hstate]
  refine hsolve.mono ?_ ?_
  · rintro status q ⟨kept, rfl⟩
    rw [Action.ends_ofExcept]
    exact ⟨fun _ _ => ⟨kept, rfl, hcount⟩, fun _ _ => ⟨hcount, rfl⟩⟩
  · rintro e q ⟨kept, rfl⟩
    exact ⟨hcount, rfl⟩

/-- The attempts are one run, or two of which the second one is without scaling. -/
theorem ends_run_any (ht : t.Stands f solution b 0) :
    (run (.ofRunner runner initial)).Ends t
      (fun _ u => ∃ k, 0 < k ∧ k ≤ 2 ∧ u.Ran k (runner.after f b k))
      fun _ u => ∃ k, 0 < k ∧ k ≤ 2 ∧ u.Ran k (runner.after f b k) := by
  have hone : ∀ (u : Session (LoadedProblem β)), u.Ran 1 (runner.run f b).state →
      ∃ k, 0 < k ∧ k ≤ 2 ∧ u.Ran k (runner.after f b k) :=
    fun u hu => ⟨1, by omega, by omega, hu⟩
  have htwo : ∀ (u : Session (LoadedProblem β)),
      u.Ran 2 (runner.run f.unscaled (runner.run f b).state).state →
      ∃ k, 0 < k ∧ k ≤ 2 ∧ u.Ran k (runner.after f b k) :=
    fun u hu => ⟨2, by omega, by omega, hu⟩
  have hscaling : (Edit.scaling (.int 0)).Effect f f.unscaled := ⟨0, rfl, rfl⟩
  refine ends_run_of_attempts
    (M := fun u => ∃ kept, u.Stands f.unscaled kept (runner.run f b).state 1)
    ((ends_attempt_any ht).mono ?_ fun _ u hu => hone u hu) ?_
  · rintro k u ⟨kept, hu⟩
    exact ⟨fun _ => hone u hu.ran,
      fun _ => (Session.stands_edit hu hscaling).imp fun _ v hv => ⟨kept, hv⟩⟩
  · rintro u ⟨kept, hu⟩
    refine (ends_attempt_any hu).mono ?_ fun _ v hv => htwo v hv
    rintro k v ⟨kept', hv⟩
    exact ⟨fun _ => htwo v hv.ran, fun _ => htwo v hv.ran⟩

/-- Collecting the answer changes nothing. -/
theorem reads_collect (n m : Nat) (t : Session (LoadedProblem β)) :
    (collect (.ofRunner runner initial) n m).Reads t fun _ => True := by
  rw [collect]
  refine (Session.reads_ask (LoadedProblem.reads_objective t.state)).bind fun z _ => ?_
  refine (Session.reads_ask (LoadedProblem.reads_values t.state)).bind fun point _ => ?_
  refine (Action.reads_ofExcept (clean_shape _)).bind fun values _ => ?_
  refine (Session.reads_ask (LoadedProblem.reads_duals t.state)).bind fun ds _ => ?_
  refine (Action.reads_ofExcept (clean_shape _)).bind fun duals _ => ?_
  exact ⟨rfl, trivial⟩

/-- What is said of runs and backend outlasts the release. -/
theorem ends_drive_any {r : Request} {n : Nat} {cs : List Constraint} {P : Nat → β → Prop}
    (h : (session (.ofRunner runner initial) r n cs).Ends t
      (fun _ u => ∃ k b, P k b ∧ u.Ran k b) fun _ u => ∃ k b, P k b ∧ u.Ran k b) :
    (drive (.ofRunner runner initial) r n cs).Ends t (fun _ u => ∃ k b, P k b ∧ u.Ran k b)
      fun _ u => ∃ k b, P k b ∧ u.Ran k b := by
  have hreleased : ∀ u : Session (LoadedProblem β), (∃ k b, P k b ∧ u.Ran k b) →
      (Session.call (Engine.ofRunner runner initial) .released).Ends u
        (fun _ v => ∃ k b, P k b ∧ v.Ran k b) fun _ v => ∃ k b, P k b ∧ v.Ran k b := by
    rintro u ⟨k, b, hP, hran⟩
    rw [Session.ends_call]
    exact ⟨k, b, hP, hran.released⟩
  rw [drive, Action.ends_bind, Action.ends_finallyDo]
  exact h.mono (fun ko u hu => hreleased u hu) fun e u hu => hreleased u hu

section
variable {r : Request} {c : List Scalar} {cs : List Constraint}
  {choice : EngineChoice (LoadedProblem β)}

theorem ends_session_any (hr : r.Shaped c cs) (ht : t.Stands (.ofSize 0 c.length) none b 0) :
    (session (.ofRunner runner initial) r c.length cs).Ends t
      (fun _ u => ∃ k b', (k ≤ 2 ∧ (r.Valid c cs → 0 < k) ∧
        b' = runner.after (r.posed c cs) b k) ∧ u.Ran k b')
      fun _ u => ∃ k b', (k ≤ 2 ∧ (r.Valid c cs → 0 < k) ∧
        b' = runner.after (r.posed c cs) b k) ∧ u.Ran k b' := by
  have hran : ∀ u : Session (LoadedProblem β),
      (∃ k, 0 < k ∧ k ≤ 2 ∧ u.Ran k (runner.after (r.posed c cs) b k)) →
      ∃ k b', (k ≤ 2 ∧ (r.Valid c cs → 0 < k) ∧
        b' = runner.after (r.posed c cs) b k) ∧ u.Ran k b' := by
    rintro u ⟨k, hpos, hk, hu⟩
    exact ⟨k, _, ⟨hk, fun _ => hpos, rfl⟩, hu⟩
  rw [session]
  refine ((ends_formulate_posed hr ht).weaken ?_).bind fun _ u hu => ?_
  · rintro e u ⟨hinvalid, hu⟩
    exact ⟨0, b, ⟨by omega, fun hvalid => absurd hvalid hinvalid, rfl⟩, hu⟩
  refine ((ends_run_any hu).weaken fun _ v hv => hran v hv).bind fun kind v hv => ?_
  rw [Action.ends_bind]
  refine (reads_collect _ _ v).mono ?_ ?_
  · rintro o w ⟨rfl, -⟩
    exact hran w hv
  · rintro e w ⟨rfl, -⟩
    exact hran w hv

/-- A solve of a request in shape runs the engine at most twice, the second time without scaling, and
if the request is valid at least once. Its formulation is the one that is posed. -/
theorem solve_runs (hr : r.Shaped c cs)
    (hchoice : choice.resolve = .ok (.ofRunner runner initial)) :
    ∃ k, k ≤ 2 ∧ (r.Valid c cs → 0 < k) ∧
      (r.solve choice).Ran k (runner.after (r.posed c cs) initial k) := by
  have hstart : Session.Stands (.ofSize 0 c.length) none initial 0
      ⟨{ formulation := .ofSize 0 c.length, backend := initial }, [.created 0 c.length]⟩ :=
    ⟨rfl, rfl⟩
  have hdrive : (drive (.ofRunner runner initial) r c.length cs).Ends _ _ _ :=
    ends_drive_any (ends_session_any hr hstart)
  rw [solve_eq_drive hr.check hchoice (create_ofRunner runner initial c.length)]
  obtain ⟨k, b, ⟨hk, hvalid, rfl⟩, hruns, hbackend⟩ := hdrive.state
  exact ⟨k, hk, hvalid, hruns, congrArg some hbackend⟩

theorem length_entries {γ : Type} (d : Document) (n : Nat) (default : γ) (set : Document → γ) :
    (entries d n default set).length = n := by
  rw [entries, List.length_map, List.length_range]

theorem wellFormed_posed (hr : r.Shaped c cs) : (r.posed c cs).WellFormed where
  objective := rfl
  lower := length_entries _ _ _ _
  upper := length_entries _ _ _ _
  integer := length_entries _ _ _ _
  row := by
    intro row hrow
    obtain ⟨k, hk, rfl⟩ := List.mem_map.1 hrow
    exact hr.length k hk
  relations := by rw [posed, List.length_map, List.length_map]
  rhs := by rw [posed, List.length_map, List.length_map]

/-- The notes of a solve, one for each run, are the first of two that the request determines. -/
theorem solve_notes {ν : Type} {runner : Runner (β × List ν)} {form : Formulation → ν}
    {choice : EngineChoice (LoadedProblem (β × List ν))} (hrunner : runner.Notes form)
    (hr : r.Shaped c cs) (hchoice : choice.resolve = .ok (.ofRunner runner (initial, []))) :
    ∃ b notes, (r.solve choice).Ran notes.length (b, notes) ∧ (r.Valid c cs → notes ≠ []) ∧
      notes <+: [form (r.posed c cs), form (r.posed c cs).unscaled] := by
  obtain ⟨k, hk, hvalid, hran⟩ := solve_runs hr hchoice
  obtain ⟨b, hb⟩ := Runner.after_of_notes hrunner (wellFormed_posed hr) initial hk
  have hlen : ([form (r.posed c cs), form (r.posed c cs).unscaled].take k).length = k := by
    simpa using hk
  rw [hb] at hran
  refine ⟨b, _, by rwa [hlen], fun hr hnil => ?_, List.take_prefix k _⟩
  have hpos := hvalid hr
  rw [hnil] at hlen
  exact absurd hlen.symm hpos.ne'

end

/-! ## What a run is asked for -/

/-- The scaling mode in force for the first run: that of the request, or 196 if it has none. -/
def InForce (r : Request) (mode : Int) : Prop :=
  r.scalingMode = .null ∧ mode = 196 ∨
    r.scalingMode.isPresent = true ∧ r.scalingMode.toInt = .ok mode

/-- The bounds of `n` columns as an array sets them: all as by default if the array does not have `n`
entries, infinite where the entry is too far out, and otherwise the entry. -/
structure SetBy (d : Document) (n : Nat) (isFar : Scalar → Bool) (default infinite : Scalar)
    (bounds : List Scalar) : Prop where
  length : bounds.length = n
  absent : d.length? ≠ some n → ∀ j < n, bounds[j]? = some default
  far : d.length? = some n → ∀ j < n, ∀ v x, part d j = .ok v → v.number? = some x →
    isFar x = true → bounds[j]? = some infinite
  near : d.length? = some n → ∀ j < n, ∀ v x, part d j = .ok v → v.number? = some x →
    isFar x = false → ∀ y, v.toScalar = .ok y → bounds[j]? = some y

/-- A formulation says what the request to maximize `c` subject to `cs` says, except for scaling. -/
structure Restated (r : Request) (c : List Scalar) (cs : List Constraint) (f : Formulation) :
    Prop where
  maximize : f.maximize = true
  verbosity : f.verbosity = .int 0
  columns : f.columns = c.length
  objective : f.objective = c
  rows : f.rows.length = cs.length ∧ f.relations.length = cs.length ∧ f.rhs.length = cs.length
  row : ∀ (i : Nat) k, cs[i]? = some k →
    f.rows[i]? = some k.body ∧ f.relations[i]? = some k.relation ∧ f.rhs[i]? = some k.rhs
  lower : SetBy r.lowerBounds c.length (fun x => x.le (.finite (-Formulation.unboundedFrom)))
    .zero .negInf f.lower
  upper : SetBy r.upperBounds c.length (fun x => Scalar.le (.finite Formulation.unboundedFrom) x)
    .posInf .posInf f.upper
  flags : f.integer.length = c.length
  noFlag : r.integerVariables.length? ≠ some c.length → ∀ j < c.length, f.integer[j]? = some false
  flag : r.integerVariables.length? = some c.length → ∀ j < c.length, ∀ v,
    part r.integerVariables j = .ok v → f.integer[j]? = some v.isTrue

section
variable {r : Request} {c : List Scalar} {cs : List Constraint}

theorem scalingOf_of_inForce {mode : Int} (h : r.InForce mode) :
    scalingOf r.scalingMode = mode := by
  rcases h with ⟨hnull, rfl⟩ | ⟨-, hm⟩
  · rw [hnull]
    rfl
  · rw [scalingOf, hm]
    rfl

theorem getElem?_entries {γ : Type} {d : Document} {n j : Nat} (hj : j < n) (default : γ)
    (set : Document → γ) :
    (entries d n default set)[j]? = some ((counted d n j).elim default set) := by
  simp [entries, hj]

theorem counted_of_length_ne {d : Document} {n : Nat} (h : d.length? ≠ some n) (j : Nat) :
    counted d n j = none := if_neg fun hd => h hd.2

theorem counted_of_part {d : Document} {n j : Nat} {v : Document} (h : d.length? = some n)
    (hv : part d j = .ok v) : counted d n j = some v := by
  rw [counted, if_pos ⟨Supplies.isPresent_of_length h, h⟩, hv]
  rfl

/-- Bounds are set as an array says if each entry sets what it says. -/
theorem setBy_entries {d : Document} {n : Nat} {isFar : Scalar → Bool} {default infinite : Scalar}
    {set : Document → Scalar}
    (hset : ∀ v, set v = if v.number?.any isFar then infinite else v.scalar) :
    SetBy d n isFar default infinite (entries d n default set) where
  length := length_entries d n default set
  absent h j hj := by
    rw [getElem?_entries hj, counted_of_length_ne h]
    rfl
  far h j hj v x hv hx hfar := by
    rw [getElem?_entries hj, counted_of_part h hv, Option.elim_some, hset, hx, Option.any_some,
      if_pos hfar]
  near h j hj v x hv hx hnear y hy := by
    rw [getElem?_entries hj, counted_of_part h hv, Option.elim_some, hset, hx, Option.any_some,
      if_neg (by rw [hnear]; decide), Document.scalar_of_toScalar hy]

theorem restated_posed : r.Restated c cs (r.posed c cs) where
  maximize := rfl
  verbosity := rfl
  columns := rfl
  objective := rfl
  rows := ⟨List.length_map _, List.length_map _, List.length_map _⟩
  row i k hk := by simp [posed, hk]
  lower := setBy_entries fun _ => rfl
  upper := setBy_entries fun _ => rfl
  flags := length_entries _ _ _ _
  noFlag h j hj := by
    rw [posed, getElem?_entries hj, counted_of_length_ne h]
    rfl
  flag h j hj v hv := by
    rw [posed, getElem?_entries hj, counted_of_part h hv]
    rfl

/-- Each run of a solve is asked for what the request says, at the scaling mode in force, and without
scaling the second time. There are at most two runs, and one at least if the request is valid. -/
theorem solve_formulations {choice : EngineChoice (LoadedProblem (β × List Formulation))}
    (hr : r.Shaped c cs) (hchoice : choice.resolve = .ok (.ofRunner runner.noting (initial, []))) :
    ∃ b fs, (r.solve choice).Ran fs.length (b, fs) ∧ fs.length ≤ 2 ∧ (r.Valid c cs → fs ≠ []) ∧
      (∀ f ∈ fs, r.Restated c cs f) ∧
      (∀ f mode, fs[0]? = some f → r.InForce mode → f.scaling = mode) ∧
      ∀ f, fs[1]? = some f → f.scaling = 0 := by
  obtain ⟨b, fs, hran, hvalid, hfs⟩ := solve_notes (Runner.notes_noting runner) hr hchoice
  have hposed : r.Restated c cs (r.posed c cs) := restated_posed
  have hsecond : r.Restated c cs (r.posed c cs).unscaled := { hposed with }
  have hget : ∀ {i : Nat} {f : Formulation}, fs[i]? = some f →
      [r.posed c cs, (r.posed c cs).unscaled][i]? = some f := by
    intro i f hf
    obtain ⟨hi, -⟩ := List.getElem?_eq_some_iff.1 hf
    obtain ⟨rest, hrest⟩ := hfs
    rw [← hf, ← List.getElem?_append_left hi, hrest]
    rfl
  refine ⟨b, fs, hran, hfs.length_le, hvalid, fun f hf => ?_, fun f mode hf hmode => ?_,
    fun f hf => ?_⟩
  · rcases List.mem_pair.1 (hfs.subset hf) with rfl | rfl
    · exact hposed
    · exact hsecond
  · obtain rfl := Option.some.inj (hget hf)
    exact scalingOf_of_inForce hmode
  · obtain rfl := Option.some.inj (hget hf)
    rfl

end

/-- Runs of a scripted engine that notes what it is asked. -/
def notedRuns : EngineChoice (LoadedProblem (List Solution × List Formulation)) :=
  .given (.ofRunner Runner.scripted.noting (retriedRuns, []))

theorem solve_formulations_retried :
    ∃ b f g, (retriedRequest.solve notedRuns).Ran 2 (b, [f, g]) ∧
      f.objective = [.finite 3, .finite 2] ∧ f.lower[0]? = some .one ∧
      f.lower[1]? = some .negInf ∧ f.upper[0]? = some .posInf ∧ f.integer[0]? = some true ∧
      f.integer[1]? = some false ∧ f.scaling = 4 ∧ g.objective = f.objective ∧ g.scaling = 0 := by
  have hchoice : notedRuns.resolve =
      .ok (.ofRunner Runner.scripted.noting (retriedRuns, [])) := rfl
  obtain ⟨b, fs, hran, -, -, hasked, hfirst, hsecond⟩ :=
    solve_formulations valid_retriedRequest.shaped hchoice
  have htwo : fs.length = 2 := hran.1.symm
  match fs, htwo with
  | [f, g], _ =>
    have hf := hasked f (.head _)
    have hg := hasked g (.tail _ (.head _))
    refine ⟨b, f, g, hran, hf.objective, ?_, ?_, ?_, ?_, ?_, ?_,
      hg.objective.trans hf.objective.symm, hsecond g rfl⟩
    · exact hf.lower.near rfl 0 (by decide) _ _ (part_list_eq_ok.2 rfl) rfl (by decide) _ rfl
    · exact hf.lower.far rfl 1 (by decide) _ _ (part_list_eq_ok.2 rfl) rfl (by decide)
    · exact hf.upper.absent (by decide) 0 (by decide)
    · exact hf.flag rfl 0 (by decide) (.bool true) (part_list_eq_ok.2 rfl)
    · exact hf.flag rfl 1 (by decide) .null (part_list_eq_ok.2 rfl)
    · exact hfirst f 4 rfl (.inr ⟨rfl, rfl⟩)

end Request

end LinearPrograms
