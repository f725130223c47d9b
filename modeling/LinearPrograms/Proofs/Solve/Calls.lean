import LinearPrograms.Engine.Scripted
import LinearPrograms.Proofs.Solve.Admission
import LinearPrograms.Proofs.Solve.Formulating

/-!
# The calls of a solve

`Request.plan` lists the calls that a solve makes between the creation and the release of an
engine's problem: sense and objective, the scaling mode, bounds and flags column by column, rows,
and one or two runs. An entry of the plan is a call, or the fault that its arguments end in.

`Session.Follows x s p` says that an action makes the calls of the plan `p`: all of them if it ends
with a result, the first few if it ends with a fault. There is one lemma for each way of building an
action, and they add plans up along the steps of a solve. Nothing is assumed of the engine, any of
whose calls may fail, so the last theorem holds of every engine (`solve_calls`).
-/

namespace LinearPrograms

namespace Session

variable {σ α β : Type}

/-- The calls since `s` are those of the plan, or the first of them if the action fails. -/
def Follows (x : Action (Session σ) α) (s : Session σ) (plan : List (Except Fault Event)) : Prop :=
  x.Ends s (fun _ t => ∃ made, t.events = s.events ++ made ∧ made.map .ok = plan)
    fun _ t => ∃ made, t.events = s.events ++ made ∧ made.map .ok <+: plan

variable {x : Action (Session σ) α} {f : α → Action (Session σ) β} {s : Session σ}
  {p q : List (Except Fault Event)}

/-- An action that makes no calls follows the empty plan. -/
theorem follows_nil (h : (x s).state.events = s.events) : Follows x s [] := by
  have hmade : (x s).state.events = s.events ++ [] := h.trans (List.append_nil _).symm
  unfold Follows Action.Ends
  split
  · exact ⟨[], hmade, rfl⟩
  · exact ⟨[], hmade, List.prefix_rfl⟩

theorem follows_call (engine : Engine σ) (event : Event) :
    Follows (call engine event) s [.ok event] := by
  rw [Follows, ends_call]
  exact Action.ends_of_forall (fun _ _ => ⟨[event], rfl, rfl⟩)
    fun _ _ => ⟨[event], rfl, List.prefix_rfl⟩

/-- The plans of two steps add up. The second step starts from the reply of the first. -/
theorem Follows.bind (hx : Follows x s p)
    (hf : ∀ a t log, x s = ⟨.ok a, t, log⟩ → Follows (f a) t q) :
    Follows (x >>= f) s (p ++ q) := by
  rw [Follows, Action.ends_bind]
  refine (Action.Ends.and_reply hx).mono (fun a t ha => ?_) fun e t he => ?_
  · obtain ⟨⟨log, ha⟩, made, hmade, rfl⟩ := ha
    refine (hf a t log ha).mono (fun b u hu => ?_) fun e u hu => ?_
    · obtain ⟨more, hmore, rfl⟩ := hu
      exact ⟨made ++ more, by rw [hmore, hmade, List.append_assoc], List.map_append⟩
    · obtain ⟨more, hmore, hq⟩ := hu
      refine ⟨made ++ more, by rw [hmore, hmade, List.append_assoc], ?_⟩
      rw [List.map_append]
      exact (List.prefix_append_right_inj _).2 hq
  · obtain ⟨made, hmade, hp⟩ := he
    exact ⟨made, hmade, hp.trans (List.prefix_append p q)⟩

/-- The plans of two steps add up, whatever the first step leaves. -/
theorem Follows.andThen (hx : Follows x s p) (hf : ∀ a t, Follows (f a) t q) :
    Follows (x >>= f) s (p ++ q) := hx.bind fun a t _ _ => hf a t

/-- A step without calls leaves the plan to the rest. -/
theorem follows_bind_of_quiet (hx : (x s).state.events = s.events)
    (hf : ∀ a t, Follows (f a) t q) : Follows (x >>= f) s q := (follows_nil hx).andThen hf

/-- If the argument of the next call cannot be made, neither that call nor any other follows. -/
theorem follows_argument {γ : Type} {y : Except Fault γ} {k : γ → Action (Session σ) β}
    {g : γ → Event} (hk : ∀ a, y = .ok a → Follows (k a) s (.ok (g a) :: q)) :
    Follows (Action.ofExcept y >>= k) s (y.map g :: q) := by
  cases y with
  | error e => exact ⟨[], (List.append_nil _).symm, List.nil_prefix⟩
  | ok a =>
    rw [Action.ofExcept_ok_bind]
    exact hk a rfl

/-- An optional step adds its plan if it is taken. -/
theorem follows_optional {c : Prop} [Decidable c] {y : Action (Session σ) Unit}
    {k : Unit → Action (Session σ) β} (hy : Follows y s p) (hk : ∀ t, Follows (k ()) t q) :
    Follows (if c then y >>= k else k ()) s ((if c then p else []) ++ q) := by
  split
  · exact hy.andThen fun _ t => hk t
  · exact hk s

end Session

namespace Request

variable {σ : Type} {engine : Engine σ} {s : Session σ} {r : Request}

/-! ## The plan -/

/-- A call for each column, if an array has one entry per column. -/
def columnCalls (d : Document) (n : Nat) (toEdit : Document → Document → Edit) :
    List (Except Fault Event) :=
  if d.length? = some n then
    (List.range n).map fun i => (part d i).map fun v => .edited (toEdit (.int (i + 1)) v)
  else []

/-- The call that adds a row: its coefficients stand behind an entry that is ignored. -/
def rowCall (c : Constraint) : Event :=
  .edited (.constraint (.ofScalars (.zero :: c.body)) (.int c.relation.code) (.float c.rhs))

/-- The calls that formulate a request. -/
def formulationCalls (r : Request) (n : Nat) (cs : List Constraint) : List (Except Fault Event) :=
  [.ok (.edited (.verbosity (.int 0))), .ok (.edited .maximize),
    (paddedRow r.objective).map fun row => .edited (.objective row)] ++
  ((if r.scalingMode.isPresent then [.ok (.edited (.scaling r.scalingMode))] else []) ++
  (columnCalls r.lowerBounds n .lower ++
  (columnCalls r.upperBounds n .upper ++
  (columnCalls r.integerVariables n integerEdit ++
  cs.map fun c => .ok (rowCall c)))))

/-- The calls after a run with some status: a second run without scaling, if there is no solution.
-/
def retryCalls (status : Int) : List (Except Fault Event) :=
  if status ∈ Status.usableCodes then []
  else [.ok (.edited (.scaling (.int 0))), .ok .solved]

/-- The status of the first run, or the fault that prevents it. -/
def firstStatus (engine : Engine σ) (r : Request) (n : Nat) (cs : List Constraint)
    (s : Session σ) : Except Fault Int :=
  ((do formulate engine r n cs; attempt engine : Action (Session σ) Int) s).result

/-- The calls that an engine's problem receives between its creation and its release. -/
def plan (engine : Engine σ) (r : Request) (n : Nat) (cs : List Constraint) (s : Session σ) :
    List (Except Fault Event) :=
  formulationCalls r n cs ++ .ok .solved ::
    match firstStatus engine r n cs s with
    | .ok status => retryCalls status
    | .error _ => []

theorem edit_of_mem_columnCalls {d : Document} {n : Nat} {toEdit : Document → Document → Edit}
    {event : Event} (h : .ok event ∈ columnCalls d n toEdit) : ∃ edit, event = .edited edit := by
  unfold columnCalls at h
  split at h
  · obtain ⟨i, -, hi⟩ := List.mem_map.1 h
    cases hpart : part d i with
    | error e =>
      rw [hpart] at hi
      cases hi
    | ok v =>
      rw [hpart] at hi
      exact ⟨_, (Except.ok.inj hi).symm⟩
  · cases h

theorem edit_of_mem_formulationCalls {n : Nat} {cs : List Constraint} {event : Event}
    (h : .ok event ∈ formulationCalls r n cs) : ∃ edit, event = .edited edit := by
  simp only [formulationCalls, List.mem_append] at h
  rcases h with h | h | h | h | h | h
  · cases hrow : paddedRow r.objective with
    | error e => simp [hrow, Except.map] at h; grind
    | ok row => simp [hrow, Except.map] at h; grind
  · split at h
    · simp at h; grind
    · cases h
  · exact edit_of_mem_columnCalls h
  · exact edit_of_mem_columnCalls h
  · exact edit_of_mem_columnCalls h
  · obtain ⟨c, -, hc⟩ := List.mem_map.1 h
    exact ⟨_, (Except.ok.inj hc).symm⟩

/-- No problem is created or released in the course of the plan. -/
theorem edit_or_run_of_prefix {n : Nat} {cs : List Constraint} {made : List Event}
    (h : made.map .ok <+: plan engine r n cs s) :
    ∀ event ∈ made, event = .solved ∨ ∃ edit, event = .edited edit := by
  intro event hevent
  have hmem := h.subset (List.mem_map.2 ⟨event, hevent, rfl⟩)
  simp only [plan, List.mem_append, List.mem_cons] at hmem
  rcases hmem with hmem | hmem | hmem
  · exact .inr (edit_of_mem_formulationCalls hmem)
  · exact .inl (Except.ok.inj hmem)
  · split at hmem
    · unfold retryCalls at hmem
      split at hmem
      · cases hmem
      · simp at hmem; grind
    · cases hmem

/-! ## The steps of a solve follow the plan -/

theorem follows_editEach (d : Document) (toEdit : Document → Document → Edit) :
    ∀ (count i : Nat) (s : Session σ), Session.Follows (editEach engine d toEdit count i) s
      ((List.range' i count).map fun k =>
        (part d k).map fun v => .edited (toEdit (.int (k + 1)) v))
  | 0, _, s => Session.follows_nil rfl
  | count + 1, i, s => by
    rw [editEach, List.range'_succ, List.map_cons]
    refine Session.follows_argument fun v _ => ?_
    exact (Session.follows_call _ _).andThen fun _ t => follows_editEach d toEdit count (i + 1) t

theorem follows_editColumns (d : Document) (n : Nat) (toEdit : Document → Document → Edit) :
    Session.Follows (editColumns engine d n toEdit) s (columnCalls d n toEdit) := by
  rw [editColumns]
  cases h : hasLength d n with
  | error e => exact ⟨[], (List.append_nil _).symm, List.nil_prefix⟩
  | ok counts =>
    have hcounts := hasLength_eq_ok h
    rw [Action.ofExcept_ok_bind, columnCalls]
    by_cases hlen : d.length? = some n
    · have hpresent : d.isPresent = true := by
        cases d with
        | null => cases hlen
        | _ => rfl
      rw [if_pos (hcounts.2 ⟨hpresent, hlen⟩), if_pos hlen, List.range_eq_range']
      exact follows_editEach d toEdit n 0 s
    · rw [if_neg fun hc => hlen (hcounts.1 hc).2, if_neg hlen]
      exact Session.follows_nil rfl

theorem events_noteLength (name : String) (d : Document) (n : Nat) (s : Session σ) :
    (noteLength name d n s).state.events = s.events := by
  unfold noteLength
  split
  · cases d.length with
    | error e => rfl
    | ok k =>
      show ((if k ≠ n then Action.write _ else Action.give () : Action (Session σ) Unit) s).state.events
        = _
      split <;> rfl
  · rfl

theorem follows_addRows :
    ∀ (cs : List Constraint) (s : Session σ),
      Session.Follows (addRows engine cs) s (cs.map fun c => .ok (rowCall c))
  | [], s => Session.follows_nil rfl
  | c :: cs, s => by
    rw [addRows, addRow, show Document.ofScalars c.body = .list (c.body.map .float) from rfl,
      paddedRow_of_toScalars (Document.toScalars_float c.body), Action.ofExcept_ok_bind]
    exact (Session.follows_call _ _).andThen fun _ t => follows_addRows cs t

theorem follows_formulate (r : Request) (n : Nat) (cs : List Constraint) (s : Session σ) :
    Session.Follows (formulate engine r n cs) s (formulationCalls r n cs) := by
  rw [formulate, formulationCalls]
  refine (Session.follows_call _ _).andThen fun _ s => ?_
  refine (Session.follows_call _ _).andThen fun _ s => ?_
  refine Session.follows_argument fun row _ => ?_
  refine (Session.follows_call _ _).andThen fun _ s => ?_
  refine Session.follows_optional (Session.follows_call _ _) fun s => ?_
  refine Session.follows_bind_of_quiet (events_noteLength _ _ _ s) fun _ s => ?_
  refine Session.follows_bind_of_quiet (events_noteLength _ _ _ s) fun _ s => ?_
  refine Session.follows_bind_of_quiet (events_noteLength _ _ _ s) fun _ s => ?_
  refine (follows_editColumns _ _ _).andThen fun _ s => ?_
  refine (follows_editColumns _ _ _).andThen fun _ s => ?_
  refine (follows_editColumns _ _ _).andThen fun _ s => ?_
  rw [← List.append_nil (cs.map _)]
  refine (follows_addRows cs s).andThen fun _ s => ?_
  exact Session.follows_bind_of_quiet rfl fun _ s => Session.follows_nil rfl

theorem follows_attempt (s : Session σ) : Session.Follows (attempt engine) s [.ok .solved] := by
  rw [attempt, ← List.append_nil [_]]
  exact (Session.follows_call _ _).andThen fun _ _ => Session.follows_nil rfl

/-- A run is repeated without scaling if its status is one that leaves no solution. -/
theorem follows_run (s : Session σ) : Session.Follows (run engine) s (.ok .solved ::
    match (attempt engine s).result with
    | .ok status => retryCalls status
    | .error _ => []) := by
  rw [run]
  refine (follows_attempt s).bind fun first t log h => ?_
  simp only [h, retryCalls, ← Status.usable_ofCode_iff]
  split
  · exact Session.follows_nil rfl
  · refine Session.follows_bind_of_quiet rfl fun text t => ?_
    refine Session.follows_bind_of_quiet rfl fun _ t => ?_
    refine (Session.follows_call _ _).andThen fun _ t => ?_
    rw [← List.append_nil [_]]
    refine (follows_attempt t).andThen fun second t => ?_
    split
    · exact Session.follows_nil rfl
    · refine Session.follows_bind_of_quiet rfl fun text t => ?_
      exact Session.follows_bind_of_quiet rfl fun _ t => Session.follows_nil rfl

theorem follows_collect (n m : Nat) (s : Session σ) :
    Session.Follows (collect engine n m) s [] := by
  rw [collect]
  refine Session.follows_bind_of_quiet rfl fun _ s => ?_
  refine Session.follows_bind_of_quiet rfl fun _ s => ?_
  refine Session.follows_bind_of_quiet rfl fun _ s => ?_
  refine Session.follows_bind_of_quiet rfl fun _ s => ?_
  exact Session.follows_bind_of_quiet rfl fun _ s => Session.follows_nil rfl

/-- A session makes the calls of the plan. -/
theorem follows_session (r : Request) (n : Nat) (cs : List Constraint) (s : Session σ) :
    Session.Follows (session engine r n cs) s (plan engine r n cs s) := by
  rw [session, plan]
  refine (follows_formulate r n cs s).bind fun _ t log h => ?_
  have hfirst : firstStatus engine r n cs s = (attempt engine t).result := by
    rw [firstStatus, Action.bind_eq_of_ok h]
  rw [hfirst, ← List.append_nil (_ :: _)]
  refine (follows_run t).andThen fun kind t => ?_
  rw [← List.append_nil []]
  exact (follows_collect n _ t).andThen fun _ _ => Session.follows_nil rfl

/-- The release is the last call that an engine received, and the last thing it did. -/
def Releases (engine : Engine σ) (s : Session σ) (made : List Event) (t : Session σ) : Prop :=
  t.events = s.events ++ made ++ [.released] ∧ ∃ last, t.state = (engine.release last).state

theorem ends_released {made : List Event} {t : Session σ} (ht : t.events = s.events ++ made) :
    (Session.call engine .released).Ends t (fun _ => Releases engine s made)
      fun _ => Releases engine s made := by
  rw [Session.ends_call]
  refine (Action.ends_state _ _).mono ?_ ?_
  · rintro _ u rfl
    exact ⟨by rw [ht], _, rfl⟩
  · rintro _ u rfl
    exact ⟨by rw [ht], _, rfl⟩

/-- Whatever becomes of a session, the release follows it and nothing follows the release. -/
theorem ends_drive (engine : Engine σ) (r : Request) (n : Nat) (cs : List Constraint)
    (s : Session σ) :
    (drive engine r n cs).Ends s
      (fun _ t => ∃ made, Releases engine s made t ∧ made.map .ok = plan engine r n cs s)
      fun _ t => ∃ made, Releases engine s made t ∧ made.map .ok <+: plan engine r n cs s := by
  rw [drive, Action.ends_bind, Action.ends_finallyDo]
  refine (follows_session r n cs s).mono (fun ko t ht => ?_) fun e t ht => ?_
  · obtain ⟨made, hmade, hplan⟩ := ht
    exact (ends_released hmade).mono (fun _ u hu => ⟨made, hu, hplan⟩)
      fun _ u hu => ⟨made, hu, hplan ▸ List.prefix_rfl⟩
  · obtain ⟨made, hmade, hplan⟩ := ht
    exact (ends_released hmade).mono (fun _ u hu => ⟨made, hu, hplan⟩)
      fun _ u hu => ⟨made, hu, hplan⟩

/-- What a solve leaves of an engine is what its release left. -/
theorem release_of_final {choice : EngineChoice σ} {q : σ} (h : (r.solve choice).final = some q) :
    ∃ engine last, choice.resolve = .ok engine ∧ q = (engine.release last).state := by
  unfold solve at h
  split at h
  · cases h
  · rename_i n cs hcheck
    split at h
    · cases h
    · rename_i engine hresolve
      dsimp only at h
      split at h
      · cases h
      · rename_i state hcreate
        have hdrive : (drive engine r n cs).Ends ⟨state, [.created 0 n]⟩
            (fun _ t => ∃ last, t.state = (engine.release last).state)
            fun _ t => ∃ last, t.state = (engine.release last).state :=
          (ends_drive engine r n cs _).mono (fun _ t ⟨_, ht, _⟩ => ht.2) fun _ t ⟨_, ht, _⟩ => ht.2
        obtain ⟨last, hlast⟩ := hdrive.state
        exact ⟨engine, last, hresolve, (Option.some.inj h).symm.trans hlast⟩

/-- After a solve the problem of an engine that keeps a formulation is released, and neither its
rows nor a solution are left. -/
theorem released_of_final {β : Type} {runner : Runner β} {initial : β}
    {choice : EngineChoice (LoadedProblem β)} {q : LoadedProblem β}
    (hchoice : choice.resolve = .ok (.ofRunner runner initial))
    (h : (r.solve choice).final = some q) :
    q.released = true ∧ q.solution = none ∧ q.formulation.rows = [] := by
  obtain ⟨engine, last, hresolve, rfl⟩ := release_of_final h
  obtain rfl := Except.ok.inj (hresolve.symm.trans hchoice)
  exact ⟨rfl, rfl, rfl⟩

/-- A request without entries or with a constraint that does not fit is refused with the first
complaint, and so is an engine that no table lists, before an engine receives a call. Otherwise one
problem with a column for each variable is created, it receives the calls of the plan, all of them
if the solve returns and the first few if it does not, and then it is released, which is the last
thing that the engine does. -/
theorem solve_calls {xs : List Document} (hobjective : r.objective = .list xs)
    (choice : EngineChoice σ) :
    (xs = [] → r.solve choice = { result := .error (.input .emptyObjective) }) ∧
    (xs ≠ [] → ∀ i (e : Entry), r.constraints[i]? = some e → ¬e.Fits xs.length →
      (∀ j < i, ∀ e' : Entry, r.constraints[j]? = some e' → e'.Fits xs.length) →
        r.solve choice = { result := .error (.input (e.complaint i xs.length)) }) ∧
    (xs ≠ [] → ∀ cs, r.constraints = cs.map .constraint →
      (∀ c ∈ cs, c.body.length = xs.length) →
        (∀ table t, choice = .named table (.text t) →
          (∀ entry ∈ table, Text.ofString entry.1 ≠ t) →
            r.solve choice = { result := .error (.unknownEngine (.text t)) }) ∧
        ∀ engine state, choice.resolve = .ok engine →
          engine.create 0 xs.length = .ok state →
            ∃ made : List Event,
              (r.solve choice).events = .created 0 xs.length :: made ++ [.released] ∧
              (∃ last, (r.solve choice).final = some (engine.release last).state) ∧
              (∀ event ∈ made, event = .solved ∨ ∃ edit, event = .edited edit) ∧
              made.map .ok <+: plan engine r xs.length cs ⟨state, [.created 0 xs.length]⟩ ∧
              ∀ o, (r.solve choice).result = .ok o →
                made.map .ok = plan engine r xs.length cs ⟨state, [.created 0 xs.length]⟩) := by
  refine ⟨?_, ?_, ?_⟩
  · rintro rfl
    exact solve_of_refused (check_list hobjective) choice
  · intro hne i e hi he hbefore
    exact solve_of_refused (check_of_not_fits hobjective hne hi he hbefore) choice
  · intro hne cs hconstraints hlen
    have hcheck := check_of_length hobjective rfl (mt List.length_eq_zero_iff.1 hne)
      hconstraints hlen
    constructor
    · rintro table t rfl hunknown
      exact solve_of_unresolved hcheck (resolve_of_unknown hunknown)
    · intro engine state hresolve hcreate
      have hdrive := ends_drive engine r xs.length cs ⟨state, [.created 0 xs.length]⟩
      rw [solve_eq_drive hcheck hresolve hcreate]
      cases hresult : (drive engine r xs.length cs ⟨state, [.created 0 xs.length]⟩).result with
      | ok o =>
        obtain ⟨made, ⟨hmade, last, hlast⟩, hplan⟩ := hdrive.ok hresult
        have hprefix : made.map .ok <+:
            plan engine r xs.length cs ⟨state, [.created 0 xs.length]⟩ := by
          rw [← hplan]
        exact ⟨made, hmade, ⟨last, congrArg some hlast⟩, edit_or_run_of_prefix hprefix, hprefix,
          fun _ _ => hplan⟩
      | error e =>
        obtain ⟨made, ⟨hmade, last, hlast⟩, hplan⟩ := hdrive.error hresult
        exact ⟨made, hmade, ⟨last, congrArg some hlast⟩, edit_or_run_of_prefix hplan, hplan,
          fun _ h => by cases h⟩

/-- Two variables, one of them an integer, with lower bounds but no upper bounds that count. -/
def boundedRequest : Request where
  objective := .list [.int 1, .int 2]
  constraints := [.constraint ⟨[.finite 1, .finite 1], .le, .finite 4⟩]
  lowerBounds := .list [.int 0, .int 1]
  upperBounds := .list [.int 5]
  integerVariables := .list [.bool true, .bool false]
  scalingMode := .int 4

/-- An engine that finds nothing at its first run and is refused a second one. -/
def refusingEngine : Engine (LoadedProblem (List Solution)) :=
  .failing (fun | .edited (.scaling (.int 0)) => true | _ => false) (.engine .noBackend)
    (.ofRunner .scripted [{ status := .int 2 }])

/-- A session that ends before the second run still ends with the release. -/
theorem solve_calls_refused :
    ∃ (made : List Event) (q : LoadedProblem (List Solution)),
      (boundedRequest.solve (.given refusingEngine)).events = .created 0 2 :: made ++ [.released] ∧
      (boundedRequest.solve (.given refusingEngine)).final = some q ∧ q.released = true ∧
      made.map .ok <+: plan refusingEngine boundedRequest 2
        [⟨[.finite 1, .finite 1], .le, .finite 4⟩]
        ⟨{ formulation := .ofSize 0 2, backend := [{ status := .int 2 }] }, [.created 0 2]⟩ ∧
      made.length = 11 := by
  obtain ⟨-, -, hplan⟩ := solve_calls (r := boundedRequest) rfl (.given refusingEngine)
  obtain ⟨made, hmade, ⟨last, hlast⟩, -, hprefix, -⟩ :=
    (hplan (by decide) [⟨[.finite 1, .finite 1], .le, .finite 4⟩] rfl (by decide)).2 _ _ rfl rfl
  refine ⟨made, _, hmade, hlast, rfl, hprefix, ?_⟩
  have hlength := congrArg List.length hmade
  rw [show (boundedRequest.solve (.given refusingEngine)).events.length = 13 by decide +kernel,
    List.length_append, List.length_cons, List.length_singleton] at hlength
  omega

end Request

end LinearPrograms
