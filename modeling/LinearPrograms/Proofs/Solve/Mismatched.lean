import LinearPrograms.Proofs.Solve.Handover

/-!
# Arrays of a wrong length

An array of bounds or flags that does not have one entry per variable is the same as none. Two
solves are compared, of a request and of one that leaves out some of these arrays
(`Request.LeavesOut`), on an engine of which nothing is assumed: any of its calls may fail.

`Action.Quieter n x y` says that two actions do the same, but for entries of the log that tell of an
ignored array. It is kept by putting actions one after the other, so it passes from the notes on the
lengths, which are the only steps that differ, to the solves (`Request.solve_leavesOut`).
-/

namespace LinearPrograms

namespace Request

/-- An array, and one that may be put in its place: itself, or none if its length is not `n`. -/
inductive Omits (n : Nat) : Document → Document → Prop
  | same (d : Document) : Omits n d d
  | none {d : Document} {k : Nat} : d.length? = some k → k ≠ n → Omits n d .null

/-- A request that differs from another one in arrays only, which it leaves out where their length
is not `n`. -/
structure LeavesOut (n : Nat) (r r' : Request) : Prop where
  objective : r'.objective = r.objective
  constraints : r'.constraints = r.constraints
  scalingMode : r'.scalingMode = r.scalingMode
  lowerBounds : Omits n r.lowerBounds r'.lowerBounds
  upperBounds : Omits n r.upperBounds r'.upperBounds
  integerVariables : Omits n r.integerVariables r'.integerVariables

/-- A log, and one without some of the entries that tell of an ignored array. -/
inductive Silences (n : Nat) : List LogEntry → List LogEntry → Prop
  | nil : Silences n [] []
  | kept (entry : LogEntry) {log log' : List LogEntry} :
      Silences n log log' → Silences n (entry :: log) (entry :: log')
  | silent (name : String) {k : Nat} {log log' : List LogEntry} :
      k ≠ n → Silences n log log' → Silences n (ignored name k n :: log) log'

theorem Silences.refl (n : Nat) (log : List LogEntry) : Silences n log log := by
  induction log with
  | nil => exact .nil
  | cons entry log ih => exact .kept entry ih

theorem Silences.append {n : Nat} {a a' b b' : List LogEntry} (ha : Silences n a a')
    (hb : Silences n b b') : Silences n (a ++ b) (a' ++ b') := by
  induction ha with
  | nil => exact hb
  | kept entry _ ih => exact .kept entry ih
  | silent name hk _ ih => exact .silent name hk ih

end Request

/-! ## Actions that differ in the log only -/

namespace Action

open Request (Silences)

variable {σ α β : Type} {n : Nat} {x y : Action σ α}

/-- The second action does what the first does, but for entries of the log on ignored arrays. -/
def Quieter (n : Nat) (x y : Action σ α) : Prop :=
  ∀ s, (y s).result = (x s).result ∧ (y s).state = (x s).state ∧ Silences n (x s).log (y s).log

theorem Quieter.refl (n : Nat) (x : Action σ α) : Quieter n x x :=
  fun s => ⟨rfl, rfl, .refl n (x s).log⟩

theorem Quieter.bind {f g : α → Action σ β} (hx : Quieter n x y)
    (hf : ∀ a, Quieter n (f a) (g a)) : Quieter n (x >>= f) (y >>= g) := by
  intro s
  obtain ⟨hresult, hstate, hlog⟩ := hx s
  rcases hxs : x s with ⟨r, t, log⟩
  rcases hys : y s with ⟨r', t', log'⟩
  rw [hxs, hys] at hresult hstate hlog
  obtain rfl : r' = r := hresult
  obtain rfl : t' = t := hstate
  cases r' with
  | error e =>
    rw [bind_eq_of_error hxs, bind_eq_of_error hys]
    exact ⟨rfl, rfl, hlog⟩
  | ok a =>
    obtain ⟨hresult', hstate', hlog'⟩ := hf a t'
    rw [bind_eq_of_ok hxs, bind_eq_of_ok hys]
    exact ⟨hresult', hstate', hlog.append hlog'⟩

/-- After a step that both take, the rest decides. -/
theorem Quieter.after (x : Action σ α) {f g : α → Action σ β}
    (hf : ∀ a, Quieter n (f a) (g a)) : Quieter n (x >>= f) (x >>= g) := (refl n x).bind hf

theorem Quieter.optional {c : Prop} [Decidable c] (x : Action σ Unit)
    {f g : Unit → Action σ β} (hf : ∀ u, Quieter n (f u) (g u)) :
    Quieter n (if c then x >>= f else f ()) (if c then x >>= g else g ()) := by
  split
  · exact .after x hf
  · exact hf ()

theorem Quieter.finallyDo (hx : Quieter n x y) (last : Action σ Unit) :
    Quieter n (finallyDo x last) (finallyDo y last) := by
  intro s
  obtain ⟨hresult, hstate, hlog⟩ := hx s
  simp only [Action.finallyDo, hresult, hstate]
  exact ⟨trivial, trivial, hlog.append (.refl n _)⟩

end Action

/-! ## The steps of a solve -/

namespace Request

open LinearPrograms.Action (Quieter)

variable {σ : Type} {n : Nat} {d d' : Document}

theorem hasLength_of_length {k : Nat} (h : d.length? = some k) :
    hasLength d n = .ok (k == n) := by
  rw [hasLength, if_pos (Supplies.isPresent_of_length h), Document.length, h]
  rfl

/-- An array of a wrong length is noted, and one that is missing is not. -/
theorem quieter_noteLength (name : String) (h : Omits n d d') :
    Quieter n (noteLength name d n : Action (Session σ) Unit) (noteLength name d' n) := by
  cases h with
  | same => exact .refl n _
  | none hlength hne =>
    rename_i k
    intro s
    have hnote : (noteLength name d n : Action (Session σ) Unit) =
        Action.write (ignored name k n) := by
      rw [noteLength, if_pos (Supplies.isPresent_of_length hlength), Document.length, hlength]
      exact if_pos hne
    rw [hnote]
    exact ⟨rfl, rfl, .silent name hne .nil⟩

/-- Neither of them sets anything. -/
theorem editColumns_of_omits (h : Omits n d d') (engine : Engine σ)
    (toEdit : Document → Document → Edit) :
    editColumns engine d' n toEdit = editColumns engine d n toEdit := by
  cases h with
  | same => rfl
  | none hlength hne =>
    have hcounts : hasLength d n = .ok false := by
      rw [hasLength_of_length hlength, beq_false_of_ne hne]
    rw [editColumns, editColumns, hcounts]
    rfl

section
variable {r r' : Request} (h : LeavesOut n r r')
include h

theorem LeavesOut.check : r'.check = r.check := by
  rw [Request.check, Request.check, h.objective, h.constraints]

theorem quieter_formulate (engine : Engine σ) (cs : List Constraint) :
    Quieter n (formulate engine r n cs) (formulate engine r' n cs) := by
  rw [formulate, formulate, h.objective, h.scalingMode,
    editColumns_of_omits h.lowerBounds, editColumns_of_omits h.upperBounds,
    editColumns_of_omits h.integerVariables]
  refine .after _ fun _ => .after _ fun _ => .after _ fun row => .after _ fun _ => ?_
  refine .optional _ fun _ => ?_
  refine (quieter_noteLength _ h.lowerBounds).bind fun _ => ?_
  refine (quieter_noteLength _ h.upperBounds).bind fun _ => ?_
  refine (quieter_noteLength _ h.integerVariables).bind fun _ => ?_
  exact .refl n _

theorem quieter_drive (engine : Engine σ) (cs : List Constraint) :
    Quieter n (drive engine r n cs) (drive engine r' n cs) := by
  have hsession : Quieter n (session engine r n cs) (session engine r' n cs) :=
    (quieter_formulate h engine cs).bind fun _ => .refl n _
  exact (hsession.finallyDo _).bind fun _ => .refl n _

end

/-- Leaving out any of the optional arrays whose length is not the number of variables changes
neither the result of a solve, nor the calls that the engine receives, nor the state they leave the
engine in, and with that what its backend was handed. Only entries of the log that tell of an
ignored array go missing. -/
theorem solve_leavesOut {r r' : Request} (hn : r.objective.length? = some n)
    (h : LeavesOut n r r') (choice : EngineChoice σ) :
    (r'.solve choice).result = (r.solve choice).result ∧
      (r'.solve choice).events = (r.solve choice).events ∧
      (r'.solve choice).final = (r.solve choice).final ∧
      Silences n (r.solve choice).log (r'.solve choice).log := by
  rw [solve, solve, h.check]
  cases hcheck : r.check with
  | error e => exact ⟨rfl, rfl, rfl, .nil⟩
  | ok admitted =>
    obtain ⟨m, cs⟩ := admitted
    obtain ⟨hlength, -⟩ := length_of_check hcheck
    obtain rfl := Option.some.inj (hlength.symm.trans hn)
    cases choice.resolve with
    | error e => exact ⟨rfl, rfl, rfl, .nil⟩
    | ok engine =>
      cases hcreate : engine.create 0 m with
      | error e =>
        simp only [hcreate, true_and]
        exact .nil
      | ok state =>
        obtain ⟨hresult, hstate, hlog⟩ := quieter_drive h engine cs ⟨state, [.created 0 m]⟩
        simp only [hcreate, hresult, hstate, true_and]
        exact hlog

/-- Maximize `3x + 2y` with two lower bounds, and no upper bounds where there was one too few. -/
def uncappedRequest : Request := { retriedRequest with upperBounds := .null }

/-- The engine of the catalogue that names its columns, over backends that find no point. -/
def pointlessEngine : EngineChoice (LoadedProblem (Unit × List (SplitModel ⊕ NamedModel))) :=
  .named (pointlessBackends.noting.catalogue .exact ((), [])) (.ofString "cbc")

/-- A single upper bound for two variables is left out: both solves fail alike after two runs, and
the one entry of the log that tells of it goes missing. -/
theorem solve_leavesOut_uncapped :
    retriedRequest.objective.length? = some 2 ∧ LeavesOut 2 retriedRequest uncappedRequest ∧
      (uncappedRequest.solve pointlessEngine).result =
        (retriedRequest.solve pointlessEngine).result ∧
      (uncappedRequest.solve pointlessEngine).events =
        (retriedRequest.solve pointlessEngine).events ∧
      (uncappedRequest.solve pointlessEngine).final =
        (retriedRequest.solve pointlessEngine).final ∧
      (retriedRequest.solve pointlessEngine).log.length =
        (uncappedRequest.solve pointlessEngine).log.length + 1 := by
  have hlength : retriedRequest.objective.length? = some 2 := rfl
  have hleavesOut : LeavesOut 2 retriedRequest uncappedRequest :=
    ⟨rfl, rfl, rfl, .same _, .none rfl (by decide), .same _⟩
  obtain ⟨hresult, hevents, hfinal, -⟩ := solve_leavesOut hlength hleavesOut pointlessEngine
  exact ⟨hlength, hleavesOut, hresult, hevents, hfinal, by decide +kernel⟩

end Request

end LinearPrograms
