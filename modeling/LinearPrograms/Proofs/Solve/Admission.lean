import LinearPrograms.Engine.Catalogue
import LinearPrograms.Proofs.Action.Computation
import LinearPrograms.Solve

/-!
# Requests that are admitted

A solve checks a request before it creates a problem: the objective has an entry, and every entry of
the list of constraints is a constraint with as many coefficients. The first complaint ends the
solve, and so does the name of an engine that no table lists; in these cases no engine receives a
call. A request that is admitted is driven through a session (`solve_eq_drive`).
-/

namespace LinearPrograms

/-- Does an entry count as a constraint on `n` variables? -/
def Entry.Fits (n : Nat) : Entry → Prop
  | .constraint c => c.body.length = n
  | .other _ => False

/-- The complaint about an entry that does not fit. -/
def Entry.complaint (i n : Nat) : Entry → InputFault
  | .constraint c => .bodyLength i c.body.length n
  | .other d => .notConstraint i d.kindName

namespace Request

variable {σ : Type} {r : Request} {choice : EngineChoice σ}

theorem checkEntry_of_fits {n i : Nat} {e : Entry} (h : e.Fits n) :
    ∃ c, checkEntry n (e, i) = .ok c := by
  cases e with
  | constraint c => exact ⟨c, if_pos h⟩
  | other d => exact h.elim

theorem checkEntry_of_not_fits {n i : Nat} {e : Entry} (h : ¬e.Fits n) :
    checkEntry n (e, i) = .error (.input (e.complaint i n)) := by
  cases e with
  | constraint c => exact if_neg h
  | other d => rfl

/-- The first entry that does not fit decides the fault. -/
theorem checkEntries_of_not_fits {n : Nat} {e : Entry} (he : ¬e.Fits n) :
    ∀ {es : List Entry} {i : Nat} (k : Nat), es[i]? = some e →
      (∀ j < i, ∀ e', es[j]? = some e' → e'.Fits n) →
      (es.zipIdx k).mapM (checkEntry n) = .error (.input (e.complaint (k + i) n))
  | [], i, k, hi, _ => by simp at hi
  | e' :: es, 0, k, hi, _ => by
    obtain rfl : e' = e := by simpa using hi
    rw [List.zipIdx_cons, List.mapM_cons, checkEntry_of_not_fits he]
    rfl
  | e' :: es, i + 1, k, hi, hbefore => by
    obtain ⟨c, hc⟩ := checkEntry_of_fits (i := k) (hbefore 0 i.succ_pos e' rfl)
    have hnext : es[i]? = some e := hi
    have ih := checkEntries_of_not_fits he (k + 1) hnext
      fun j hj => hbefore (j + 1) (Nat.succ_lt_succ hj)
    rw [List.zipIdx_cons, List.mapM_cons, hc, ih, Nat.add_right_comm, Nat.add_assoc]
    rfl

theorem fits_of_checkEntries {n : Nat} {es : List Entry} {cs : List Constraint}
    (h : es.zipIdx.mapM (checkEntry n) = .ok cs) : ∀ e ∈ es, e.Fits n := by
  intro e he
  obtain ⟨i, hi⟩ := List.mem_iff_getElem?.1 he
  obtain ⟨c, -, hc⟩ := Computation.exists_of_mem_left (Computation.mapM_eq_ok.1 h) (e, i)
    (List.mem_zipIdx_iff_getElem?.2 hi)
  by_contra hfits
  rw [checkEntry_of_not_fits hfits] at hc
  cases hc

theorem checkEntries_of_length {n : Nat} :
    ∀ (cs : List Constraint) (i : Nat), (∀ k ∈ cs, k.body.length = n) →
      ((cs.map Entry.constraint).zipIdx i).mapM (checkEntry n) = .ok cs
  | [], _, _ => rfl
  | k :: cs, i, hlen => by
    rw [List.map_cons, List.zipIdx_cons, List.mapM_cons, checkEntry, if_pos (hlen k (.head cs)),
      checkEntries_of_length cs (i + 1) fun k' hk' => hlen k' (.tail k hk')]
    rfl

/-! ## The check as a whole -/

/-- A request is checked for as many variables as its objective has entries, and for all of its
constraints. -/
theorem length_of_check {n : Nat} {cs : List Constraint} (h : r.check = .ok (n, cs)) :
    r.objective.length? = some n ∧ cs.length = r.constraints.length := by
  obtain ⟨k, hk, h⟩ := Computation.bind_eq_ok.1 h
  split at h
  · cases h
  · obtain ⟨cs', hcs, h⟩ := Computation.bind_eq_ok.1 h
    cases h
    refine ⟨?_, by rw [Computation.length_mapM hcs, List.length_zipIdx]⟩
    have hlength := Computation.mapError_eq_ok.1 hk
    unfold Document.length at hlength
    split at hlength
    · rename_i j hj
      rw [hj, Except.ok.inj hlength]
    · cases hlength

section
variable {xs : List Document} (hobjective : r.objective = .list xs)
include hobjective

/-- The check of a request whose objective is a list. -/
theorem check_list :
    r.check = if xs.length = 0 then .error (.input .emptyObjective)
      else (r.constraints.zipIdx.mapM (checkEntry xs.length)).map fun cs => (xs.length, cs) := by
  have hn : (Document.list xs).length = .ok xs.length := rfl
  unfold check
  rw [hobjective, hn]
  show (if xs.length = 0 then _ else _) = _
  split
  · rfl
  · cases r.constraints.zipIdx.mapM (checkEntry xs.length) <;> rfl

theorem check_of_not_fits (hne : xs ≠ []) {i : Nat} {e : Entry} (hi : r.constraints[i]? = some e)
    (he : ¬e.Fits xs.length)
    (hbefore : ∀ j < i, ∀ e', r.constraints[j]? = some e' → e'.Fits xs.length) :
    r.check = .error (.input (e.complaint i xs.length)) := by
  have h := checkEntries_of_not_fits he 0 hi hbefore
  rw [check_list hobjective, if_neg (mt List.length_eq_zero_iff.1 hne), h, Nat.zero_add]
  rfl

theorem check_of_length {n : Nat} (hn : xs.length = n) (hne : n ≠ 0) {cs : List Constraint}
    (hconstraints : r.constraints = cs.map .constraint)
    (hlen : ∀ k ∈ cs, k.body.length = n) : r.check = .ok (n, cs) := by
  subst hn
  rw [check_list hobjective, if_neg hne, hconstraints, checkEntries_of_length cs 0 hlen]
  rfl

end

/-! ## From the check to the session -/

theorem solve_of_refused {e : Fault} (h : r.check = .error e) (choice : EngineChoice σ) :
    r.solve choice = { result := .error e } := by
  rw [solve, h]

/-- A name that no entry of the table has is refused. -/
theorem resolve_of_unknown {table : List (String × Engine σ)} {t : Text}
    (h : ∀ entry ∈ table, Text.ofString entry.1 ≠ t) :
    (EngineChoice.named table (.text t)).resolve = .error (.unknownEngine (.text t)) := by
  have hfind : (table.find? fun entry => Text.ofString entry.1 = t) = none := by
    rw [List.find?_eq_none]
    intro entry hentry
    simpa using h entry hentry
  simp only [EngineChoice.resolve, Document.asKey, hfind]

theorem resolve_highs {β : Type} (backends : Backends β) (round : Rounding) (initial : β) :
    (EngineChoice.named (backends.catalogue round initial) (.ofString "highs")).resolve =
      .ok (.ofRunner (SplitModel.runner round backends.split) initial) := by
  have hne : Text.ofString "cbc" ≠ Text.ofString "highs" := by decide
  simp [EngineChoice.resolve, Document.ofString, Document.asKey, Backends.catalogue, hne]

theorem resolve_cbc {β : Type} (backends : Backends β) (round : Rounding) (initial : β) :
    (EngineChoice.named (backends.catalogue round initial) (.ofString "cbc")).resolve =
      .ok (.ofRunner (NamedModel.runner round backends.named) initial) := by
  simp [EngineChoice.resolve, Document.ofString, Document.asKey, Backends.catalogue]

theorem solve_of_unresolved {n : Nat} {cs : List Constraint} {e : Fault}
    (hcheck : r.check = .ok (n, cs)) (hresolve : choice.resolve = .error e) :
    r.solve choice = { result := .error e } := by
  rw [solve, hcheck]
  simp only [hresolve]

theorem create_ofRunner {β : Type} (runner : Runner β) (initial : β) (n : Nat) :
    (Engine.ofRunner runner initial).create 0 n =
      .ok { formulation := .ofSize 0 n, backend := initial } := by
  have h : ¬(n : Int) < 0 := by omega
  simp [Engine.ofRunner, LoadedProblem.create, h]

/-- The solve of an admitted request is what a session on a new problem comes to. -/
theorem solve_eq_drive {n : Nat} {cs : List Constraint} {engine : Engine σ} {state : σ}
    (hcheck : r.check = .ok (n, cs)) (hresolve : choice.resolve = .ok engine)
    (hcreate : engine.create 0 n = .ok state) :
    r.solve choice =
      { result := (drive engine r n cs ⟨state, [.created 0 n]⟩).result
        events := (drive engine r n cs ⟨state, [.created 0 n]⟩).state.events
        final := some (drive engine r n cs ⟨state, [.created 0 n]⟩).state.state
        log := (drive engine r n cs ⟨state, [.created 0 n]⟩).log } := by
  rw [solve, hcheck]
  simp only [hresolve, hcreate]

end Request

end LinearPrograms
