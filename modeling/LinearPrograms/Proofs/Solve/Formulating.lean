import LinearPrograms.Proofs.Solve.Feasible

/-!
# Formulating a request

`Session.Holds S s` says that the problem of a session is not released and that its formulation is
in `S`. An edit moves a session along the edit's effect (`Session.ends_edit`), an edit for each
column moves it through a chain of such properties (`ends_editEach`), and so the steps of a
formulation end in one that states the request (`ends_formulate`). None of these steps fails for
want of a solution.

What follows, one attempt or two with an edit between them, is taken apart once
(`ends_run_of_attempts`).
-/

namespace LinearPrograms

namespace Formulation

open LinearPrograms.Computation

variable {f : Formulation}

theorem clean_unpadded (row : Document) : Clean (f.unpadded row) :=
  clean_bind (Tensor.clean_ofDocument row) fun _ => clean_shape _

theorem clean_position (column : Document) : Clean (f.position column) := by
  unfold position
  refine clean_bind (clean_conversion _) fun b => ?_
  dsimp only
  split
  · refine clean_bind (clean_conversion _) fun below => ?_
    split
    · exact clean_error.2 id
    · split
      · exact clean_throw.2 id
      · exact clean_bind (clean_conversion _) fun _ => clean_pure _
  · exact clean_error.2 id

theorem clean_verbosityLevel (level : Document) : Clean (verbosityLevel level) := by
  unfold verbosityLevel
  refine clean_bind (clean_conversion _) fun low => ?_
  dsimp only
  split
  · refine clean_bind (clean_conversion _) fun high => ?_
    split
    · exact clean_pure _
    · exact clean_throw.2 id
  · exact clean_throw.2 id

theorem clean_addConstraint (row relation rhs : Document) :
    Clean (f.addConstraint row relation rhs).1 := by
  unfold addConstraint
  split
  · rename_i e he
    unfold relationOf at he
    cases hr : Relation.all.find? fun r => relation.isInteger r.code with
    | none =>
      rw [hr] at he
      cases he
      exact clean_error.2 id
    | some r =>
      rw [hr] at he
      cases he
  · split
    · rename_i e he
      exact clean_error.2 (clean_unpadded row e he)
    · dsimp only
      split
      · exact clean_error.2 id
      · exact clean_ok _

theorem clean_revised (e : Edit) : Clean (f.revised e) := by
  cases e with
  | verbosity level => exact clean_bind (clean_verbosityLevel level) fun _ => clean_pure _
  | maximize => exact clean_ok _
  | minimize => exact clean_ok _
  | objective row => exact clean_bind (clean_unpadded row) fun _ => clean_pure _
  | lower column value =>
    exact clean_bind (clean_conversion _) fun _ => clean_bind (clean_position column) fun _ =>
      clean_pure _
  | upper column value =>
    exact clean_bind (clean_conversion _) fun _ => clean_bind (clean_position column) fun _ =>
      clean_pure _
  | integer column flag => exact clean_bind (clean_position column) fun _ => clean_pure _
  | scaling mode => exact clean_bind (clean_conversion _) fun _ => clean_pure _
  | constraint row relation rhs => exact clean_ok _

/-- No edit fails for want of a solution. -/
theorem clean_edit (e : Edit) : Clean (f.edit e).1 := by
  unfold edit
  split
  · exact clean_addConstraint _ _ _
  · split
    · exact clean_ok _
    · exact clean_error.2 (clean_revised e _ ‹_›)

end Formulation

namespace Session

variable {β : Type} {runner : Runner β} {initial : β}

/-- The problem of the session is not released, and its formulation is in `S`. -/
def Holds (S : Formulation → Prop) (s : Session (LoadedProblem β)) : Prop :=
  s.state.released = false ∧ S s.state.formulation

section
variable {σ α : Type} {x : Action σ α} {s : Session σ} {Q : α → Session σ → Prop}
  {E : Fault → Session σ → Prop}

@[simp] theorem ends_ask :
    (ask x).Ends s Q E ↔ x.Ends s.state (fun a t => Q a { s with state := t })
      fun e t => E e { s with state := t } := Iff.rfl

/-- What only reads the problem only reads the session. -/
theorem reads_ask {Q : α → Prop} (h : x.Reads s.state Q) : (ask x).Reads s Q := by
  refine ends_ask.2 (Action.Ends.mono h ?_ ?_)
  · rintro a t ⟨rfl, ha⟩
    exact ⟨rfl, ha⟩
  · rintro e t ⟨rfl, he⟩
    exact ⟨rfl, he⟩

theorem ends_call {engine : Engine σ} {event : Event} {Q : event.Answer → Session σ → Prop} :
    (call engine event).Ends s Q E ↔
      (engine.answer event).Ends s.state (fun a t => Q a ⟨t, s.events ++ [event]⟩)
        fun e t => E e ⟨t, s.events ++ [event]⟩ := by
  simp only [call, Action.ends_bind, Action.ends_change, ends_ask]

end

/-- An edit that succeeds has its effect on the formulation of a session. -/
theorem ends_edit {S T : Formulation → Prop} {e : Edit} {s : Session (LoadedProblem β)}
    (hs : s.Holds S) (h : ∀ f g, S f → e.Effect f g → T g) :
    (edit (.ofRunner runner initial) e).Ends s (fun _ t => t.Holds T) Action.Other := by
  obtain ⟨hreleased, hS⟩ := hs
  rw [edit, ends_call, Action.Ends,
    show (Engine.ofRunner runner initial).answer (.edited e) s.state = _ from
      LoadedProblem.edit_of_alive hreleased e]
  dsimp only
  cases he : (s.state.formulation.edit e).1 with
  | ok u => exact ⟨hreleased, h _ _ hS (Formulation.effect_of_edit (Prod.ext he rfl))⟩
  | error fault => exact Formulation.clean_edit e fault he

end Session

namespace Request

variable {β : Type} {runner : Runner β} {initial : β}

/-- Only texts and lists have parts: their characters and their items. -/
theorem part_eq_ok {d v : Document} {i : Nat} :
    part d i = .ok v ↔ (∃ xs, d = .list xs ∧ xs[i]? = some v) ∨
      ∃ t p, d = .text t ∧ t.pieces[i]? = some p ∧ v = .text p := by
  cases d with
  | list xs => cases h : xs[i]? <;> simp [part, h]
  | text t => cases h : t.pieces[i]? <;> simp [part, h, eq_comm]
  | null | bool _ | int _ | float _ | object _ => simp [part]

theorem part_list_eq_ok {xs : List Document} {v : Document} {i : Nat} :
    part (.list xs) i = .ok v ↔ xs[i]? = some v := by
  simp [part_eq_ok]

theorem clean_part (d : Document) (i : Nat) : Clean (part d i) := by
  unfold part
  split
  · cases (_ : Text).pieces[i]? with
    | none => exact clean_error.2 id
    | some t => exact clean_ok _
  · cases (_ : List Document)[i]? with
    | none => exact clean_error.2 id
    | some t => exact clean_ok _
  · exact clean_error.2 id

/-- An edit for each position takes a session through a chain of properties. -/
theorem ends_editEach {σ : Type} {engine : Engine σ} {d : Document}
    {toEdit : Document → Document → Edit} {n : Nat} {S : Nat → Session σ → Prop}
    {E : Fault → Session σ → Prop}
    (hpart : ∀ k < n, ∀ s e, S k s → part d k = .error e → E e s)
    (hstep : ∀ k < n, ∀ s v, part d k = .ok v → S k s →
      (Session.edit engine (toEdit (.int (k + 1)) v)).Ends s (fun _ t => S (k + 1) t) E) :
    ∀ (count i : Nat) {s : Session σ}, i + count = n → S i s →
      (editEach engine d toEdit count i).Ends s (fun _ t => S n t) E
  | 0, i, s, hi, hs => by
    subst hi
    exact hs
  | count + 1, i, s, hi, hs => by
    have hlt : i < n := by omega
    rw [editEach, Action.ends_bind, Action.ends_ofExcept]
    refine ⟨fun v hv => ?_, fun e => hpart i hlt s e hs⟩
    refine (hstep i hlt s v hv hs).bind fun _ t ht => ?_
    exact ends_editEach hpart hstep count (i + 1) (by omega) ht

theorem hasLength_eq_ok {d : Document} {n : Nat} {b : Bool} (h : hasLength d n = .ok b) :
    b = true ↔ d.isPresent ∧ d.length? = some n := by
  unfold hasLength Document.length at h
  split at h
  · cases hl : d.length? with
    | none =>
      rw [hl] at h
      cases h
    | some k =>
      rw [hl] at h
      obtain rfl : (k == n) = b := Except.ok.inj h
      simp [*]
  · cases h
    simp [*]

theorem clean_hasLength (d : Document) (n : Nat) : Clean (hasLength d n) := by
  unfold hasLength
  split
  · exact clean_conversion _
  · exact clean_ok _

/-- What holds of each column after the edits of the first `k`. -/
def progress {γ : Type} (before : γ) (after : Nat → γ) (k j : Nat) : γ :=
  if j < k then after j else before

theorem progress_succ {γ : Type} {before : γ} {after : Nat → γ} (k j : Nat) :
    (if j = k then after k else progress before after k j) = progress before after (k + 1) j := by
  unfold progress
  by_cases h : j = k
  · rw [if_pos h, if_pos (by omega), h]
  · rw [if_neg h]
    by_cases h' : j < k
    · rw [if_pos h', if_pos (by omega)]
    · rw [if_neg h', if_neg (by omega)]

/-- Edits of all columns set what the array says, and nothing if it does not count. -/
theorem ends_editColumns {σ γ : Type} {engine : Engine σ} {d : Document}
    {toEdit : Document → Document → Edit} {n : Nat} {S : (Nat → γ) → Session σ → Prop}
    {E : Fault → Session σ → Prop} {before : γ} {set : Document → γ}
    (hlength : ∀ s e, S (fun _ => before) s → hasLength d n = .error e → E e s)
    (hpart : d.length? = some n → ∀ k < n, ∀ a s e, S a s → part d k = .error e → E e s)
    (hset : ∀ k < n, ∀ v a s, counted d n k = some v → S a s →
      (Session.edit engine (toEdit (.int (k + 1)) v)).Ends s
        (fun _ t => S (fun j => if j = k then set v else a j) t) E)
    (hcongr : ∀ a b s, (∀ j < n, a j = b j) → S a s → S b s)
    {s : Session σ} (hs : S (fun _ => before) s) :
    (editColumns engine d n toEdit).Ends s
      (fun _ t => S (fun j => (counted d n j).elim before set) t) E := by
  rw [editColumns, Action.ends_bind, Action.ends_ofExcept]
  refine ⟨fun b hb => ?_, fun e => hlength s e hs⟩
  have hcounts := hasLength_eq_ok hb
  rw [Action.ends_ite]
  constructor
  · intro hb
    have hc := hcounts.1 hb
    -- after `k` edits the columns before `k` are as the array says, the others as they were
    have hstep : ∀ k < n, ∀ s v, part d k = .ok v →
        S (progress before (fun j => (counted d n j).elim before set) k) s →
        (Session.edit engine (toEdit (.int (k + 1)) v)).Ends s (fun _ t =>
          S (progress before (fun j => (counted d n j).elim before set) (k + 1)) t) E := by
      intro k hkn s v hv hs
      have hk : counted d n k = some v := by
        rw [counted, if_pos hc, hv]
        rfl
      refine (hset k hkn v _ s hk hs).imp fun _ t ht => hcongr _ _ t (fun j _ => ?_) ht
      rw [← progress_succ, hk]
      rfl
    have hstart : S (progress before (fun j => (counted d n j).elim before set) 0) s :=
      hcongr _ _ _ (fun j _ => (if_neg (Nat.not_lt_zero j)).symm) hs
    refine (ends_editEach (fun k hk s e => hpart hc.2 k hk _ s e) hstep n 0 (Nat.zero_add n)
      hstart).imp fun _ t ht => ?_
    exact hcongr _ _ t (fun j hj => if_pos hj) ht
  · intro hb
    have hc : ∀ k, counted d n k = none := fun k => if_neg fun h => hb (hcounts.2 h)
    refine hcongr _ _ s (fun j _ => ?_) hs
    rw [hc]
    rfl

/-- A note on the length of an array changes no state. -/
theorem ends_noteLength {σ : Type} {P : Session σ → Prop} {E : Fault → Session σ → Prop}
    {name : String} {d : Document} {n : Nat} {s : Session σ}
    (hlength : ∀ e, d.isPresent = true → d.length = .error e → E (.conversion e) s) (hs : P s) :
    (noteLength name d n).Ends s (fun _ t => P t) E := by
  unfold noteLength
  split
  · rename_i hpresent
    cases h : d.length with
    | error e => exact hlength e hpresent h
    | ok k =>
      show (if k ≠ n then Action.write _ else Action.give () : Action (Session σ) Unit).Ends s _ E
      split
      · exact hs
      · exact hs
  · exact hs

section
variable {c : List Scalar} {low high : Nat → Option Rat} {flag : Nat → Bool}
  {s : Session (LoadedProblem β)}

theorem paddedRow_of_toScalars {entries : List Document} {xs : List Scalar}
    (h : Document.toScalars entries = .ok xs) :
    paddedRow (.list entries) = .ok (.ofScalars (.zero :: xs)) := by
  unfold paddedRow
  rw [Tensor.ofDocument_of_toScalars h]
  show (((Tensor.ofScalars xs).padded.mapError Fault.shape) >>= _) = _
  rw [Tensor.padded_ofScalars]
  rfl

/-- The rows of the constraints follow the rows that are there. -/
theorem ends_addRows :
    ∀ (cs : List Constraint) {done : List Constraint} {s : Session (LoadedProblem β)},
      (∀ k ∈ cs, k.body.length = c.length) →
      s.Holds (fun f => f.States c low high flag done) →
      (addRows (.ofRunner runner initial) cs).Ends s
        (fun _ t => t.Holds fun f => f.States c low high flag (done ++ cs)) Action.Other
  | [], done, s, _, hs => by
    rw [List.append_nil]
    exact hs
  | k :: cs, done, s, hlen, hs => by
    rw [addRows, addRow, show Document.ofScalars k.body = .list (k.body.map .float) from rfl,
      paddedRow_of_toScalars (Document.toScalars_float k.body), Action.ofExcept_ok_bind]
    refine (Session.ends_edit hs fun f g hf he => hf.addConstraint (hlen k (.head cs)) he).bind
      fun _ t ht => ?_
    have ih := ends_addRows cs (fun k' hk' => hlen k' (.tail k hk')) ht
    rwa [List.append_assoc] at ih

/-! ### The steps of a formulation -/

theorem ends_verbosity {n : Nat} (hs : s.Holds fun f => f = .ofSize 0 n) {level : Document} :
    (Session.edit (.ofRunner runner initial) (.verbosity level)).Ends s
      (fun _ t => t.Holds fun f => ∃ v, f = { Formulation.ofSize 0 n with verbosity := v })
      Action.Other := by
  refine Session.ends_edit hs fun f g hf he => ?_
  subst hf
  obtain ⟨v, -, rfl⟩ := he
  exact ⟨v, rfl⟩

/-- A new formulation that maximizes states its defaults. -/
theorem ends_maximize {n : Nat}
    (hs : s.Holds fun f => ∃ v, f = { Formulation.ofSize 0 n with verbosity := v }) :
    (Session.edit (.ofRunner runner initial) .maximize).Ends s
      (fun _ t => t.Holds fun f => f.States (List.replicate n .zero) (fun _ => some 0)
        (fun _ => none) (fun _ => false) []) Action.Other := by
  refine Session.ends_edit hs fun f g ⟨v, hf⟩ he => ?_
  subst hf
  have hwf : ({ Formulation.ofSize 0 n with verbosity := v } : Formulation).WellFormed :=
    { Formulation.wellFormed_ofSize 0 n with }
  have hg := hwf.effect he
  obtain rfl := he
  refine ⟨hg, rfl, rfl, fun j hj => ?_, fun j hj => ?_, fun j hj => ?_, rfl, rfl, rfl⟩
  · have h : (List.replicate n Scalar.zero).getD j .nan = .zero := List.getD_replicate _ hj
    exact congrArg Scalar.bound? h
  · have h : (List.replicate n Scalar.posInf).getD j .nan = .posInf := List.getD_replicate _ hj
    exact congrArg Scalar.bound? h
  · exact List.getD_replicate _ hj

/-- Edits of all columns of a formulation, by their effects. -/
theorem holds_editColumns {γ : Type} {d : Document} {toEdit : Document → Document → Edit} {n : Nat}
    {S : (Nat → γ) → Formulation → Prop} {before : γ} {set : Document → γ}
    (hset : ∀ k v a f g, counted d n k = some v → S a f → (toEdit (.int (k + 1)) v).Effect f g →
      S (fun j => if j = k then set v else a j) g)
    (hcongr : ∀ a b f, (∀ j < n, a j = b j) → S a f → S b f)
    (hs : s.Holds (S fun _ => before)) :
    (editColumns (.ofRunner runner initial) d n toEdit).Ends s
      (fun _ t => t.Holds (S fun j => (counted d n j).elim before set)) Action.Other :=
  ends_editColumns (S := fun a t => t.Holds (S a))
    (fun _ e _ => clean_hasLength d n e) (fun _ k _ _ _ e _ => clean_part d k e)
    (fun k _ v a _ hv hs => Session.ends_edit hs fun f g => hset k v a f g hv)
    (fun a b _ hab ht => ⟨ht.1, hcongr a b _ hab ht.2⟩) hs

theorem ends_lowerBounds {d : Document} {cs : List Constraint}
    (hd : ∀ j v, counted d c.length j = some v → v.number? ≠ some .nan ∧ v.number? ≠ some .posInf)
    (hs : s.Holds fun f => f.States c (fun _ => some 0) high flag cs) :
    (editColumns (.ofRunner runner initial) d c.length .lower).Ends s
      (fun _ t => t.Holds fun f => f.States c (lowerOf d c.length) high flag cs) Action.Other :=
  holds_editColumns (S := fun low f => f.States c low high flag cs)
    (fun k v _ _ _ hv hf he => hf.setLower (hd k v hv) he)
    (fun _ _ _ hab hf => hf.congr hab (fun _ _ => rfl) fun _ _ => rfl) hs

theorem ends_upperBounds {d : Document} {cs : List Constraint}
    (hd : ∀ j v, counted d c.length j = some v → v.number? ≠ some .nan ∧ v.number? ≠ some .negInf)
    (hs : s.Holds fun f => f.States c low (fun _ => none) flag cs) :
    (editColumns (.ofRunner runner initial) d c.length .upper).Ends s
      (fun _ t => t.Holds fun f => f.States c low (upperOf d c.length) flag cs) Action.Other :=
  holds_editColumns (S := fun high f => f.States c low high flag cs)
    (fun k v _ _ _ hv hf he => hf.setUpper (hd k v hv) he)
    (fun _ _ _ hab hf => hf.congr (fun _ _ => rfl) hab fun _ _ => rfl) hs

theorem ends_flags {d : Document} {cs : List Constraint}
    (hs : s.Holds fun f => f.States c low high (fun _ => false) cs) :
    (editColumns (.ofRunner runner initial) d c.length integerEdit).Ends s
      (fun _ t => t.Holds fun f => f.States c low high (flagOf d c.length) cs) Action.Other :=
  holds_editColumns (S := fun flag f => f.States c low high flag cs)
    (fun _ _ _ _ _ _ hf he => hf.setInteger he)
    (fun _ _ _ hab hf => hf.congr (fun _ _ => rfl) (fun _ _ => rfl) hab) hs

/-- A request is formulated as it is stated. -/
theorem ends_formulate {r : Request} {entries : List Document} {cs : List Constraint}
    (hobjective : r.objective = .list entries) (hc : Document.toScalars entries = .ok c)
    (hlen : ∀ k ∈ cs, k.body.length = c.length)
    (hlow : ∀ j v, counted r.lowerBounds c.length j = some v →
      v.number? ≠ some .nan ∧ v.number? ≠ some .posInf)
    (hhigh : ∀ j v, counted r.upperBounds c.length j = some v →
      v.number? ≠ some .nan ∧ v.number? ≠ some .negInf)
    (hs : s.Holds fun f => f = .ofSize 0 c.length) :
    (formulate (.ofRunner runner initial) r c.length cs).Ends s
      (fun _ t => t.Holds fun f => f.Poses r c cs) Action.Other := by
  rw [formulate]
  refine (ends_verbosity hs).bind fun _ s hs => ?_
  refine (ends_maximize hs).bind fun _ s hs => ?_
  rw [hobjective, paddedRow_of_toScalars hc, Action.ofExcept_ok_bind]
  refine (Session.ends_edit hs fun f g hf he =>
    hf.setObjective List.length_replicate.symm he).bind fun _ s hs => ?_
  refine Action.ends_optional (fun _ => hs)
    (fun _ => Session.ends_edit hs fun f g hf he => hf.scaling he) fun _ s hs => ?_
  have hlength : ∀ (e : ConversionFault) (t : Session (LoadedProblem β)),
      Action.Other (.conversion e) t := fun _ _ => id
  refine (ends_noteLength (fun e _ _ => hlength e _) hs).bind fun _ s hs => ?_
  refine (ends_noteLength (fun e _ _ => hlength e _) hs).bind fun _ s hs => ?_
  refine (ends_noteLength (fun e _ _ => hlength e _) hs).bind fun _ s hs => ?_
  refine (ends_lowerBounds hlow hs).bind fun _ s hs => ?_
  refine (ends_upperBounds hhigh hs).bind fun _ s hs => ?_
  refine (ends_flags hs).bind fun _ s hs => ?_
  exact (ends_addRows cs hlen hs).bind fun _ s hs => hs

end

/-! ## The attempts -/

theorem ends_statusText {k : Int} (s : Session (LoadedProblem β)) :
    (Session.ask ((Engine.ofRunner runner initial).statusText (.int k))).Ends s
      (fun text u => text = Text.ofString (Status.textOfCode k) ∧ u = s) E := by
  have htext : (Engine.ofRunner runner initial).statusText (.int k) =
      Action.ofExcept (.ok (Text.ofString (Status.textOfCode k))) := by
    show Action.ofExcept ((Status.textOf (.int k)).mapError Fault.conversion) = _
    rw [Status.textOf_int]
    rfl
  rw [Session.ends_ask, htext]
  exact ⟨rfl, rfl⟩

/-- The attempts end with the first one if its status is usable, and otherwise with a second one
after an edit of the scaling, whose status is reported if it is not usable either. -/
theorem ends_run_of_attempts {s : Session (LoadedProblem β)} {M : Session (LoadedProblem β) → Prop}
    {Q : StatusKind → Session (LoadedProblem β) → Prop}
    (hfirst : (attempt (.ofRunner runner initial)).Ends s
      (fun k u => (k ∈ Status.usableCodes → Q (.ofCode k) u) ∧
        (k ∉ Status.usableCodes →
          (Session.edit (.ofRunner runner initial) (.scaling (.int 0))).Ends u (fun _ => M) E)) E)
    (hsecond : ∀ u, M u → (attempt (.ofRunner runner initial)).Ends u
      (fun k v => (k ∈ Status.usableCodes → Q (.ofCode k) v) ∧
        (k ∉ Status.usableCodes → E (.unsolved k (Status.textOfCode k)) v)) E) :
    (run (.ofRunner runner initial)).Ends s Q E := by
  rw [run]
  refine hfirst.bind fun first u hu => ?_
  rw [Action.ends_ite, Status.usable_ofCode_iff]
  refine ⟨hu.1, fun hunusable => ?_⟩
  refine (ends_statusText u).bind fun text u' hu' => ?_
  obtain ⟨-, rfl⟩ := hu'
  rw [Action.ends_bind, Action.ends_write]
  refine (hu.2 hunusable).bind fun _ u hM => ?_
  refine (hsecond u hM).bind fun second v hv => ?_
  rw [Action.ends_ite, Status.usable_ofCode_iff]
  refine ⟨hv.1, fun hunusable => ?_⟩
  refine (ends_statusText v).bind fun text v' hv' => ?_
  obtain ⟨rfl, rfl⟩ := hv'
  rw [Action.ends_bind, Action.ends_write, Action.ends_fail, Text.toString_ofString]
  exact hv.2 hunusable

end Request

end LinearPrograms
