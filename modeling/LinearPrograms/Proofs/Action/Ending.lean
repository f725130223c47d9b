import LinearPrograms.Action

/-!
# How actions end

`Action.Ends x s Q E`: from the state `s`, the action `x` ends with a result and a state in `Q`, or
with a fault and a state in `E`. There is one equivalence for each way of building an action, so a
statement about a long action is taken apart along its steps (`ends_bind`), and `Ends.mono` joins
the parts again. `Ends.ok` and `Ends.error` read a statement off a known reply.
-/

namespace LinearPrograms

namespace Action

variable {σ τ α β : Type}

/-- From the state `s`, the action ends with a result in `Q` or with a fault in `E`. -/
def Ends (x : Action σ α) (s : σ) (Q : α → σ → Prop) (E : Fault → σ → Prop) : Prop :=
  match (x s).result with
  | .ok a => Q a (x s).state
  | .error e => E e (x s).state

variable {Q Q' : α → σ → Prop} {E E' : Fault → σ → Prop} {s : σ}

theorem Ends.mono {x : Action σ α} (h : x.Ends s Q E) (hq : ∀ a t, Q a t → Q' a t)
    (he : ∀ e t, E e t → E' e t) : x.Ends s Q' E' := by
  unfold Ends at *
  split at h
  · exact hq _ _ h
  · exact he _ _ h

theorem ends_of_forall {x : Action σ α} (hq : ∀ a t, Q a t) (he : ∀ e t, E e t) :
    x.Ends s Q E := by
  unfold Ends
  split
  · exact hq _ _
  · exact he _ _

theorem Ends.imp {x : Action σ α} (h : x.Ends s Q E) (hq : ∀ a t, Q a t → Q' a t) :
    x.Ends s Q' E := h.mono hq fun _ _ he => he

theorem Ends.weaken {x : Action σ α} (h : x.Ends s Q E) (he : ∀ e t, E e t → E' e t) :
    x.Ends s Q E' := h.mono (fun _ _ hq => hq) he

theorem Ends.ok {x : Action σ α} {a : α} (h : x.Ends s Q E) (hx : (x s).result = .ok a) :
    Q a (x s).state := by
  unfold Ends at h
  rwa [hx] at h

theorem Ends.error {x : Action σ α} {e : Fault} (h : x.Ends s Q E)
    (hx : (x s).result = .error e) : E e (x s).state := by
  unfold Ends at h
  rwa [hx] at h

/-- What follows a reading begins with the state that was read. -/
theorem read_bind (f : σ → Action σ α) (s : σ) : (read >>= f) s = f s s := rfl

/-- An action whose reply is known ends with it. -/
theorem ends_of_ok {x : Action σ α} {a : α} {t : σ} {log : List LogEntry}
    (h : x s = ⟨.ok a, t, log⟩) : x.Ends s Q E ↔ Q a t := by
  simp only [Ends, h]

/-- A statement about the state alone holds however an action ends. -/
theorem Ends.state {x : Action σ α} {P : σ → Prop} (h : x.Ends s (fun _ => P) fun _ => P) :
    P (x s).state := by
  unfold Ends at h
  split at h
  · exact h
  · exact h

theorem ends_state (x : Action σ α) (s : σ) :
    x.Ends s (fun _ t => t = (x s).state) fun _ t => t = (x s).state := by
  unfold Ends
  split <;> rfl

/-- The result that an action ends with is that of its reply. -/
theorem ends_reply (x : Action σ α) (s : σ) :
    x.Ends s (fun a _ => (x s).result = .ok a) fun _ _ => True := by
  unfold Ends
  split
  · assumption
  · exact trivial

/-- An action that cannot end with a fault ends with a result. -/
theorem Ends.exists_result {x : Action σ α} (h : x.Ends s Q fun _ _ => False) :
    ∃ a, (x s).result = .ok a ∧ Q a (x s).state := by
  unfold Ends at h
  split at h
  · exact ⟨_, ‹_›, h⟩
  · exact h.elim

/-- The result and the state that an action ends with are those of its reply. -/
theorem Ends.and_reply {x : Action σ α} (h : x.Ends s Q E) :
    x.Ends s (fun a t => (∃ log, x s = ⟨.ok a, t, log⟩) ∧ Q a t) E := by
  unfold Ends at *
  rcases hx : x s with ⟨a | e, t, log⟩
  · rw [hx] at h
    exact h
  · rw [hx] at h
    exact ⟨⟨log, rfl⟩, h⟩

/-! ## One equivalence per way of building an action -/

@[simp] theorem ends_give (a : α) : (give a : Action σ α).Ends s Q E ↔ Q a s := Iff.rfl

@[simp] theorem ends_pure (a : α) : (pure a : Action σ α).Ends s Q E ↔ Q a s := Iff.rfl

/-- The steps of an action are taken one after the other. -/
@[simp] theorem ends_bind {x : Action σ α} {f : α → Action σ β} {Q : β → σ → Prop} :
    (x >>= f).Ends s Q E ↔ x.Ends s (fun a t => (f a).Ends t Q E) E := by
  rcases h : x s with ⟨r, t, log⟩
  cases r with
  | ok a => simp only [Ends, bind_eq_of_ok h, h]
  | error e => simp only [Ends, bind_eq_of_error h, h]

/-- A second step goes on from where the first one ended. -/
theorem Ends.bind {x : Action σ α} {f : α → Action σ β} {Q' : β → σ → Prop} (h : x.Ends s Q E)
    (hf : ∀ a t, Q a t → (f a).Ends t Q' E) : (x >>= f).Ends s Q' E := ends_bind.2 (h.imp hf)

/-- Of an action that may end anyhow, what holds is what a second step makes hold. -/
theorem ends_bind_of_forall {x : Action σ α} {f : α → Action σ β} {Q : β → σ → Prop}
    (h : ∀ a t, (f a).Ends t Q fun _ _ => True) : (x >>= f).Ends s Q fun _ _ => True :=
  ends_bind.2 (ends_of_forall h fun _ _ => trivial)

@[simp] theorem ends_fail (e : Fault) : (fail e : Action σ α).Ends s Q E ↔ E e s := Iff.rfl

@[simp] theorem ends_ofExcept (x : Except Fault α) :
    (ofExcept x : Action σ α).Ends s Q E ↔
      (∀ a, x = .ok a → Q a s) ∧ ∀ e, x = .error e → E e s := by
  cases x <;> simp [Ends, ofExcept]

@[simp] theorem ends_read {Q : σ → σ → Prop} : (read : Action σ σ).Ends s Q E ↔ Q s s := Iff.rfl

@[simp] theorem ends_change (f : σ → σ) {Q : Unit → σ → Prop} :
    (change f).Ends s Q E ↔ Q () (f s) := Iff.rfl

@[simp] theorem ends_write (entry : LogEntry) {Q : Unit → σ → Prop} :
    (write entry : Action σ Unit).Ends s Q E ↔ Q () s := Iff.rfl

/-- An action on a part changes that part only. -/
@[simp] theorem ends_onPart {get : τ → σ} {put : σ → τ → τ} {x : Action σ α} {t : τ}
    {Q : α → τ → Prop} {E : Fault → τ → Prop} :
    (onPart get put x).Ends t Q E ↔
      x.Ends (get t) (fun a u => Q a (put u t)) (fun e u => E e (put u t)) := Iff.rfl

/-- An optional step is taken or nothing happens. -/
theorem ends_ite {c : Prop} [Decidable c] {x y : Action σ α} :
    (if c then x else y).Ends s Q E ↔ (c → x.Ends s Q E) ∧ (¬c → y.Ends s Q E) := by
  by_cases h : c <;> simp [h]

/-- A step that is taken or left out leads to what the rest relies on either way. -/
theorem ends_optional {P : σ → Prop} {c : Prop} [Decidable c] {x : Action σ Unit}
    {k : Unit → Action σ α} (hs : ¬c → P s) (hx : c → x.Ends s (fun _ t => P t) E)
    (hk : ∀ u t, P t → (k u).Ends t Q E) : (if c then x >>= k else k ()).Ends s Q E := by
  rw [ends_ite]
  exact ⟨fun hc => (hx hc).bind hk, fun hc => hk () s (hs hc)⟩

/-- The last step is taken however the first action ends, and its own fault counts. -/
@[simp] theorem ends_finallyDo {x : Action σ α} {last : Action σ Unit} :
    (finallyDo x last).Ends s Q E ↔
      x.Ends s (fun a t => last.Ends t (fun _ u => Q a u) E)
        fun e t => last.Ends t (fun _ u => E e u) E := by
  simp only [Ends, finallyDo]
  cases (x s).result <;> cases (last (x s).state).result <;> exact Iff.rfl

/-- Steps that only read come to a computation. -/
theorem bind_of_reads {x : Action σ α} {f : α → Action σ β} {y : Except Fault α}
    {g : α → Except Fault β} (hx : x s = ⟨y, s, []⟩) (hf : ∀ a, f a s = ⟨g a, s, []⟩) :
    (x >>= f) s = ⟨y >>= g, s, []⟩ := by
  cases y with
  | error e => exact bind_eq_of_error hx
  | ok a =>
    rw [bind_eq_of_ok hx, hf a]
    rfl

/-- After a last step that cannot fail, the first action's answer stands. -/
theorem result_finallyDo {x : Action σ α} {last : Action σ Unit}
    (h : ∀ t, (last t).result = .ok ()) (s : σ) : (finallyDo x last s).result = (x s).result := by
  simp only [finallyDo, h]

end Action

end LinearPrograms
