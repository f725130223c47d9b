import LinearPrograms.Action
import LinearPrograms.Proofs.Action.Computation

/-!
# Computations that go alike

`Computation.Alike R x y`: the computations `x` and `y` fail with the same fault, or both succeed
with results in `R`. `Action.Alike R x y` says so of two actions from whatever states they start.
Both are kept by putting computations one after the other (`Alike.bind`), so two runs of one program
on related inputs are compared step by step.
-/

namespace LinearPrograms

namespace Computation

variable {ε α α' β β' : Type} {R : α → β → Prop} {S : α' → β' → Prop}

/-- The computations fail with the same fault, or succeed with related results. -/
def Alike (R : α → β → Prop) : Except ε α → Except ε β → Prop
  | .ok a, .ok b => R a b
  | .error e, .error e' => e = e'
  | _, _ => False

theorem alike_iff {x : Except ε α} {y : Except ε β} :
    Alike R x y ↔ (∃ e, x = .error e ∧ y = .error e) ∨ ∃ a b, x = .ok a ∧ y = .ok b ∧ R a b := by
  cases x <;> cases y <;> simp [Alike, eq_comm]

/-- A computation goes like itself. -/
theorem alike_self (x : Except ε α) : Alike (fun a b => a = b ∧ x = .ok a) x x := by
  cases x with
  | ok a => exact ⟨rfl, rfl⟩
  | error e => exact rfl

theorem Alike.imp {R' : α → β → Prop} {x : Except ε α} {y : Except ε β} (h : Alike R x y)
    (hr : ∀ a b, R a b → R' a b) : Alike R' x y := by
  rcases alike_iff.1 h with ⟨e, rfl, rfl⟩ | ⟨a, b, rfl, rfl, hab⟩
  · exact rfl
  · exact hr a b hab

theorem Alike.bind {x : Except ε α} {y : Except ε β} {f : α → Except ε α'} {g : β → Except ε β'}
    (h : Alike R x y) (hf : ∀ a b, R a b → Alike S (f a) (g b)) : Alike S (x >>= f) (y >>= g) := by
  rcases alike_iff.1 h with ⟨e, rfl, rfl⟩ | ⟨a, b, rfl, rfl, hab⟩
  · exact rfl
  · exact hf a b hab

/-- A first step that is taken in both. -/
theorem alike_bind_self {x : Except ε α} {f : α → Except ε α'} {g : α → Except ε β'}
    (hf : ∀ a, x = .ok a → Alike S (f a) (g a)) : Alike S (x >>= f) (x >>= g) :=
  (alike_self x).bind fun a _ ⟨hab, ha⟩ => hab ▸ hf a ha

end Computation

namespace Action

variable {σ τ α α' β β' : Type} {R : α → β → Prop} {S : α' → β' → Prop}

/-- Whatever the states, the actions fail with the same fault, or succeed with related results. -/
def Alike (R : α → β → Prop) (x : Action σ α) (y : Action τ β) : Prop :=
  ∀ s t, Computation.Alike R (x s).result (y t).result

theorem result_bind_of_ok {x : Action σ α} {f : α → Action σ α'} {s : σ} {a : α}
    (h : (x s).result = .ok a) : ((x >>= f) s).result = (f a (x s).state).result := by
  rcases hx : x s with ⟨r, t, log⟩
  rw [hx] at h
  obtain rfl : r = .ok a := h
  rw [bind_eq_of_ok hx]

theorem result_bind_of_error {x : Action σ α} {f : α → Action σ α'} {s : σ} {e : Fault}
    (h : (x s).result = .error e) : ((x >>= f) s).result = .error e := by
  rcases hx : x s with ⟨r, t, log⟩
  rw [hx] at h
  obtain rfl : r = .error e := h
  rw [bind_eq_of_error hx]

/-- A second step of both decides, if it is taken. -/
theorem alike_result_bind {x : Action σ α} {y : Action τ β} {f : α → Action σ α'}
    {g : β → Action τ β'} {s : σ} {t : τ} (h : Computation.Alike R (x s).result (y t).result)
    (hf : ∀ a b, R a b → Alike S (f a) (g b)) :
    Computation.Alike S ((x >>= f) s).result ((y >>= g) t).result := by
  rcases Computation.alike_iff.1 h with ⟨e, hx, hy⟩ | ⟨a, b, hx, hy, hab⟩
  · rw [result_bind_of_error hx, result_bind_of_error hy]
    exact rfl
  · rw [result_bind_of_ok hx, result_bind_of_ok hy]
    exact hf a b hab _ _

theorem Alike.bind {x : Action σ α} {y : Action τ β} {f : α → Action σ α'} {g : β → Action τ β'}
    (h : Alike R x y) (hf : ∀ a b, R a b → Alike S (f a) (g b)) : Alike S (x >>= f) (y >>= g) :=
  fun s t => alike_result_bind (h s t) hf

theorem alike_pure {a : α} {b : β} (h : R a b) :
    Alike R (pure a : Action σ α) (pure b : Action τ β) :=
  fun _ _ => h

theorem alike_fail (e : Fault) : Alike R (fail e : Action σ α) (fail e : Action τ β) :=
  fun _ _ => rfl

theorem alike_ofExcept {x : Except Fault α} {y : Except Fault β} (h : Computation.Alike R x y) :
    Alike R (ofExcept x : Action σ α) (ofExcept y : Action τ β) := fun _ _ => h

/-- Entries of the log do not show in a result. -/
theorem alike_write (entry entry' : LogEntry) :
    Alike (fun _ _ => True) (write entry : Action σ Unit) (write entry' : Action τ Unit) :=
  fun _ _ => trivial

end Action

end LinearPrograms
