import LinearPrograms.Fault
import Mathlib.Data.List.Forall2

/-!
# Computations that may fail

When the ways of putting computations together succeed: a sequence if each step does (`bind_eq_ok`),
a list of computations if each one does (`mapM_eq_ok`), and another name for the fault changes no
result (`mapError_eq_ok`).

`FailsIn P x` says which faults a computation may have. `Fault.IsUnsolved` singles out the fault by
which a solve reports that the engine left no solution, and `Clean x` says that a computation never
fails that way. Every part of a solve but its last step is clean, which is why that fault can be
traced to the engine.
-/

namespace LinearPrograms

namespace Computation

variable {ε ε' α β : Type}

theorem bind_eq_ok {x : Except ε α} {f : α → Except ε β} {b : β} :
    (x >>= f) = .ok b ↔ ∃ a, x = .ok a ∧ f a = .ok b := by
  cases x <;> simp [bind, Except.bind]

theorem bind_eq_error {x : Except ε α} {f : α → Except ε β} {e : ε} :
    (x >>= f) = .error e ↔ x = .error e ∨ ∃ a, x = .ok a ∧ f a = .error e := by
  cases x <;> simp [bind, Except.bind]

theorem mapError_eq_error {x : Except ε α} {f : ε → ε'} {e : ε'} :
    x.mapError f = .error e ↔ ∃ c, x = .error c ∧ f c = e := by
  cases x <;> simp [Except.mapError]

@[simp] theorem mapError_eq_ok {x : Except ε α} {f : ε → ε'} {a : α} :
    x.mapError f = .ok a ↔ x = .ok a := by
  cases x <;> simp [Except.mapError]

theorem toOption_eq_some {x : Except ε α} {a : α} : x.toOption = some a ↔ x = .ok a := by
  cases x <;> simp [Except.toOption]

theorem elim_eq_ok {found : Option α} {fault : ε} {a : α} :
    found.elim (.error fault) Except.ok = .ok a ↔ found = some a := by
  cases found <;> simp

theorem elim_eq_error {found : Option α} {fault e : ε} :
    found.elim (.error fault) Except.ok = .error e ↔ found = none ∧ fault = e := by
  cases found <;> simp

@[simp] theorem pure_eq_ok {a b : α} : (pure a : Except ε α) = .ok b ↔ a = b := by
  simp [pure, Except.pure]

/-- Every computation of a list succeeds, each with the result at its position. -/
theorem mapM_eq_ok {f : α → Except ε β} :
    ∀ {xs : List α} {ys : List β},
      xs.mapM f = .ok ys ↔ List.Forall₂ (fun x y => f x = .ok y) xs ys
  | [], ys => by
    rw [List.mapM_nil, pure_eq_ok, List.forall₂_nil_left_iff]
    exact eq_comm
  | x :: xs, ys => by
    simp only [List.mapM_cons, bind_eq_ok, pure_eq_ok, mapM_eq_ok, List.forall₂_cons_left_iff]
    constructor
    · rintro ⟨y, hy, zs, hz, rfl⟩
      exact ⟨y, zs, hy, hz, rfl⟩
    · rintro ⟨y, zs, hy, hz, rfl⟩
      exact ⟨y, hy, zs, hz, rfl⟩

/-- A list of computations fails as the first one that does, after others that succeed. -/
theorem mapM_eq_error_iff {f : α → Except ε β} {e : ε} :
    ∀ {xs : List α}, xs.mapM f = .error e ↔ ∃ before x after, xs = before ++ x :: after ∧
      (∀ z ∈ before, ∃ y, f z = .ok y) ∧ f x = .error e
  | [] => by simp [pure, Except.pure]
  | x :: xs => by
    rw [List.mapM_cons, bind_eq_error]
    simp only [bind_eq_error, mapM_eq_error_iff]
    constructor
    · rintro (hx | ⟨y, hy, ⟨before, z, after, rfl, hbefore, hz⟩ | ⟨ys, -, hys⟩⟩)
      · exact ⟨[], x, xs, rfl, by simp, hx⟩
      · exact ⟨x :: before, z, after, rfl, List.forall_mem_cons.2 ⟨⟨y, hy⟩, hbefore⟩, hz⟩
      · cases hys
    · rintro ⟨_ | ⟨x', before⟩, z, after, hxs, hbefore, hz⟩
      · obtain ⟨rfl, rfl⟩ := List.cons.inj hxs
        exact .inl hz
      · obtain ⟨rfl, rfl⟩ := List.cons.inj hxs
        obtain ⟨⟨y, hy⟩, hbefore⟩ := List.forall_mem_cons.1 hbefore
        exact .inr ⟨y, hy, .inl ⟨before, z, after, rfl, hbefore, hz⟩⟩

/-- A list of computations fails as one of them does. -/
theorem mapM_eq_error {f : α → Except ε β} {e : ε} {xs : List α} (h : xs.mapM f = .error e) :
    ∃ x ∈ xs, f x = .error e := by
  obtain ⟨before, x, after, rfl, -, hx⟩ := mapM_eq_error_iff.1 h
  exact ⟨x, List.mem_append_right _ (.head _), hx⟩

theorem length_mapM {f : α → Except ε β} {xs : List α} {ys : List β} (h : xs.mapM f = .ok ys) :
    ys.length = xs.length := (mapM_eq_ok.1 h).length_eq.symm

theorem getElem?_of_forall₂ {R : α → β → Prop} {xs : List α} {ys : List β} {i : Nat} {x : α}
    (h : List.Forall₂ R xs ys) (hx : xs[i]? = some x) : ∃ y, ys[i]? = some y ∧ R x y := by
  induction h generalizing i with
  | nil => simp at hx
  | cons hr _ ih =>
    cases i with
    | zero =>
      obtain rfl := Option.some.inj hx
      exact ⟨_, rfl, hr⟩
    | succ i => exact ih hx

theorem exists_of_mem_left {R : α → β → Prop} :
    ∀ {xs : List α} {ys : List β}, List.Forall₂ R xs ys → ∀ x ∈ xs, ∃ y ∈ ys, R x y
  | _, _, .nil, _, hx => absurd hx List.not_mem_nil
  | _, _, .cons hr h, x, hx => by
    rcases List.mem_cons.1 hx with rfl | hx
    · exact ⟨_, .head _, hr⟩
    · obtain ⟨y, hy, hxy⟩ := exists_of_mem_left h x hx
      exact ⟨y, .tail _ hy, hxy⟩

theorem exists_mapM_eq_ok {f : α → Except ε β} :
    ∀ {xs : List α}, (∀ x ∈ xs, ∃ y, f x = .ok y) → ∃ ys, xs.mapM f = .ok ys
  | [], _ => ⟨[], rfl⟩
  | x :: xs, h => by
    obtain ⟨y, hy⟩ := h x (.head _)
    obtain ⟨ys, hys⟩ := exists_mapM_eq_ok fun z hz => h z (.tail _ hz)
    refine ⟨y :: ys, ?_⟩
    rw [List.mapM_cons, hy, hys]
    rfl

theorem mapM_eq_ok_map {f : α → Except ε β} {g : α → β} {xs : List α}
    (h : ∀ x ∈ xs, f x = .ok (g x)) : xs.mapM f = .ok (xs.map g) := by
  rw [mapM_eq_ok, List.forall₂_map_right_iff, List.forall₂_same]
  exact h

end Computation

/-! ## Which faults a computation has -/

/-- A computation fails, if it does, with a fault in `P`. -/
def FailsIn {α : Type} (P : Fault → Prop) (x : Except Fault α) : Prop := ∀ e, x = .error e → P e

section
variable {α β : Type} {P : Fault → Prop}

theorem failsIn_ok (a : α) : FailsIn P (.ok a : Except Fault α) := fun _ h => by cases h

theorem failsIn_error {e : Fault} : FailsIn P (.error e : Except Fault α) ↔ P e :=
  ⟨fun h => h e rfl, fun h _ he => by cases he; exact h⟩

theorem failsIn_bind {x : Except Fault α} {f : α → Except Fault β} (hx : FailsIn P x)
    (hf : ∀ a, FailsIn P (f a)) : FailsIn P (x >>= f) := by
  cases x with
  | ok a => exact hf a
  | error e => intro e' h; cases h; exact hx e rfl

theorem failsIn_map {x : Except Fault α} (f : α → β) (hx : FailsIn P x) :
    FailsIn P (x.map f) := by
  cases x with
  | ok a => exact failsIn_ok (f a)
  | error e => intro e' h; cases h; exact hx e rfl

theorem failsIn_mapM {f : α → Except Fault β} {xs : List α} (hf : ∀ a ∈ xs, FailsIn P (f a)) :
    FailsIn P (xs.mapM f) := by
  intro e he
  obtain ⟨x, hx, hfx⟩ := Computation.mapM_eq_error he
  exact hf x hx e hfx

theorem FailsIn.mono {Q : Fault → Prop} {x : Except Fault α} (hx : FailsIn P x)
    (h : ∀ e, P e → Q e) : FailsIn Q x := fun e he => h e (hx e he)

end

/-! ## Faults that are not the engine's verdict -/

/-- Does the fault say that the engine left no solution? -/
def Fault.IsUnsolved : Fault → Prop
  | .unsolved _ _ => True
  | _ => False

/-- A computation that never fails for want of a solution. -/
def Clean {α : Type} (x : Except Fault α) : Prop := ∀ e, x = .error e → ¬e.IsUnsolved

section
variable {α β : Type}

@[simp] theorem clean_ok (a : α) : Clean (.ok a : Except Fault α) := failsIn_ok a

@[simp] theorem clean_pure (a : α) : Clean (pure a : Except Fault α) := clean_ok a

@[simp] theorem clean_error {e : Fault} : Clean (.error e : Except Fault α) ↔ ¬e.IsUnsolved :=
  failsIn_error

@[simp] theorem clean_throw {e : Fault} : Clean (throw e : Except Fault α) ↔ ¬e.IsUnsolved :=
  clean_error

theorem clean_bind {x : Except Fault α} {f : α → Except Fault β} (hx : Clean x)
    (hf : ∀ a, Clean (f a)) : Clean (x >>= f) := failsIn_bind hx hf

@[simp] theorem clean_conversion (x : Except ConversionFault α) :
    Clean (x.mapError Fault.conversion) := by
  cases x <;> simp [Except.mapError, Fault.IsUnsolved]

@[simp] theorem clean_shape (x : Except ShapeFault α) : Clean (x.mapError Fault.shape) := by
  cases x <;> simp [Except.mapError, Fault.IsUnsolved]

end

end LinearPrograms
