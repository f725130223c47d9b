import LinearPrograms.Engine.SplitModel
import LinearPrograms.Proofs.Action.Computation
import LinearPrograms.Proofs.Scalar.Exact

/-!
# Rows grouped by their relation

A split model takes the rows of a formulation apart by their relations and puts sensitivities back
into the order of the rows. `select r rs xs` are the entries of `xs` at the rows with the relation
`r`: this is how the model picks rows (`rowsOf_eq_select`) and right-hand sides
(`pick_positions`), and `slot r rs i` is the place of row `i` in it (`getElem?_select`).

`SplitModel.scatter` undoes the selection: the entry of row `i` is the one in the slot of the row in
the list of its relation (`getElem?_scatter`), and a weighted sum over the rows is the sum over the
three selections (`product_scatter`).
-/

namespace LinearPrograms

/-- The entries at the rows with a relation. -/
def select {α : Type} (r : Relation) (rs : List Relation) (xs : List α) : List α :=
  (rs.zip xs).filterMap fun p => if p.1 = r then some p.2 else none

/-- The number of earlier rows with the relation. -/
def slot (r : Relation) (rs : List Relation) (i : Nat) : Nat := (rs.take i).count r

section
variable {α β : Type} {r q : Relation} {rs : List Relation}

@[simp] theorem select_nil (xs : List α) : select r [] xs = [] := rfl

@[simp] theorem select_nil_right : select r rs ([] : List α) = [] := by simp [select]

@[simp] theorem select_cons (x : α) (xs : List α) :
    select r (q :: rs) (x :: xs) = if q = r then x :: select r rs xs else select r rs xs := by
  simp only [select, List.zip_cons_cons, List.filterMap_cons]
  by_cases h : q = r <;> simp [h]

theorem select_map (f : α → β) :
    ∀ (rs : List Relation) (xs : List α), select r rs (xs.map f) = (select r rs xs).map f
  | [], xs => by simp
  | _ :: _, [] => by simp
  | q :: rs, x :: xs => by
    rw [List.map_cons, select_cons, select_cons, select_map f rs xs]
    split <;> rfl

theorem length_select (r : Relation) :
    ∀ {rs : List Relation} {xs : List α}, rs.length = xs.length →
      (select r rs xs).length = rs.count r
  | [], [], _ => rfl
  | q :: rs, x :: xs, h => by
    have ih := length_select r (Nat.succ.inj h)
    rw [select_cons, List.count_cons]
    by_cases hq : q = r
    · simp [hq, ih]
    · simp [hq, ih]

/-- The pairs of two selections are the selected pairs. -/
theorem zip_select :
    ∀ (rs : List Relation) (xs : List α) (ys : List β),
      (select r rs xs).zip (select r rs ys) = select r rs (xs.zip ys)
  | [], xs, ys => by simp
  | _ :: _, [], ys => by simp
  | _ :: _, _ :: _, [] => by simp
  | q :: rs, x :: xs, y :: ys => by
    rw [List.zip_cons_cons, select_cons, select_cons, select_cons, ← zip_select rs xs ys]
    split <;> rfl

@[simp] theorem slot_zero : slot r rs 0 = 0 := by simp [slot]

@[simp] theorem slot_cons_succ (i : Nat) :
    slot r (q :: rs) (i + 1) = slot r rs i + if q = r then 1 else 0 := by
  simp only [slot, List.take_succ_cons, List.count_cons, beq_iff_eq]

/-- The slot of a row lies within the selection. -/
theorem slot_lt_count :
    ∀ {rs : List Relation} {i : Nat}, rs[i]? = some r → slot r rs i < rs.count r
  | [], _, h => by simp at h
  | q :: rs, 0, h => by
    have hq : q = r := by simpa using h
    simp [hq]
  | q :: rs, i + 1, h => by
    have ih : slot r rs i < rs.count r := slot_lt_count (by simpa using h)
    rw [slot_cons_succ, List.count_cons]
    by_cases hq : q = r
    · simp [hq, ih]
    · simp [hq, ih]

/-- The entry of a row stands in its slot. -/
theorem getElem?_select :
    ∀ {rs : List Relation} {xs : List α} {i : Nat}, rs.length = xs.length → rs[i]? = some r →
      (select r rs xs)[slot r rs i]? = xs[i]?
  | [], [], _, _, h => by simp at h
  | q :: rs, x :: xs, 0, _, h => by
    have hq : q = r := by simpa using h
    simp [hq]
  | q :: rs, x :: xs, i + 1, hl, h => by
    have ih := getElem?_select (Nat.succ.inj hl) (i := i) (by simpa using h)
    rw [select_cons, slot_cons_succ, List.getElem?_cons_succ, ← ih]
    by_cases hq : q = r
    · simp [hq]
    · simp [hq]

/-- A function of the relation and the entry is one function on each selection. -/
theorem select_zipWith (f : Relation → α → β) :
    ∀ (rs : List Relation) (xs : List α),
      select r rs (List.zipWith f rs xs) = (select r rs xs).map (f r)
  | [], xs => by simp
  | _ :: _, [] => by simp
  | q :: rs, x :: xs => by
    rw [List.zipWith_cons_cons, select_cons, select_cons, select_zipWith f rs xs]
    split
    · rename_i hq
      rw [hq, List.map_cons]
    · rfl

/-- The three selections hold every entry once. -/
theorem perm_select :
    ∀ {rs : List Relation} {xs : List α}, rs.length = xs.length →
      (select .le rs xs ++ select .ge rs xs ++ select .eq rs xs).Perm xs
  | [], [], _ => by simp
  | .le :: rs, x :: xs, h => by
    simpa using perm_select (Nat.succ.inj h)
  | .ge :: rs, x :: xs, h => by
    have ih := (perm_select (Nat.succ.inj h : rs.length = xs.length)).cons x
    rw [select_cons, select_cons, select_cons, if_neg (by decide), if_pos rfl,
      if_neg (by decide), List.append_assoc, List.cons_append]
    rw [List.append_assoc] at ih
    exact List.perm_middle.trans ih
  | .eq :: rs, x :: xs, h => by
    have ih := (perm_select (Nat.succ.inj h : rs.length = xs.length)).cons x
    rw [select_cons, select_cons, select_cons, if_neg (by decide), if_neg (by decide), if_pos rfl]
    exact List.perm_middle.trans ih

end

namespace SplitModel

/-! ## How a split model picks rows -/

theorem rowsOf_eq_select (f : Formulation) (r : Relation) :
    rowsOf f r = select r f.relations f.rows := by
  unfold rowsOf
  generalize f.relations = rs
  generalize f.rows = xs
  induction rs generalizing xs with
  | nil => simp
  | cons q rs ih =>
    cases xs with
    | nil => simp
    | cons x xs =>
      rw [select_cons, List.zip_cons_cons, List.filterMap_cons, ih]
      by_cases hq : q = r <;> simp [hq]

/-- The positions of a relation among rows that are counted from `k` on. -/
theorem positions_from (r q : Relation) (rs : List Relation) (k : Nat) :
    (((q :: rs).zipIdx k).filter fun p => p.1 = r).map Prod.snd =
      if q = r then k :: ((rs.zipIdx (k + 1)).filter fun p => p.1 = r).map Prod.snd
      else ((rs.zipIdx (k + 1)).filter fun p => p.1 = r).map Prod.snd := by
  rw [List.zipIdx_cons, List.filter_cons]
  by_cases hq : q = r <;> simp [hq]

/-- The right-hand sides at the positions of a relation, behind `pre` that were passed over. -/
theorem pick_from (r : Relation) :
    ∀ (rs : List Relation) (xs pre : List Scalar), rs.length = xs.length →
      pick (pre ++ xs) (((rs.zipIdx pre.length).filter fun p => p.1 = r).map Prod.snd) =
        .ok (select r rs xs)
  | [], [], _, _ => rfl
  | q :: rs, x :: xs, pre, h => by
    -- the positions do not move when the head joins the entries that were passed over
    have ih := pick_from r rs xs (pre ++ [x]) (Nat.succ.inj h)
    rw [List.append_assoc, List.singleton_append, List.length_append, List.length_singleton] at ih
    rw [positions_from, select_cons]
    split
    · have hx : (pre ++ x :: xs)[pre.length]? = some x := by simp
      unfold pick at ih ⊢
      rw [List.mapM_cons, ih, hx]
      rfl
    · exact ih

theorem pick_positions {rs : List Relation} {xs : List Scalar} (h : rs.length = xs.length)
    (r : Relation) : pick xs (positions r rs) = .ok (select r rs xs) := pick_from r rs xs [] h

theorem count_eq (r : Relation) (rs : List Relation) : count r rs = rs.count r := by
  have h : ∀ k, (((rs.zipIdx k).filter fun p => p.1 = r).map Prod.snd).length = rs.count r := by
    induction rs with
    | nil => simp
    | cons q rs ih =>
      intro k
      rw [positions_from, List.count_cons]
      by_cases hq : q = r
      · simp only [hq, if_true, List.length_cons, ih, beq_self_eq_true]
      · simp only [hq, if_false, ih, beq_iff_eq, Nat.add_zero]
  exact h 0

/-! ## How sensitivities come back -/

@[simp] theorem length_scatter :
    ∀ (rs : List Relation) (le ge eq : List Scalar), (scatter rs le ge eq).length = rs.length
  | [], _, _, _ => rfl
  | .le :: rs, _, _, _ => congrArg (· + 1) (length_scatter rs _ _ _)
  | .ge :: rs, _, _, _ => congrArg (· + 1) (length_scatter rs _ _ _)
  | .eq :: rs, _, _, _ => congrArg (· + 1) (length_scatter rs _ _ _)

/-- The list of a relation among three. -/
def block {α : Type} (le ge eq : α) : Relation → α
  | .le => le
  | .ge => ge
  | .eq => eq

/-- A row gets back what stands in its slot in the list of its relation. -/
theorem getElem?_scatter {r : Relation} :
    ∀ {rs : List Relation} {le ge eq : List Scalar} {i : Nat}, rs[i]? = some r →
      (scatter rs le ge eq)[i]? = some ((block le ge eq r).getD (slot r rs i) .zero)
  | [], _, _, _, _, h => by simp at h
  | q :: rs, le, ge, eq, 0, h => by
    obtain rfl : q = r := by simpa using h
    cases q <;> simp [scatter, block, List.headD_eq_head?_getD, List.head?_eq_getElem?]
  | q :: rs, le, ge, eq, i + 1, h => by
    have hi : rs[i]? = some r := by simpa using h
    cases q <;> rw [scatter, List.getElem?_cons_succ, getElem?_scatter hi, slot_cons_succ] <;>
      cases r <;> simp [block, List.getElem?_tail]

/-- A weighted sum over the rows is the sum over the rows of each relation. -/
theorem product_scatter :
    ∀ (rs : List Relation) (le ge eq : List Scalar) (ws : List Rat),
      product (Scalar.rats (scatter rs le ge eq)) ws =
        product (Scalar.rats le) (select .le rs ws) + product (Scalar.rats ge) (select .ge rs ws) +
          product (Scalar.rats eq) (select .eq rs ws)
  | [], _, _, _, _ => by simp [scatter]
  | _ :: _, _, _, _, [] => by simp
  | .le :: rs, le, ge, eq, w :: ws => by
    rw [scatter, Scalar.rats_cons, product_cons, product_scatter rs le.tail ge eq ws]
    cases le with
    | nil => simp
    | cons x le => simp; ring
  | .ge :: rs, le, ge, eq, w :: ws => by
    rw [scatter, Scalar.rats_cons, product_cons, product_scatter rs le ge.tail eq ws]
    cases ge with
    | nil => simp
    | cons x ge => simp; ring
  | .eq :: rs, le, ge, eq, w :: ws => by
    rw [scatter, Scalar.rats_cons, product_cons, product_scatter rs le ge eq.tail ws]
    cases eq with
    | nil => simp
    | cons x eq => simp; ring

end SplitModel

end LinearPrograms
