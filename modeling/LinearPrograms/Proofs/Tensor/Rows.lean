import LinearPrograms.Proofs.Tensor.Shape

/-!
# Arrays of one dimension

A list without lists in it reads as an array of one dimension with one entry per item
(`ofDocument_list`), and so scalars written as a document read back as they are
(`ofDocument_ofScalars`).

Such an array fills a row of its own length unchanged (`spread_ofScalars`), and a padded row loses
its first entry again (`unpadded_ofScalars`). An array of any shape that fills a row of `n` at all
fills it with `n` entries (`length_of_spread`).
-/

namespace LinearPrograms

namespace Document

theorem isLeaf_of_toScalar {d : Document} {x : Scalar} (h : d.toScalar = .ok x) : d.IsLeaf := by
  rintro xs rfl
  simp [toScalar] at h

theorem entry_of_toScalar {d : Document} {x : Scalar} (h : d.toScalar = .ok x) :
    Tensor.entry d = .ok x := by
  cases d with
  | null => simp [toScalar] at h
  | _ => exact h

theorem isPresent_of_toScalar {d : Document} {x : Scalar} (h : d.toScalar = .ok x) :
    d.isPresent = true := by
  cases d with
  | null => cases h
  | _ => rfl

theorem forall₂_of_toScalars {ds : List Document} {xs : List Scalar} (h : toScalars ds = .ok xs) :
    List.Forall₂ (fun d x => d.toScalar = .ok x) ds xs :=
  Computation.mapM_eq_ok.1 h

theorem toScalars_float (xs : List Scalar) : toScalars (xs.map float) = .ok xs := by
  induction xs with
  | nil => rfl
  | cons x xs ih =>
    simp only [toScalars] at ih
    simp only [toScalars, List.map_cons, List.mapM_cons, ih]
    rfl

end Document

namespace Tensor

/-! ## Lists without lists in them -/

theorem surveyItems_of_leaves {ls : List Nat} :
    ∀ {ds : List Document}, (∀ d ∈ ds, d.IsLeaf) →
      surveyItems 1 ⟨ls, 1, true, false⟩ ds = ⟨ls, 1, true, false⟩
  | [], _ => rfl
  | d :: ds, h => by
    rw [surveyItems, survey_leaf (h d (by simp))]
    exact surveyItems_of_leaves fun d' hd' => h d' (by simp [hd'])

theorem survey_of_leaves {ds : List Document} (h : ∀ d ∈ ds, d.IsLeaf) :
    survey 0 .start (.list ds) = ⟨[ds.length], 1, true, false⟩ := by
  cases ds with
  | nil => rfl
  | cons d ds =>
    show surveyItems 1 ⟨[ds.length + 1], dimensionLimit, false, false⟩ (d :: ds) = _
    rw [surveyItems, survey_leaf (h d (by simp))]
    exact surveyItems_of_leaves fun d' hd' => h d' (by simp [hd'])

theorem leavesOf_of_leaves :
    ∀ {ds : List Document}, (∀ d ∈ ds, d.IsLeaf) → leavesOf ds = ds
  | [], _ => rfl
  | d :: ds, h => by
    rw [leavesOf, leaves_of_leaf (h d (by simp)),
      leavesOf_of_leaves fun d' hd' => h d' (by simp [hd'])]
    rfl

theorem ofDocument_list {ds : List Document} (h : ∀ d ∈ ds, d.IsLeaf) :
    ofDocument (.list ds) =
      (do
        let entries ← (ds.mapM entry).mapError Fault.conversion
        return ⟨[ds.length], entries⟩) := by
  simp only [ofDocument, survey_of_leaves h, leaves, leavesOf_of_leaves h, Bool.false_eq_true,
    if_false]
  rfl

/-- A list of values that all read as scalars is the array of these scalars. -/
theorem ofDocument_of_toScalars {ds : List Document} {xs : List Scalar}
    (h : Document.toScalars ds = .ok xs) : ofDocument (.list ds) = .ok (ofScalars xs) := by
  have hall := Document.forall₂_of_toScalars h
  have hleaf : ∀ d ∈ ds, d.IsLeaf := fun d hd => by
    obtain ⟨x, -, hx⟩ := Computation.exists_of_mem_left hall d hd
    exact Document.isLeaf_of_toScalar hx
  have hentry : ds.mapM entry = .ok xs :=
    Computation.mapM_eq_ok.2 (hall.imp fun _ _ => Document.entry_of_toScalar)
  rw [ofDocument_list hleaf, hentry, hall.length_eq]
  rfl

theorem ofDocument_ofScalars (xs : List Scalar) :
    ofDocument (Document.ofScalars xs) = .ok (ofScalars xs) :=
  ofDocument_of_toScalars (Document.toScalars_float xs)

/-- Reading an array fails for the shape of its lists or for an item that is no number. -/
theorem ofDocument_eq_error {d : Document} {e : Fault} (h : ofDocument d = .error e) :
    (∃ c, e = .shape c) ∨ ∃ c, e = .conversion c := by
  simp only [ofDocument] at h
  split at h
  · split at h
    · cases h
      exact .inl ⟨_, rfl⟩
    · cases h
      exact .inl ⟨_, rfl⟩
  · rcases Computation.bind_eq_error.1 h with h | ⟨xs, -, h⟩
    · obtain ⟨c, -, rfl⟩ := Computation.mapError_eq_error.1 h
      exact .inr ⟨c, rfl⟩
    · cases h

theorem clean_ofDocument (d : Document) : Clean (ofDocument d) := by
  intro e he
  rcases ofDocument_eq_error he with ⟨c, rfl⟩ | ⟨c, rfl⟩
  · exact id
  · exact id

/-! ## Rows -/

theorem stripped_singleton (k : Nat) : stripped 1 [k] = [k] := by
  unfold stripped
  split
  · rename_i h
    simp only [List.cons.injEq] at h
    simp [← h.2, h.1]
  · rfl

theorem prod_stripped (rank : Nat) : ∀ shape : List Nat, (stripped rank shape).prod = shape.prod
  | [] => rfl
  | 0 :: _ => rfl
  | 1 :: rest => by
    rw [stripped]
    split
    · rw [prod_stripped rank rest, List.prod_cons, Nat.one_mul]
    · rfl
  | (_ + 2) :: _ => rfl

theorem full_ofScalars (xs : List Scalar) : (ofScalars xs).Full := List.prod_singleton.symm

theorem length_of_spread {t : Tensor} {n : Nat} {xs : List Scalar} (ht : t.Full)
    (h : t.spread n = .ok xs) : xs.length = n := by
  unfold spread at h
  have hprod := prod_stripped 1 t.shape
  split at h
  · obtain rfl := Except.ok.inj h
    exact List.length_replicate
  · rename_i k hk
    rw [hk, List.prod_singleton] at hprod
    split at h
    · rename_i hkn
      obtain rfl := Except.ok.inj h
      rw [ht, ← hprod, hkn]
    · split at h
      · obtain rfl := Except.ok.inj h
        exact List.length_replicate
      · cases h
  · cases h

@[simp] theorem spread_ofScalars (xs : List Scalar) :
    (ofScalars xs).spread xs.length = .ok xs := by
  simp [spread, ofScalars, stripped_singleton]

/-- The entries fill a row of `n`: they are as many, or there is one, which is repeated. -/
def Fills (n : Nat) (xs ys : List Scalar) : Prop :=
  xs.length = n ∧ ys = xs ∨ ∃ x, xs = [x] ∧ ys = List.replicate n x

theorem exists_fills {n : Nat} {xs : List Scalar} :
    (∃ ys, Fills n xs ys) ↔ xs.length = n ∨ xs.length = 1 := by
  constructor
  · rintro ⟨ys, ⟨hn, -⟩ | ⟨x, rfl, -⟩⟩
    · exact .inl hn
    · exact .inr rfl
  · rintro (hn | h1)
    · exact ⟨xs, .inl ⟨hn, rfl⟩⟩
    · obtain ⟨x, rfl⟩ := List.length_eq_one_iff.1 h1
      exact ⟨_, .inr ⟨x, rfl, rfl⟩⟩

/-- The rows that an array of one dimension fills. -/
theorem spread_eq_ok {n : Nat} {xs ys : List Scalar} :
    (ofScalars xs).spread n = .ok ys ↔ Fills n xs ys := by
  simp only [spread, ofScalars, stripped_singleton, Fills]
  by_cases hn : xs.length = n
  · rw [if_pos hn, Except.ok.injEq]
    constructor
    · intro h
      exact .inl ⟨hn, h.symm⟩
    · rintro (⟨-, rfl⟩ | ⟨x, rfl, rfl⟩)
      · rfl
      · subst hn
        rfl
  · rw [if_neg hn]
    by_cases h1 : xs.length = 1
    · obtain ⟨x, rfl⟩ := List.length_eq_one_iff.1 h1
      rw [if_pos h1, Except.ok.injEq]
      constructor
      · intro h
        exact .inr ⟨x, rfl, h.symm⟩
      · rintro (⟨h, -⟩ | ⟨y, hy, rfl⟩)
        · exact absurd h hn
        · obtain rfl : x = y := by simpa using hy
          rfl
    · rw [if_neg h1]
      constructor
      · intro h
        cases h
      · rintro (⟨h, -⟩ | ⟨y, rfl, -⟩)
        · exact absurd h hn
        · exact absurd rfl h1

@[simp] theorem padded_ofScalars (xs : List Scalar) :
    (ofScalars xs).padded = .ok (Scalar.zero :: xs) := by
  show ((ofScalars xs).spread xs.length).map (Scalar.zero :: ·) = _
  rw [spread_ofScalars]
  rfl

theorem unpadded_ofScalars (x : Scalar) (xs : List Scalar) :
    (ofScalars (x :: xs)).unpadded xs.length = .ok xs := by simp [unpadded, ofScalars]

/-- An array of one dimension shown as a list. -/
theorem toDocument_ofScalars (xs : List Scalar) :
    (ofScalars xs).toDocument = Document.ofScalars xs := by
  simp only [toDocument, ofScalars, nested, Document.ofScalars, Document.list.injEq]
  apply List.ext_getElem (by simp)
  intro i h1 h2
  have hi : i < xs.length := by simpa using h1
  simp [List.head?_take, List.head?_drop, List.getElem?_eq_getElem hi]

/-- An array that was read is nothing but its entries if it has one dimension. -/
theorem eq_ofScalars {d : Document} {t : Tensor} {k : Nat} (h : ofDocument d = .ok t)
    (hk : t.shape = [k]) : t = .ofScalars t.entries := by
  rw [ofScalars, length_entries h hk, ← hk]

end Tensor

end LinearPrograms
