import LinearPrograms.Tensor
import LinearPrograms.Proofs.Action.Computation
import Mathlib.Algebra.Group.Nat.Defs

/-!
# The shape of an array

An array that was read from nested lists has as many entries as its shape says (`full_ofDocument`).
The lists are gone through once, depth first, and what is known of their shape is kept in a survey.
On its way down to the first item the survey is `Open` and takes note of the length of each list; from
then on it is `Closed`, and a value either adds nothing to it and has the shape that is known
(`nests_of_closed`), or lists disagree, which nothing after it takes back (`ragged_survey`). So the
value as a whole is made of lists of the lengths that are found (`nests_survey`), and these count its
entries (`length_leaves`).
-/

namespace LinearPrograms

/-- Is the value something other than a list? -/
def Document.IsLeaf (d : Document) : Prop := ∀ xs, d ≠ .list xs

namespace Tensor

/-! ## Nested lists of one shape -/

/-- The value is made of lists of the given lengths, one in the other, with no list in the last. -/
def Nests : List Nat → Document → Prop
  | [], d => d.IsLeaf
  | n :: shape, d => ∃ ds, d = .list ds ∧ ds.length = n ∧ ∀ e ∈ ds, Nests shape e

theorem leaves_of_leaf {d : Document} (h : d.IsLeaf) : leaves d = [d] := by
  cases d with
  | list xs => exact absurd rfl (h xs)
  | _ => rfl

theorem length_leavesOf {k : Nat} :
    ∀ {ds : List Document}, (∀ d ∈ ds, (leaves d).length = k) → (leavesOf ds).length = ds.length * k
  | [], _ => by simp [leavesOf]
  | d :: ds, h => by
    rw [leavesOf, List.length_append, h d (.head ds),
      length_leavesOf fun e he => h e (.tail d he), List.length_cons, Nat.add_mul, Nat.one_mul,
      Nat.add_comm]

theorem length_leaves : ∀ {shape : List Nat} {d : Document}, Nests shape d →
    (leaves d).length = shape.prod
  | [], d, h => by
    rw [leaves_of_leaf h]
    rfl
  | n :: shape, d, h => by
    obtain ⟨ds, rfl, rfl, hds⟩ := h
    rw [leaves, length_leavesOf fun e he => length_leaves (hds e he), List.prod_cons]

/-! ## The survey of nested lists -/

namespace Survey

/-- The shape that is known. -/
def shape (s : Survey) : List Nat := s.lengths.take s.dimensions

theorem drop_shape {s : Survey} {depth n : Nat} (hd : depth < s.dimensions)
    (hn : s.lengths[depth]? = some n) : s.shape.drop depth = n :: s.shape.drop (depth + 1) := by
  have hshape : s.shape[depth]? = some n := by rw [shape, List.getElem?_take_of_lt hd, hn]
  obtain ⟨hlt, hget⟩ := List.getElem?_eq_some_iff.1 hshape
  rw [List.drop_eq_getElem_cons hlt, hget]

theorem drop_shape_of_dimensions {s : Survey} : s.shape.drop s.dimensions = [] :=
  List.drop_eq_nil_of_le (List.length_take_le _ _)

/-- The survey is on its way down to the first item, inside `depth` lists. -/
structure Open (depth : Nat) (s : Survey) : Prop where
  settled : s.settled = false
  ragged : s.ragged = false
  lengths : s.lengths.length = depth
  dimensions : s.dimensions = dimensionLimit
  positive : 0 ∉ s.lengths

/-- The survey has met an item or an empty list: every dimension that counts has a length, and none
counts below an empty list. -/
structure Closed (s : Survey) : Prop where
  settled : s.settled = true
  dimensions : s.dimensions ≤ s.lengths.length
  bottom : ∀ k, s.lengths[k]? = some 0 → s.dimensions ≤ k + 1

theorem item_of_closed {s : Survey} {depth : Nat} (hs : s.Closed)
    (h : (s.item depth).ragged = false) : s.item depth = s ∧ s.dimensions = depth := by
  unfold item at h ⊢
  split at h
  · cases h
  · rw [if_neg ‹_›]
    split at h
    · rename_i hdim
      rw [if_pos hdim, ← hs.settled]
      exact ⟨rfl, hdim⟩
    · simp [hs.settled] at h

theorem item_of_open {s : Survey} {depth : Nat} (hs : s.Open depth)
    (h : (s.item depth).ragged = false) :
    (s.item depth).Closed ∧ (s.item depth).lengths = s.lengths ∧
      (s.item depth).dimensions = depth := by
  have hbottom : ∀ k, s.lengths[k]? = some 0 → depth ≤ k + 1 := fun k hk =>
    absurd (List.mem_of_getElem? hk) hs.positive
  have hlen := hs.lengths
  unfold item at h ⊢
  split at h
  · cases h
  · rw [if_neg ‹_›]
    split at h
    · rename_i hdim
      rw [if_pos hdim]
      exact ⟨⟨rfl, by simp [hdim, hlen], by simpa [hdim] using hbottom⟩, rfl, hdim⟩
    · rw [if_neg ‹_›]
      exact ⟨⟨rfl, by simp [hlen], hbottom⟩, rfl, rfl⟩

theorem list_of_closed {s : Survey} {depth size : Nat} (hs : s.Closed)
    (h : (s.list depth size).1.ragged = false) :
    s.list depth size = (s, decide (size ≠ 0)) ∧ depth < s.dimensions ∧
      s.lengths[depth]? = some size := by
  unfold list at h ⊢
  split at h
  · cases h
  rename_i hd
  rw [if_neg hd, if_pos hs.settled]
  rw [if_pos hs.settled] at h
  split at h
  · rename_i hl
    rw [if_pos hl]
    by_cases h0 : size = 0
    · subst h0
      have hdim : depth + 1 = s.dimensions := by
        have := hs.bottom depth hl
        omega
      rw [if_pos rfl, hdim]
      exact ⟨rfl, by omega, hl⟩
    · rw [if_neg h0]
      exact ⟨by simp [h0], by omega, hl⟩
  · cases h

theorem list_of_open {s : Survey} {depth size : Nat} (hs : s.Open depth)
    (h : (s.list depth size).1.ragged = false) :
    size = 0 ∧ s.list depth size = (⟨s.lengths ++ [0], depth + 1, true, false⟩, false) ∨
      size ≠ 0 ∧ s.list depth size = ({ s with lengths := s.lengths ++ [size] }, true) ∧
        Open (depth + 1) { s with lengths := s.lengths ++ [size] } := by
  unfold list at h ⊢
  split at h
  · cases h
  rw [if_neg ‹_›, if_neg (by simp [hs.settled])]
  by_cases h0 : size = 0
  · rw [if_pos h0, hs.ragged]
    exact .inl ⟨h0, rfl⟩
  · rw [if_neg h0]
    refine .inr ⟨h0, rfl, hs.settled, hs.ragged, ?_, hs.dimensions, ?_⟩
    · simp [hs.lengths]
    · simp [hs.positive, Ne.symm h0]

end Survey

theorem survey_leaf {d : Document} (h : d.IsLeaf) (depth : Nat) (s : Survey) :
    survey depth s d = s.item depth := by
  cases d with
  | list xs => exact absurd rfl (h xs)
  | _ => rfl

theorem survey_list (depth : Nat) (s : Survey) (xs : List Document) :
    survey depth s (.list xs) =
      if (s.list depth xs.length).2 then surveyItems (depth + 1) (s.list depth xs.length).1 xs
      else (s.list depth xs.length).1 := rfl

theorem Survey.ragged_item {s : Survey} (h : s.ragged = true) (depth : Nat) :
    (s.item depth).ragged = true := by
  unfold item
  split
  · rfl
  split
  · exact h
  · simp [h]

theorem Survey.ragged_list {s : Survey} (h : s.ragged = true) (depth size : Nat) :
    (s.list depth size).1.ragged = true := by
  unfold list
  split
  · rfl
  split
  · split
    · split
      · exact h
      · exact h
    · rfl
  split
  · exact h
  · exact h

mutual

/-- Lists that were found to disagree disagree for good. -/
theorem ragged_survey (depth : Nat) {s : Survey} (h : s.ragged = true) :
    ∀ d, (survey depth s d).ragged = true
  | .list xs => by
    have hlist := Survey.ragged_list h depth xs.length
    rw [survey_list]
    split
    · exact ragged_surveyItems (depth + 1) hlist xs
    · exact hlist
  | .null => Survey.ragged_item h depth
  | .bool _ => Survey.ragged_item h depth
  | .int _ => Survey.ragged_item h depth
  | .float _ => Survey.ragged_item h depth
  | .text _ => Survey.ragged_item h depth
  | .object _ => Survey.ragged_item h depth

theorem ragged_surveyItems (depth : Nat) {s : Survey} (h : s.ragged = true) :
    ∀ ds, (surveyItems depth s ds).ragged = true
  | [] => h
  | d :: ds => ragged_surveyItems depth (ragged_survey depth h d) ds

end

theorem ragged_list_of_survey {depth : Nat} {s : Survey} {xs : List Document}
    (h : (survey depth s (.list xs)).ragged = false) : (s.list depth xs.length).1.ragged = false := by
  rw [← Bool.not_eq_true]
  intro hlist
  rw [survey_list] at h
  split at h
  · rw [ragged_surveyItems _ hlist] at h
    cases h
  · rw [hlist] at h
    cases h

theorem ragged_survey_of_items {depth : Nat} {s : Survey} {d : Document} {ds : List Document}
    (h : (surveyItems depth s (d :: ds)).ragged = false) : (survey depth s d).ragged = false := by
  rw [← Bool.not_eq_true]
  intro hd
  rw [surveyItems, ragged_surveyItems _ hd] at h
  cases h

theorem nests_leaf_of_closed {depth : Nat} {s : Survey} {d : Document} (hs : s.Closed) (hd : d.IsLeaf)
    (h : (survey depth s d).ragged = false) :
    survey depth s d = s ∧ Nests (s.shape.drop depth) d := by
  rw [survey_leaf hd] at h ⊢
  obtain ⟨hitem, rfl⟩ := Survey.item_of_closed hs h
  rw [hitem, Survey.drop_shape_of_dimensions]
  exact ⟨rfl, hd⟩

mutual

/-- Once the survey has met an item, a value adds nothing to it and has the shape that is known,
unless lists disagree. -/
theorem nests_of_closed {depth : Nat} {s : Survey} (hs : s.Closed) :
    ∀ d, (survey depth s d).ragged = false →
      survey depth s d = s ∧ Nests (s.shape.drop depth) d
  | .list xs, h => by
    obtain ⟨hlist, hd, hn⟩ := Survey.list_of_closed hs (ragged_list_of_survey h)
    rw [survey_list, hlist] at h ⊢
    rw [Survey.drop_shape hd hn]
    split at h
    · rw [if_pos ‹_›]
      obtain ⟨hsame, hxs⟩ := nests_items_of_closed hs xs h
      exact ⟨hsame, xs, rfl, rfl, hxs⟩
    · rw [if_neg ‹_›]
      rename_i hempty
      obtain rfl : xs = [] := by simpa using hempty
      exact ⟨rfl, [], rfl, rfl, fun e he => absurd he List.not_mem_nil⟩
  | .null, h => nests_leaf_of_closed hs (fun _ h => by cases h) h
  | .bool _, h => nests_leaf_of_closed hs (fun _ h => by cases h) h
  | .int _, h => nests_leaf_of_closed hs (fun _ h => by cases h) h
  | .float _, h => nests_leaf_of_closed hs (fun _ h => by cases h) h
  | .text _, h => nests_leaf_of_closed hs (fun _ h => by cases h) h
  | .object _, h => nests_leaf_of_closed hs (fun _ h => by cases h) h

theorem nests_items_of_closed {depth : Nat} {s : Survey} (hs : s.Closed) :
    ∀ ds, (surveyItems depth s ds).ragged = false →
      surveyItems depth s ds = s ∧ ∀ d ∈ ds, Nests (s.shape.drop depth) d
  | [], _ => ⟨rfl, fun d hd => absurd hd List.not_mem_nil⟩
  | d :: ds, h => by
    obtain ⟨hsame, hd⟩ := nests_of_closed hs d (ragged_survey_of_items h)
    rw [surveyItems, hsame] at h ⊢
    obtain ⟨hrest, hds⟩ := nests_items_of_closed hs ds h
    exact ⟨hrest, List.forall_mem_cons.2 ⟨hd, hds⟩⟩

end

/-- From `s`, inside `depth` lists, the survey went down to the first item and came to `t`. -/
structure Survey.Reaches (depth : Nat) (s t : Survey) : Prop where
  closed : t.Closed
  lengths : s.lengths <+: t.lengths
  dimensions : depth ≤ t.dimensions

theorem Survey.reaches_empty {depth : Nat} {s : Survey} (hs : s.Open depth) :
    Reaches depth s ⟨s.lengths ++ [0], depth + 1, true, false⟩ where
  closed.settled := rfl
  closed.dimensions := by simp [hs.lengths]
  closed.bottom := by
    intro k hk
    by_contra hlt
    have hk' : k < s.lengths.length := by
      rw [hs.lengths]
      exact Nat.lt_of_succ_lt_succ (Nat.lt_of_not_le hlt)
    rw [List.getElem?_append_left hk'] at hk
    exact hs.positive (List.mem_of_getElem? hk)
  lengths := List.prefix_append _ _
  dimensions := Nat.le_succ depth

theorem nests_leaf_of_open {depth : Nat} {s : Survey} {d : Document} (hs : s.Open depth)
    (hd : d.IsLeaf) (h : (survey depth s d).ragged = false) :
    s.Reaches depth (survey depth s d) ∧ Nests ((survey depth s d).shape.drop depth) d := by
  rw [survey_leaf hd] at h ⊢
  obtain ⟨hclosed, hlengths, hdim⟩ := Survey.item_of_open hs h
  have hshape := Survey.drop_shape_of_dimensions (s := s.item depth)
  rw [hdim] at hshape
  rw [hshape]
  exact ⟨⟨hclosed, hlengths ▸ List.prefix_rfl, Nat.le_of_eq hdim.symm⟩, hd⟩

mutual

/-- The first value on the way down settles a shape and has it, unless lists disagree. -/
theorem nests_of_open {depth : Nat} {s : Survey} (hs : s.Open depth) :
    ∀ d, (survey depth s d).ragged = false →
      s.Reaches depth (survey depth s d) ∧ Nests ((survey depth s d).shape.drop depth) d
  | .list xs, h => by
    rcases Survey.list_of_open hs (ragged_list_of_survey h) with
      ⟨hempty, hlist⟩ | ⟨hne, hlist, hopen⟩
    · obtain rfl := List.length_eq_zero_iff.1 hempty
      have hzero : (s.lengths ++ [0])[depth]? = some 0 := by simp [← hs.lengths]
      rw [survey_list, hlist]
      refine ⟨Survey.reaches_empty hs, ?_⟩
      show Nests (Survey.shape ⟨s.lengths ++ [0], depth + 1, true, false⟩ |>.drop depth) _
      rw [Survey.drop_shape (Nat.lt_succ_self depth) hzero]
      exact ⟨[], rfl, rfl, fun e he => absurd he List.not_mem_nil⟩
    · rw [survey_list, hlist] at h ⊢
      obtain ⟨hreaches, hxs⟩ := nests_items_of_open hopen xs (mt List.length_eq_zero_iff.2 hne) h
      have hprefix : s.lengths <+: s.lengths ++ [xs.length] := List.prefix_append _ _
      obtain ⟨more, hmore⟩ := hreaches.lengths
      refine ⟨⟨hreaches.closed, hprefix.trans hreaches.lengths,
        Nat.le_of_succ_le hreaches.dimensions⟩, ?_⟩
      have hsize : ((s.lengths ++ [xs.length]) ++ more)[depth]? = some xs.length := by
        simp [← hs.lengths]
      rw [if_pos rfl, Survey.drop_shape hreaches.dimensions (hmore ▸ hsize)]
      exact ⟨xs, rfl, rfl, hxs⟩
  | .null, h => nests_leaf_of_open hs (fun _ h => by cases h) h
  | .bool _, h => nests_leaf_of_open hs (fun _ h => by cases h) h
  | .int _, h => nests_leaf_of_open hs (fun _ h => by cases h) h
  | .float _, h => nests_leaf_of_open hs (fun _ h => by cases h) h
  | .text _, h => nests_leaf_of_open hs (fun _ h => by cases h) h
  | .object _, h => nests_leaf_of_open hs (fun _ h => by cases h) h

theorem nests_items_of_open {depth : Nat} {s : Survey} (hs : s.Open depth) :
    ∀ ds, ds ≠ [] → (surveyItems depth s ds).ragged = false →
      s.Reaches depth (surveyItems depth s ds) ∧
        ∀ d ∈ ds, Nests ((surveyItems depth s ds).shape.drop depth) d
  | [], hne, _ => absurd rfl hne
  | d :: ds, _, h => by
    obtain ⟨hreaches, hd⟩ := nests_of_open hs d (ragged_survey_of_items h)
    rw [surveyItems] at h ⊢
    obtain ⟨hsame, hds⟩ := nests_items_of_closed hreaches.closed ds h
    rw [hsame]
    exact ⟨hreaches, List.forall_mem_cons.2 ⟨hd, hds⟩⟩

end

/-- A value in which no lists disagree is made of lists of the lengths that the survey finds. -/
theorem nests_survey {d : Document} (h : (survey 0 .start d).ragged = false) :
    Nests (survey 0 .start d).shape d := by
  have hstart : Survey.start.Open 0 := ⟨rfl, rfl, rfl, rfl, List.not_mem_nil⟩
  exact (nests_of_open hstart d h).2

/-! ## Arrays that were read -/

/-- What an array that was read says about the survey of its document. -/
theorem ofDocument_eq_ok {d : Document} {t : Tensor} (h : ofDocument d = .ok t) :
    (survey 0 .start d).ragged = false ∧ (leaves d).mapM entry = .ok t.entries ∧
      t.shape = (survey 0 .start d).shape := by
  simp only [ofDocument] at h
  cases hr : (survey 0 .start d).ragged with
  | true =>
    simp only [hr, if_true] at h
    split at h <;> cases h
  | false =>
    simp only [hr, Bool.false_eq_true, if_false] at h
    obtain ⟨xs, hxs, ht⟩ := Computation.bind_eq_ok.1 h
    cases ht
    exact ⟨rfl, Computation.mapError_eq_ok.1 hxs, rfl⟩

/-- An array has as many entries as its shape says. -/
def Full (t : Tensor) : Prop := t.entries.length = t.shape.prod

theorem full_ofDocument {d : Document} {t : Tensor} (h : ofDocument d = .ok t) : t.Full := by
  obtain ⟨hr, hentries, hshape⟩ := ofDocument_eq_ok h
  rw [Full, hshape, ← length_leaves (nests_survey hr), Computation.length_mapM hentries]

/-- An array of one dimension has as many entries as its length says. -/
theorem length_entries {d : Document} {t : Tensor} {k : Nat} (h : ofDocument d = .ok t)
    (hk : t.shape = [k]) : t.entries.length = k := by
  have hfull : t.Full := full_ofDocument h
  rwa [Full, hk, List.prod_singleton] at hfull

end Tensor

end LinearPrograms
