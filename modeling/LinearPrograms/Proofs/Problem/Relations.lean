import LinearPrograms.Proofs.Document.Numbers
import LinearPrograms.Proofs.Problem.Refusal

/-!
# What names a relation

`Relation.Names` says what an argument has to be to name a relation: the relation itself, a text
that spells it in whatever case and between whatever blanks, or the number that is its code. All
names are parsed as the relation (`Relation.parse_eq_ok`), since no two relations share a spelling
(`ofText?_eq_some`) or a code (`ofCode?_eq_some`). A float loses its fraction first, so one that
`Exceeds` a code is parsed too.

What is refused is told as an unknown relation. There are two exceptions, `Relation.Refused` has
them: an infinite float, which has no integer part, and a value in which an integer is too long to
be shown (`Document.isWritable_eq_false`).
-/

namespace LinearPrograms

namespace Document

/-! ## Integers that are too long to be shown -/

/-- There is an integer in the document of more digits than are written. -/
def HasLongInteger (d : Document) : Prop :=
  ∃ i, (int i).Occurs d ∧ 10 ^ Numeral.digitLimit ≤ i.natAbs

theorem hasLongInteger_int {i : Int} :
    (int i).HasLongInteger ↔ 10 ^ Numeral.digitLimit ≤ i.natAbs := by
  constructor
  · rintro ⟨j, hj, hlong⟩
    cases hj
    exact hlong
  · exact fun h => ⟨i, .here, h⟩

theorem hasLongInteger_list {items : List Document} :
    (list items).HasLongInteger ↔ ∃ x ∈ items, x.HasLongInteger := by
  constructor
  · rintro ⟨i, hi, hlong⟩
    cases hi with
    | item hx h => exact ⟨_, hx, i, h, hlong⟩
  · rintro ⟨x, hx, i, hi, hlong⟩
    exact ⟨i, .item hx hi, hlong⟩

theorem hasLongInteger_object {fields : List (Text × Document)} :
    (object fields).HasLongInteger ↔ ∃ f ∈ fields, f.2.HasLongInteger := by
  constructor
  · rintro ⟨i, hi, hlong⟩
    cases hi with
    | field hf h => exact ⟨_, hf, i, h, hlong⟩
  · rintro ⟨f, hf, i, hi, hlong⟩
    exact ⟨i, .field hf hi, hlong⟩

mutual

/-- A value cannot be shown exactly if there is a long integer in it. -/
theorem isWritable_eq_false : ∀ d : Document, d.isWritable = false ↔ d.HasLongInteger
  | int i => by
    rw [hasLongInteger_int, isWritable, decide_eq_false_iff_not, Nat.not_lt, Nat.pow_eq]
  | list xs => by
    rw [hasLongInteger_list, isWritable, areWritable_eq_false xs]
  | object fs => by
    rw [hasLongInteger_object, isWritable, areWritableFields_eq_false fs]
  | null | bool _ | float _ | text _ => by
    refine iff_of_false (by simp [isWritable]) ?_
    rintro ⟨i, hi, -⟩
    cases hi

theorem areWritable_eq_false :
    ∀ xs : List Document, areWritable xs = false ↔ ∃ x ∈ xs, x.HasLongInteger
  | [] => by simp [areWritable]
  | x :: rest => by
    rw [areWritable, Bool.and_eq_false_iff, isWritable_eq_false x, areWritable_eq_false rest,
      List.exists_mem_cons_iff]

theorem areWritableFields_eq_false :
    ∀ fs : List (Text × Document), areWritableFields fs = false ↔ ∃ f ∈ fs, f.2.HasLongInteger
  | [] => by simp [areWritableFields]
  | (k, v) :: rest => by
    rw [areWritableFields, Bool.and_eq_false_iff, isWritable_eq_false v,
      areWritableFields_eq_false rest, List.exists_mem_cons_iff]

end

end Document

namespace Relation

open LinearPrograms.Computation Document

variable {r : Relation} {value : Document}

/-! ## Names -/

/-- The argument names the relation: it is the relation itself, a text that is a spelling of it when
stripped of blanks and put in upper case, or a number that equals its code. A truth value is no
number. -/
inductive Names : Relation ⊕ Document → Relation → Prop
  | itself (r : Relation) : Names (.inl r) r
  | spelling {t : Text} {r : Relation} {s : String} : s ∈ r.spellings →
      t.strip.upper = Text.ofString s → Names (.inr (.text t)) r
  | number {value : Document} {r : Relation} : (∀ b, value ≠ .bool b) →
      value.isInteger r.code = true → Names (.inr value) r

/-- The argument is a float that exceeds the code of the relation by a fraction. -/
def Exceeds (argument : Relation ⊕ Document) (r : Relation) : Prop :=
  ∃ q : Rat, argument = .inr (.float (.finite q)) ∧ (r.code : Rat) < q ∧ q < r.code + 1

theorem ofCode?_eq_some {i : Int} : ofCode? i = some r ↔ i = r.code := by
  constructor
  · intro h
    have hcode := List.find?_some h
    exact (of_decide_eq_true hcode).symm
  · rintro rfl
    cases r <;> rfl

/-- No two relations share a spelling. -/
theorem find?_spelling : ∀ r : Relation, ∀ s ∈ r.spellings,
    (all.find? fun r' => r'.spellings.any fun s' => Text.ofString s' = Text.ofString s) =
      some r := by
  intro r
  cases r <;> decide

theorem ofText?_eq_some {t : Text} :
    ofText? t = some r ↔ ∃ s ∈ r.spellings, t.strip.upper = Text.ofString s := by
  unfold ofText?
  constructor
  · intro h
    have hr := List.find?_some h
    simp only [List.any_eq_true, decide_eq_true_eq] at hr
    obtain ⟨s, hs, hkey⟩ := hr
    exact ⟨s, hs, hkey.symm⟩
  · rintro ⟨s, hs, hkey⟩
    simp only [hkey]
    exact find?_spelling r s hs

theorem code_pos (r : Relation) : 0 < r.code := by cases r <;> decide

theorem names_text {t : Text} :
    Names (.inr (.text t)) r ↔ ∃ s ∈ r.spellings, t.strip.upper = Text.ofString s := by
  constructor
  · intro h
    cases h with
    | spelling hs hkey => exact ⟨_, hs, hkey⟩
    | number _ hcode => cases hcode
  · rintro ⟨s, hs, hkey⟩
    exact .spelling hs hkey

theorem names_number (ht : ∀ t, value ≠ .text t) (hb : ∀ b, value ≠ .bool b) :
    Names (.inr value) r ↔ value.isInteger r.code = true := by
  constructor
  · intro h
    cases h with
    | spelling => exact absurd rfl (ht _)
    | number _ hcode => exact hcode
  · exact .number hb

theorem exceeds_finite {q : Rat} :
    Exceeds (.inr (.float (.finite q))) r ↔ (r.code : Rat) < q ∧ q < r.code + 1 := by
  constructor
  · rintro ⟨q', hq, h⟩
    cases hq
    exact h
  · exact fun h => ⟨q, rfl, h⟩

/-- Only a float exceeds a code. -/
theorem not_exceeds (h : ∀ q, value ≠ .float (.finite q)) : ¬Exceeds (.inr value) r := by
  rintro ⟨q, hq, -⟩
  exact h q (Sum.inr.inj hq)

/-! ## What is parsed -/

/-- A float is taken for what is left of it without its fraction. -/
theorem parse_finite {q : Rat} :
    parse (.float (.finite q)) = .ok r ↔ (r.code : Rat) ≤ q ∧ q < r.code + 1 := by
  rw [← tdiv_eq_iff (code_pos r), ← ofCode?_eq_some]
  exact elim_eq_ok

/-- The values that are parsed as a relation are its names, and floats that exceed its code. -/
theorem parse_eq_ok :
    parse value = .ok r ↔ Names (.inr value) r ∨ Exceeds (.inr value) r := by
  have hcode := code_pos r
  cases value with
  | text t =>
    rw [names_text, or_iff_left (not_exceeds (by simp)), ← ofText?_eq_some]
    exact elim_eq_ok
  | int i =>
    rw [names_number (by simp) (by simp), or_iff_left (not_exceeds (by simp)), isInteger_int,
      decide_eq_true_eq, eq_comm (a := r.code), ← ofCode?_eq_some]
    exact elim_eq_ok
  | bool b =>
    refine iff_of_false (by simp [parse]) ?_
    rintro (h | h)
    · cases h with
      | number hb => exact hb b rfl
    · exact not_exceeds (by simp) h
  | float x =>
    rw [names_number (by simp) (by simp)]
    cases x with
    | finite q =>
      rw [parse_finite, isInteger_finite, exceeds_finite, le_iff_lt_or_eq]
      constructor
      · rintro ⟨hlt | heq, hq⟩
        · exact .inr ⟨hlt, hq⟩
        · exact .inl heq.symm
      · rintro (rfl | ⟨hlt, hq⟩)
        · exact ⟨.inr rfl, lt_add_one _⟩
        · exact ⟨.inl hlt, hq⟩
    | negZero =>
      rw [or_iff_left (not_exceeds (by simp))]
      refine iff_of_false nofun fun h => ?_
      have hzero : (0 : Rat) = r.code := isInteger_finite.1 h
      exact hcode.ne (Int.cast_eq_zero.1 hzero.symm).symm
    | nan | posInf | negInf =>
      rw [or_iff_left (not_exceeds (by simp))]
      exact iff_of_false nofun nofun
  | null | list items | object fields =>
    rw [names_number (by simp) (by simp), or_iff_left (not_exceeds (by simp))]
    exact iff_of_false nofun nofun

/-- Why a value that is not parsed is refused: it is infinite, it is too long to be shown, or it is
shown as no relation. -/
inductive Refused (value : Document) : Fault → Prop
  | infinite : value.IsInfinite → Refused value (.conversion .infinityToInteger)
  | tooLong : value.HasLongInteger → Refused value (.conversion .tooManyDigitsToWrite)
  | unknown : ¬value.IsInfinite → ¬value.HasLongInteger →
      Refused value (.input (.unknownRelation value))

theorem not_hasLongInteger_of_infinite (h : value.IsInfinite) : ¬value.HasLongInteger := by
  rintro ⟨i, hi, -⟩
  rcases h with rfl | rfl
  · cases hi
  · cases hi

/-- There is one reason for a value. -/
theorem Refused.unique {e e' : Fault} (h : Refused value e) (h' : Refused value e') : e = e' := by
  cases h with
  | infinite hinfinite =>
    cases h' with
    | infinite => rfl
    | tooLong hlong => exact absurd hlong (not_hasLongInteger_of_infinite hinfinite)
    | unknown hfinite => exact absurd hinfinite hfinite
  | tooLong hlong =>
    cases h' with
    | infinite hinfinite => exact absurd hlong (not_hasLongInteger_of_infinite hinfinite)
    | tooLong => rfl
    | unknown _ hshort => exact absurd hlong hshort
  | unknown hfinite hshort =>
    cases h' with
    | infinite hinfinite => exact absurd hinfinite hfinite
    | tooLong hlong => exact absurd hlong hshort
    | unknown => rfl

theorem refused_of_parse {e : Fault} (h : parse value = .error e) : Refused value e := by
  rcases Problem.parse_eq_error h with ⟨rfl, hfinite⟩ | ⟨rfl, hinfinite⟩
  · unfold showing
    cases hshown : value.isWritable with
    | true =>
      refine .unknown hfinite fun hlong => ?_
      rw [(isWritable_eq_false value).2 hlong] at hshown
      cases hshown
    | false => exact .tooLong ((isWritable_eq_false value).1 hshown)
  · exact .infinite hinfinite

/-- What a relation is parsed from and what is refused, and with which fault. Everything that names
a relation is parsed as that relation, and besides, floats that exceed its code by a fraction. The
rest is refused as an unknown relation, but for infinite floats and values that are too long to be
shown. -/
theorem ofArgument_names (argument : Relation ⊕ Document) :
    (∀ r, ofArgument argument = .ok r ↔ Names argument r ∨ Exceeds argument r) ∧
      ∀ e, ofArgument argument = .error e ↔
        (∀ r, ¬Names argument r ∧ ¬Exceeds argument r) ∧
          ∃ value, argument = .inr value ∧ Refused value e := by
  cases argument with
  | inl r =>
    have hitself : ∀ r', Names (.inl r) r' ↔ r = r' := fun r' =>
      ⟨fun h => by cases h; rfl, fun h => h ▸ .itself r⟩
    refine ⟨fun r' => ?_, fun e => ?_⟩
    · rw [hitself, or_iff_left (by rintro ⟨q, hq, -⟩; cases hq)]
      exact Except.ok.injEq r r' ▸ Iff.rfl
    · exact iff_of_false nofun fun h => (h.1 r).1 (.itself r)
  | inr value =>
    refine ⟨fun r => parse_eq_ok, fun e => ?_⟩
    have hnone : (∀ r, ¬Names (.inr value) r ∧ ¬Exceeds (.inr value) r) ↔
        ∀ r, parse value ≠ .ok r :=
      forall_congr' fun r => by rw [← not_or, ← parse_eq_ok]
    rw [hnone]
    constructor
    · intro (h : parse value = .error e)
      refine ⟨fun r hr => ?_, value, rfl, refused_of_parse h⟩
      rw [h] at hr
      cases hr
    · rintro ⟨hnone, _, hvalue, hrefused⟩
      cases hvalue
      show parse value = .error e
      cases hparse : parse value with
      | ok r => exact absurd hparse (hnone r)
      | error e' => rw [hrefused.unique (refused_of_parse hparse)]

/-- One and a half is no name of a relation, and it is parsed as one. -/
theorem parse_oneAndHalf :
    (∀ r, ¬Names (.inr (.float (.finite (3 / 2)))) r) ∧
      parse (.float (.finite (3 / 2))) = .ok .le := by
  refine ⟨fun r => ?_, parse_finite.2 ⟨by norm_num [code], by norm_num [code]⟩⟩
  rw [names_number (by simp) (by simp), isInteger_finite]
  cases r <;> norm_num [code]

end Relation

end LinearPrograms
