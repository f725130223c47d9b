import LinearPrograms.Proofs.Document.Numbers
import LinearPrograms.Proofs.Problem.Format
import LinearPrograms.Proofs.Text.Numerals

/-!
# What stands for a number in a problem document

The format asks for numbers in five kinds of places (`Document.AtNumber`): the items of the
objective, of the bounds and of the bodies of constraints, and the constants of constraints. A value
there need not be a number of JSON: a truth value counts as one, and so does a text that spells one
(`Document.CountsAsNumber`).

`Document.IsFormat N` is the format with numbers as `N` says. It splits into its shape, with any
value in place of a number, and the values in these places (`isFormat_iff`). The documents that are
read are those of the right shape with nothing in these places but what counts as a number
(`Problem.ofDocument_numbers`).
-/

namespace LinearPrograms

namespace Document

/-- The value counts as a number: a number of JSON that is in range, but also a truth value or a
text that spells a number. -/
inductive CountsAsNumber : Document → Prop
  | int {i : Int} : i.natAbs < overflowThreshold → CountsAsNumber (int i)
  | float (x : Scalar) : CountsAsNumber (float x)
  | bool (b : Bool) : CountsAsNumber (bool b)
  | text {t : Text} : Numeral.Spells t → CountsAsNumber (text t)

def IsJsonNumber (d : Document) : Prop := (∃ i, d = int i) ∨ ∃ x, d = float x

/-- The values of the document where the format asks for a number. -/
inductive AtNumber (data : Document) : Document → Prop
  | item {key : String} {items : List Document} {d : Document} :
      key ∈ ["objective", "lower_bounds", "upper_bounds"] → data.field? key = some (list items) →
      d ∈ items → AtNumber data d
  | body {entries items : List Document} {entry d : Document} :
      data.field? "constraints" = some (list entries) → entry ∈ entries →
      entry.field? "body" = some (list items) → d ∈ items → AtNumber data d
  | rhs {entries : List Document} {entry d : Document} :
      data.field? "constraints" = some (list entries) → entry ∈ entries →
      entry.field? "rhs" = some d → AtNumber data d

section
variable (N : Document → Prop)

/-- The value is a list, with items as `N` says. -/
def IsListOf (d : Document) : Prop := ∃ items, d = list items ∧ ∀ item ∈ items, N item

/-- An entry of the constraints, with numbers as `N` says. -/
structure IsEntry (entry : Document) : Prop where
  isObject : ∃ fields, entry = .object fields
  body : entry.Has "body" (IsListOf N)
  relation : entry.Has "relation" fun value => ∃ r, Relation.parse value = .ok r
  rhs : entry.Has "rhs" N

/-- The format of a problem document, with numbers as `N` says. -/
structure IsFormat (data : Document) : Prop where
  isObject : ∃ fields, data = .object fields
  objective : data.Has "objective" fun value => IsListOf N value ∧ value ≠ .list []
  constraints : data.MayHave "constraints" (IsListOf (IsEntry N))
  lowerBounds : data.MayHave "lower_bounds" (IsListOf N)
  upperBounds : data.MayHave "upper_bounds" (IsListOf N)
  integer : data.MayHave "integer" fun value => ∃ flags, value.Flags flags
  scalingMode : data.MayHave "scaling_mode" fun value => ∃ mode, value = .int mode

end

/-- The shape of a problem document: any value may stand for a number. -/
def IsShaped (data : Document) : Prop := data.IsFormat fun _ => True

theorem isNumeric_iff {d : Document} : d.IsNumeric ↔ d.CountsAsNumber := by
  constructor
  · rintro ⟨x, h⟩
    cases d with
    | int i => exact .int (exists_scalarOfInt.1 ⟨x, h⟩)
    | text t =>
      refine .text (Numeral.scalar?_isSome.1 ?_)
      rw [toScalar] at h
      split at h
      · next hread => rw [hread]; rfl
      · cases h
    | bool b => exact .bool b
    | float x => exact .float x
    | null | list items | object fields => cases h
  · intro h
    cases h with
    | int hi => exact exists_scalarOfInt.2 hi
    | float x => exact ⟨x, rfl⟩
    | bool b => exact ⟨_, rfl⟩
    | text ht =>
      obtain ⟨x, hx⟩ := Option.isSome_iff_exists.1 (Numeral.scalar?_isSome.2 ht)
      exact ⟨x, by rw [toScalar, hx]⟩

/-! ## The shape and the places of numbers -/

section
variable {N M : Document → Prop} {d value data entry : Document} {key : String}
  {P Q : Document → Prop}

/-- A value under the key is as it has to be. -/
theorem Has.under (h : d.Has key P) (hvalue : d.field? key = some value) : P value := by
  obtain ⟨value', hvalue', hP⟩ := h
  rw [hvalue] at hvalue'
  exact Option.some.inj hvalue' ▸ hP

theorem MayHave.under (h : d.MayHave key P) (hvalue : d.field? key = some value)
    (hne : value ≠ .null) : P value := by
  rcases h with h | h | h
  · rw [hvalue] at h
    cases h
  · rw [hvalue] at h
    exact absurd (Option.some.inj h) hne
  · exact h.under hvalue

theorem Has.imp (h : d.Has key P) (hPQ : ∀ value, d.field? key = some value → P value → Q value) :
    d.Has key Q := by
  obtain ⟨value, hvalue, hP⟩ := h
  exact ⟨value, hvalue, hPQ value hvalue hP⟩

theorem MayHave.imp (h : d.MayHave key P)
    (hPQ : ∀ value, d.field? key = some value → P value → Q value) : d.MayHave key Q := by
  rcases h with h | h | h
  · exact .inl h
  · exact .inr (.inl h)
  · exact .inr (.inr (h.imp hPQ))

theorem IsListOf.imp (h : d.IsListOf N) (hNM : ∀ items, d = list items → ∀ item ∈ items, N item →
    M item) : d.IsListOf M := by
  obtain ⟨items, rfl, hN⟩ := h
  exact ⟨items, rfl, fun item hitem => hNM items rfl item hitem (hN item hitem)⟩

/-- The entry keeps its form if what stands for a number in it is as `M` says. -/
theorem IsEntry.imp (h : entry.IsEntry N)
    (hbody : ∀ items, entry.field? "body" = some (list items) → ∀ d ∈ items, N d → M d)
    (hrhs : ∀ d, entry.field? "rhs" = some d → N d → M d) : entry.IsEntry M where
  isObject := h.isObject
  body := h.body.imp fun _ hvalue hlist => hlist.imp fun items heq => hbody items (heq ▸ hvalue)
  relation := h.relation
  rhs := h.rhs.imp hrhs

/-- And so does the document. -/
theorem IsFormat.imp (h : data.IsFormat N) (hNM : ∀ d, data.AtNumber d → N d → M d) :
    data.IsFormat M := by
  have hitems : ∀ key ∈ ["objective", "lower_bounds", "upper_bounds"], ∀ value,
      data.field? key = some value → value.IsListOf N → value.IsListOf M :=
    fun key hkey value hvalue hlist => hlist.imp fun items heq d hd =>
      hNM d (.item hkey (heq ▸ hvalue) hd)
  have hentries : ∀ value, data.field? "constraints" = some value → value.IsListOf (IsEntry N) →
      value.IsListOf (IsEntry M) :=
    fun value hvalue hlist => hlist.imp fun entries heq entry hentry he =>
      he.imp (fun items hbody d hd => hNM d (.body (heq ▸ hvalue) hentry hbody hd))
        fun d hrhs => hNM d (.rhs (heq ▸ hvalue) hentry hrhs)
  exact {
    isObject := h.isObject
    objective := h.objective.imp fun value hvalue ⟨hlist, hne⟩ =>
      ⟨hitems _ (by simp) value hvalue hlist, hne⟩
    constraints := h.constraints.imp hentries
    lowerBounds := h.lowerBounds.imp (hitems _ (by simp))
    upperBounds := h.upperBounds.imp (hitems _ (by simp))
    integer := h.integer
    scalingMode := h.scalingMode }

theorem isListOf_list {items : List Document} : IsListOf N (list items) ↔ ∀ d ∈ items, N d :=
  ⟨fun ⟨_, h, hN⟩ => list.inj h ▸ hN, fun hN => ⟨items, rfl, hN⟩⟩

/-- Whatever the format asks for is so in the places of numbers. -/
theorem IsFormat.atNumber (h : data.IsFormat N) (hd : data.AtNumber d) : N d := by
  have hentries : ∀ {entries : List Document}, data.field? "constraints" = some (list entries) →
      ∀ entry ∈ entries, entry.IsEntry N := fun hfield =>
    isListOf_list.1 (h.constraints.under hfield nofun)
  cases hd with
  | item hkey hfield hd =>
    refine isListOf_list.1 ?_ d hd
    simp only [List.mem_cons, List.not_mem_nil, or_false] at hkey
    rcases hkey with rfl | rfl | rfl
    · exact (h.objective.under hfield).1
    · exact h.lowerBounds.under hfield nofun
    · exact h.upperBounds.under hfield nofun
  | body hfield hentry hbody hd =>
    exact isListOf_list.1 ((hentries hfield _ hentry).body.under hbody) d hd
  | rhs hfield hentry hrhs => exact (hentries hfield _ hentry).rhs.under hrhs

/-- The format is the shape, with the right values in the places of numbers. -/
theorem isFormat_iff : data.IsFormat N ↔ data.IsShaped ∧ ∀ d, data.AtNumber d → N d :=
  ⟨fun h => ⟨h.imp fun _ _ _ => trivial, fun _ => h.atNumber⟩,
    fun ⟨hshape, hN⟩ => hshape.imp fun d hd _ => hN d hd⟩

theorem isConstraint_iff_isEntry : entry.IsConstraint ↔ entry.IsEntry IsNumeric :=
  ⟨fun ⟨ho, hb, hr, hc⟩ => ⟨ho, hb, hr, hc⟩, fun ⟨ho, hb, hr, hc⟩ => ⟨ho, hb, hr, hc⟩⟩

theorem isProblem_iff_isFormat : data.IsProblem ↔ data.IsFormat IsNumeric := by
  have hlist : ∀ value, IsConstraintList value ↔ IsListOf (IsEntry IsNumeric) value := fun _ => by
    simp only [IsConstraintList, IsListOf, isConstraint_iff_isEntry]
  constructor
  · rintro ⟨hobject, hobjective, hconstraints, hlower, hupper, hflags, hmode⟩
    exact ⟨hobject, hobjective, hconstraints.imp fun value _ => (hlist value).1, hlower, hupper,
      hflags, hmode⟩
  · rintro ⟨hobject, hobjective, hconstraints, hlower, hupper, hflags, hmode⟩
    exact ⟨hobject, hobjective, hconstraints.imp fun value _ => (hlist value).2, hlower, hupper,
      hflags, hmode⟩

end

end Document

namespace Problem

open Document

/-- The documents that are read are those of the right shape, where every value in the place of a
number counts as one. -/
theorem ofDocument_numbers (data : Document) :
    (∃ p, ofDocument data = .ok p) ↔
      data.IsShaped ∧ ∀ d, data.AtNumber d → d.CountsAsNumber := by
  simp only [ofDocument_eq_ok_iff, ← isProblem_iff, isProblem_iff_isFormat, isFormat_iff,
    isNumeric_iff]

/-- A document whose objective holds a text. -/
def spelledDocument : Document :=
  .object [(Text.ofString "objective", .list [.text (Text.ofString "3")])]

/-- It is read, and the text stands in the place of a number. -/
theorem ofDocument_spelled :
    (∃ p, ofDocument spelledDocument = .ok p) ∧
      spelledDocument.AtNumber (.text (Text.ofString "3")) ∧
      ¬IsJsonNumber (.text (Text.ofString "3")) := by
  refine ⟨⟨_, rfl⟩, .item (.head _) rfl (.head _), ?_⟩
  rintro (⟨i, h⟩ | ⟨x, h⟩)
  · cases h
  · cases h

end Problem

end LinearPrograms
