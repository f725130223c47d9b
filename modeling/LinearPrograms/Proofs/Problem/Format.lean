import LinearPrograms.Proofs.Problem.Refusal

/-!
# The format of problem documents

`Document.IsProblem` is the format as a predicate on documents: which fields there are, which of
them may be missing or null, and what their values are. `Document.Describes` relates a document to
the problem it describes: the numbers in the order of the document, a constraint for each entry, and
nothing for an optional field that is missing or null.

A reader of a field succeeds exactly with what the field describes (`scalars_eq_ok` up to
`scalingOf_eq_ok`), and so does the reader of the whole. The documents that are read are therefore
the ones of the format, and any other one is refused for its form, unless a number in it is out of
range (`Problem.ofDocument_accepts`).
-/

namespace LinearPrograms

namespace Document

/-! ## Fields and their values -/

/-- There is a value under the key, and it is as `P` says. -/
def Has (d : Document) (key : String) (P : Document → Prop) : Prop :=
  ∃ value, d.field? key = some value ∧ P value

/-- There is no value under the key, or null, or one that is as `P` says. -/
def MayHave (d : Document) (key : String) (P : Document → Prop) : Prop :=
  d.field? key = none ∨ d.field? key = some .null ∨ d.Has key P

def IsNumberList (d : Document) : Prop := ∃ items, d = .list items ∧ ∀ item ∈ items, item.IsNumeric

structure IsConstraint (entry : Document) : Prop where
  isObject : ∃ fields, entry = .object fields
  body : entry.Has "body" IsNumberList
  relation : entry.Has "relation" fun value => ∃ r, Relation.parse value = .ok r
  rhs : entry.Has "rhs" IsNumeric

def IsConstraintList (d : Document) : Prop :=
  ∃ entries, d = .list entries ∧ ∀ entry ∈ entries, entry.IsConstraint

/-- The value lists the truth values. -/
def Flags (d : Document) (flags : List Bool) : Prop := d = .list (flags.map .bool)

/-- The format of a problem document. -/
structure IsProblem (data : Document) : Prop where
  isObject : ∃ fields, data = .object fields
  objective : data.Has "objective" fun value => value.IsNumberList ∧ value ≠ .list []
  constraints : data.MayHave "constraints" IsConstraintList
  lowerBounds : data.MayHave "lower_bounds" IsNumberList
  upperBounds : data.MayHave "upper_bounds" IsNumberList
  integer : data.MayHave "integer" fun value => ∃ flags, value.Flags flags
  scalingMode : data.MayHave "scaling_mode" fun value => ∃ mode, value = .int mode

/-- The value lists the numbers, each one read from the item at its position. -/
def ListsNumbers (d : Document) (xs : List Scalar) : Prop :=
  ∃ items, d = .list items ∧ List.Forall₂ (fun item x => item.toScalar = .ok x) items xs

/-- A value that may be null gives nothing, or what `R` relates it to. -/
def Optionally {α : Type} (R : Document → α → Prop) (d : Document) : Option α → Prop
  | none => d = .null
  | some a => R d a

/-- The entry states the constraint. -/
structure States (entry : Document) (c : Constraint) : Prop where
  body : (entry.fieldOrNull "body").ListsNumbers c.body
  relation : Relation.parse (entry.fieldOrNull "relation") = .ok c.relation
  rhs : (entry.fieldOrNull "rhs").toScalar = .ok c.rhs

/-- The value states the constraints, each one in the entry at its position. -/
def StatesAll (d : Document) (cs : List Constraint) : Prop :=
  ∃ entries, d = .list entries ∧ List.Forall₂ States entries cs

/-- The document describes the problem. -/
structure Describes (data : Document) (p : Problem) : Prop where
  objective : (data.fieldOrNull "objective").ListsNumbers p.objective
  constraints : ∃ found, Optionally StatesAll (data.fieldOrNull "constraints") found ∧
    p.constraints = found.getD []
  lowerBounds : Optionally ListsNumbers (data.fieldOrNull "lower_bounds") p.lowerBounds
  upperBounds : Optionally ListsNumbers (data.fieldOrNull "upper_bounds") p.upperBounds
  integer : Optionally Flags (data.fieldOrNull "integer") p.integerVariables
  scalingMode : Optionally (fun value mode => value = .int mode)
    (data.fieldOrNull "scaling_mode") p.scalingMode

section
variable {α : Type} {d : Document} {key : String} {P : Document → Prop} {R : Document → α → Prop}

/-- A value that is not null is not missing either. -/
theorem field?_of_fieldOrNull (h : d.fieldOrNull key ≠ .null) :
    d.field? key = some (d.fieldOrNull key) := by
  unfold fieldOrNull at h ⊢
  cases hvalue : d.field? key with
  | none =>
    rw [hvalue] at h
    exact absurd rfl h
  | some value => rfl

theorem has_iff (hnull : ¬P .null) : d.Has key P ↔ P (d.fieldOrNull key) := by
  constructor
  · rintro ⟨value, hvalue, h⟩
    rwa [fieldOrNull, hvalue]
  · intro h
    refine ⟨_, field?_of_fieldOrNull fun heq => ?_, h⟩
    rw [heq] at h
    exact hnull h

theorem mayHave_iff (hnull : ¬P .null) (hP : ∀ value, P value ↔ ∃ a, R value a) :
    d.MayHave key P ↔ ∃ found, Optionally R (d.fieldOrNull key) found := by
  rw [MayHave, has_iff hnull, hP]
  constructor
  · rintro (h | h | ⟨a, h⟩)
    · exact ⟨none, by rw [fieldOrNull, h]; rfl⟩
    · exact ⟨none, by rw [fieldOrNull, h]; rfl⟩
    · exact ⟨some a, h⟩
  · rintro ⟨none | a, h⟩
    · cases hvalue : d.field? key with
      | none => exact .inl rfl
      | some value =>
        have hread : d.fieldOrNull key = value := by rw [fieldOrNull, hvalue]; rfl
        exact .inr (.inl (congrArg some (hread.symm.trans h)))
    · exact .inr (.inr ⟨a, h⟩)

theorem isNumberList_iff : d.IsNumberList ↔ ∃ xs, d.ListsNumbers xs := by
  constructor
  · rintro ⟨items, rfl, h⟩
    obtain ⟨xs, hxs⟩ := Computation.exists_mapM_eq_ok h
    exact ⟨xs, items, rfl, Computation.mapM_eq_ok.1 hxs⟩
  · rintro ⟨xs, items, rfl, h⟩
    refine ⟨items, rfl, fun item hitem => ?_⟩
    obtain ⟨x, -, hx⟩ := Computation.exists_of_mem_left h item hitem
    exact ⟨x, hx⟩

/-- Numbers are listed exactly if there are items to read them from. -/
theorem ListsNumbers.ne_nil {xs : List Scalar} (h : d.ListsNumbers xs) :
    xs ≠ [] ↔ d ≠ .list [] := by
  obtain ⟨items, rfl, hread⟩ := h
  cases hread <;> simp

theorem not_isNumberList_null : ¬IsNumberList .null := by
  rintro ⟨items, h, -⟩
  cases h

theorem isConstraint_iff {entry : Document} : entry.IsConstraint ↔ ∃ c, entry.States c := by
  constructor
  · rintro ⟨-, hbody, ⟨relation, hrelation, r, hr⟩, ⟨rhs, hrhs, b, hb⟩⟩
    obtain ⟨xs, hxs⟩ := isNumberList_iff.1 ((has_iff not_isNumberList_null).1 hbody)
    refine ⟨⟨xs, r, b⟩, hxs, ?_, ?_⟩
    · rwa [fieldOrNull, hrelation]
    · rwa [fieldOrNull, hrhs]
  · rintro ⟨c, hbody, hrelation, hrhs⟩
    have hlist : (entry.fieldOrNull "body").IsNumberList := isNumberList_iff.2 ⟨_, hbody⟩
    refine ⟨?_, (has_iff not_isNumberList_null).2 hlist, ?_, ?_⟩
    · cases entry with
      | object fields => exact ⟨fields, rfl⟩
      | _ => exact absurd hlist not_isNumberList_null
    · refine ⟨_, field?_of_fieldOrNull fun heq => ?_, _, hrelation⟩
      rw [heq] at hrelation
      cases hrelation
    · refine ⟨_, field?_of_fieldOrNull fun heq => ?_, _, hrhs⟩
      rw [heq] at hrhs
      cases hrhs

theorem isConstraintList_iff : d.IsConstraintList ↔ ∃ cs, d.StatesAll cs := by
  constructor
  · rintro ⟨entries, rfl, h⟩
    obtain ⟨cs, hcs⟩ : ∃ cs, List.Forall₂ States entries cs := by
      induction entries with
      | nil => exact ⟨[], .nil⟩
      | cons entry rest ih =>
        obtain ⟨c, hc⟩ := isConstraint_iff.1 (h entry (.head _))
        obtain ⟨cs, hcs⟩ := ih fun e he => h e (.tail _ he)
        exact ⟨c :: cs, .cons hc hcs⟩
    exact ⟨cs, entries, rfl, hcs⟩
  · rintro ⟨cs, entries, rfl, h⟩
    refine ⟨entries, rfl, fun entry hentry => ?_⟩
    obtain ⟨c, -, hc⟩ := Computation.exists_of_mem_left h entry hentry
    exact isConstraint_iff.2 ⟨c, hc⟩

end

/-! ## The fields of the format -/

section
variable {data : Document}

theorem hasObjective_iff :
    (data.Has "objective" fun value => value.IsNumberList ∧ value ≠ .list []) ↔
      ∃ xs, (data.fieldOrNull "objective").ListsNumbers xs ∧ xs ≠ [] := by
  rw [has_iff fun h => not_isNumberList_null h.1, isNumberList_iff]
  constructor
  · rintro ⟨⟨xs, hxs⟩, hne⟩
    exact ⟨xs, hxs, hxs.ne_nil.2 hne⟩
  · rintro ⟨xs, hxs, hne⟩
    exact ⟨⟨xs, hxs⟩, hxs.ne_nil.1 hne⟩

theorem mayHaveNumbers_iff (key : String) :
    data.MayHave key IsNumberList ↔
      ∃ found, Optionally ListsNumbers (data.fieldOrNull key) found :=
  mayHave_iff not_isNumberList_null fun _ => isNumberList_iff

theorem mayHaveConstraints_iff :
    data.MayHave "constraints" IsConstraintList ↔
      ∃ found, Optionally StatesAll (data.fieldOrNull "constraints") found :=
  mayHave_iff (by rintro ⟨entries, h, -⟩; cases h) fun _ => isConstraintList_iff

theorem mayHaveFlags_iff :
    (data.MayHave "integer" fun value => ∃ flags, value.Flags flags) ↔
      ∃ found, Optionally Flags (data.fieldOrNull "integer") found :=
  mayHave_iff (by rintro ⟨flags, h⟩; cases h) fun _ => Iff.rfl

theorem mayHaveScaling_iff :
    (data.MayHave "scaling_mode" fun value => ∃ mode, value = .int mode) ↔
      ∃ found, Optionally (fun value mode => value = .int mode)
        (data.fieldOrNull "scaling_mode") found :=
  mayHave_iff (by rintro ⟨mode, h⟩; cases h) fun _ => Iff.rfl

/-- The documents of the format are those that describe a problem with an objective. -/
theorem isProblem_iff : data.IsProblem ↔ ∃ p, data.Describes p ∧ p.objective ≠ [] := by
  constructor
  · rintro ⟨-, hobj, hcon, hlow, hup, hint, hscal⟩
    obtain ⟨c, hc, hne⟩ := hasObjective_iff.1 hobj
    obtain ⟨rows, hrows⟩ := mayHaveConstraints_iff.1 hcon
    obtain ⟨lower, hlower⟩ := (mayHaveNumbers_iff _).1 hlow
    obtain ⟨upper, hupper⟩ := (mayHaveNumbers_iff _).1 hup
    obtain ⟨flags, hflags⟩ := mayHaveFlags_iff.1 hint
    obtain ⟨mode, hmode⟩ := mayHaveScaling_iff.1 hscal
    exact ⟨⟨c, rows.getD [], lower, upper, flags, mode⟩,
      ⟨hc, ⟨rows, hrows, rfl⟩, hlower, hupper, hflags, hmode⟩, hne⟩
  · rintro ⟨p, ⟨hc, ⟨rows, hrows, -⟩, hlower, hupper, hflags, hmode⟩, hne⟩
    have hlist := isNumberList_iff.2 ⟨_, hc⟩
    refine ⟨?_, hasObjective_iff.2 ⟨_, hc, hne⟩, mayHaveConstraints_iff.2 ⟨rows, hrows⟩,
      (mayHaveNumbers_iff _).2 ⟨_, hlower⟩, (mayHaveNumbers_iff _).2 ⟨_, hupper⟩,
      mayHaveFlags_iff.2 ⟨_, hflags⟩, mayHaveScaling_iff.2 ⟨_, hmode⟩⟩
    cases data with
    | object fields => exact ⟨fields, rfl⟩
    | _ => exact absurd hlist not_isNumberList_null

end

end Document

/-! ## The readers -/

namespace Problem

open LinearPrograms.Computation Document

variable {data : Document} {key : String} {p : Problem}

theorem scalars_eq_ok (key : String) {items : List Document} {xs : List Scalar} :
    scalars key items = .ok xs ↔ List.Forall₂ (fun item x => item.toScalar = .ok x) items xs := by
  rw [← mapM_eq_ok]
  unfold scalars
  cases h : toScalars items with
  | ok ys => rw [show items.mapM toScalar = .ok ys from h, Except.ok.injEq, Except.ok.injEq]
  | error e =>
    rw [show items.mapM toScalar = .error e from h]
    simp

theorem listsNumbers_list {items : List Document} {xs : List Scalar} :
    (list items).ListsNumbers xs ↔ List.Forall₂ (fun item x => item.toScalar = .ok x) items xs :=
  ⟨fun ⟨_, h, hread⟩ => list.inj h ▸ hread, fun hread => ⟨items, rfl, hread⟩⟩

theorem optionalScalars_eq_ok {found : Option (List Scalar)} :
    optionalScalars data key = .ok found ↔
      Optionally ListsNumbers (data.fieldOrNull key) found := by
  unfold optionalScalars
  split
  · next hnull =>
    rw [hnull]
    cases found <;> simp [Optionally, ListsNumbers]
  · next items hitems =>
    rw [hitems]
    cases found with
    | none => cases scalars key items <;> simp [Optionally, Except.map]
    | some xs =>
      rw [Optionally, listsNumbers_list, ← scalars_eq_ok key]
      cases scalars key items <;> simp [Except.map]
  · next hnull hlist =>
    refine iff_of_false (fun h => by cases h) fun h => ?_
    cases found with
    | none => exact hnull h
    | some xs =>
      obtain ⟨items, hitems, -⟩ := h
      exact hlist items hitems

theorem requiredScalars_eq_ok {xs : List Scalar} :
    requiredScalars data key = .ok xs ↔ (data.fieldOrNull key).ListsNumbers xs := by
  unfold requiredScalars
  simp only [bind_eq_ok, optionalScalars_eq_ok]
  constructor
  · rintro ⟨found, h, hxs⟩
    cases found with
    | none => cases hxs
    | some ys =>
      cases hxs
      exact h
  · intro h
    exact ⟨some xs, h, rfl⟩

theorem rightHandSide_eq_ok {index : Nat} {value : Document} {x : Scalar} :
    rightHandSide index value = .ok x ↔ value.toScalar = .ok x := by
  unfold rightHandSide
  cases value.toScalar <;> simp

theorem relationOf_eq_ok {index : Nat} {value : Document} {r : Relation} :
    relationOf index value = .ok r ↔ Relation.parse value = .ok r := by
  unfold relationOf
  cases h : Relation.parse value with
  | ok r' => simp
  | error e =>
    rcases parse_eq_error h with ⟨rfl, -⟩ | ⟨rfl, -⟩
    · rcases showing_cases value (.input (.unknownRelation value)) with hfault | hfault
      · simp [hfault]
      · simp [hfault, ConversionFault.isOverflow]
    · simp [ConversionFault.isOverflow]

/-- The three keys of a constraint are there if it is stated. -/
theorem missingKeys_of_states {entry : Document} {c : Constraint} (h : entry.States c) :
    missingKeys entry = [] := by
  obtain ⟨-, ⟨body, hbody, -⟩, ⟨relation, hrelation, -⟩, ⟨rhs, hrhs, -⟩⟩ :=
    isConstraint_iff.2 ⟨c, h⟩
  simp [missingKeys, hbody, hrelation, hrhs]

theorem constraintOf_eq_ok {index : Nat} {entry : Document} {c : Constraint} :
    constraintOf index entry = .ok c ↔ entry.States c := by
  unfold constraintOf
  split
  · simp only
    split
    · next hmissing =>
      refine iff_of_false (fun h => by cases h) fun h => ?_
      rw [missingKeys_of_states h] at hmissing
      cases hmissing
    · simp only [bind_eq_ok, requiredScalars_eq_ok, rightHandSide_eq_ok, relationOf_eq_ok,
        pure_eq_ok]
      constructor
      · rintro ⟨body, hbody, rhs, hrhs, r, hr, rfl⟩
        exact ⟨hbody, hr, hrhs⟩
      · intro h
        exact ⟨_, h.body, _, h.rhs, _, h.relation, rfl⟩
  · next hobject =>
    refine iff_of_false (fun h => by cases h) fun h => ?_
    obtain ⟨fields, hfields⟩ := (isConstraint_iff.2 ⟨c, h⟩).isObject
    exact hobject fields hfields

theorem constraintsOf_eq_ok {cs : List Constraint} :
    constraintsOf data = .ok cs ↔
      ∃ found, Optionally StatesAll (data.fieldOrNull "constraints") found ∧
        cs = found.getD [] := by
  unfold constraintsOf
  split
  · next hnull =>
    rw [hnull]
    constructor
    · intro h
      cases h
      exact ⟨none, rfl, rfl⟩
    · rintro ⟨none | cs', h, rfl⟩
      · rfl
      · obtain ⟨entries, hentries, -⟩ := h
        cases hentries
  · next entries hentries =>
    rw [hentries, mapM_eq_ok]
    have hzip : List.Forall₂ (fun (q : Document × Nat) c => constraintOf q.2 q.1 = .ok c)
        entries.zipIdx cs ↔ List.Forall₂ States entries cs := by
      simp only [constraintOf_eq_ok]
      rw [← List.forall₂_map_left_iff (f := Prod.fst) (R := States)]
      simp
    rw [hzip]
    constructor
    · intro h
      exact ⟨some cs, ⟨entries, rfl, h⟩, rfl⟩
    · rintro ⟨none | cs', h, rfl⟩
      · cases h
      · obtain ⟨entries', hsame, hstates⟩ := h
        cases hsame
        exact hstates
  · next hnull hlist =>
    refine iff_of_false (fun h => by cases h) ?_
    rintro ⟨none | cs', h, -⟩
    · exact hnull h
    · obtain ⟨entries, hentries, -⟩ := h
      exact hlist entries hentries

theorem mapM_flag? :
    ∀ {items : List Document} {flags : List Bool},
      items.mapM flag? = some flags ↔ items = flags.map .bool
  | [], flags => by
    rw [List.mapM_nil]
    simp [eq_comm]
  | item :: rest, flags => by
    rw [List.mapM_cons]
    simp only [Option.bind_eq_bind, Option.bind_eq_some_iff, mapM_flag?]
    constructor
    · rintro ⟨b, hb, bs, rfl, hflags⟩
      cases item with
      | bool b' =>
        cases hb
        cases hflags
        rfl
      | _ => cases hb
    · intro h
      cases flags with
      | nil => cases h
      | cons b bs =>
        obtain ⟨rfl, rfl⟩ := List.cons.inj h
        exact ⟨b, rfl, bs, rfl, rfl⟩

theorem flagsOf_eq_ok {found : Option (List Bool)} :
    flagsOf data = .ok found ↔ Optionally Flags (data.fieldOrNull "integer") found := by
  unfold flagsOf
  split
  · next hnull =>
    rw [hnull]
    cases found <;> simp [Optionally, Flags]
  · next items hitems =>
    rw [hitems]
    cases found with
    | none => cases items.mapM flag? <;> simp [Optionally]
    | some flags =>
      rw [Optionally, Flags, list.injEq, ← mapM_flag?]
      cases items.mapM flag? <;> simp
  · next hnull hlist =>
    refine iff_of_false (fun h => by cases h) fun h => ?_
    cases found with
    | none => exact hnull h
    | some flags => exact hlist _ h

theorem scalingOf_eq_ok {found : Option Int} :
    scalingOf data = .ok found ↔
      Optionally (fun value mode => value = .int mode) (data.fieldOrNull "scaling_mode") found := by
  unfold scalingOf
  cases data.fieldOrNull "scaling_mode" <;> cases found <;> simp [Optionally, eq_comm]

/-- A document is read exactly as the problem that it describes, which must have an objective. -/
theorem ofDocument_eq_ok_iff : ofDocument data = .ok p ↔ data.Describes p ∧ p.objective ≠ [] := by
  unfold ofDocument
  split
  · simp only [bind_eq_ok, requiredScalars_eq_ok]
    constructor
    · rintro ⟨objective, hobjective, h⟩
      split at h
      · cases h
      · next hempty =>
        simp only [bind_eq_ok, constraintsOf_eq_ok, flagsOf_eq_ok, scalingOf_eq_ok,
          optionalScalars_eq_ok, pure_eq_ok] at h
        obtain ⟨rows, hrows, flags, hflags, mode, hmode, lower, hlower, upper, hupper, rfl⟩ := h
        refine ⟨⟨hobjective, hrows, hlower, hupper, hflags, hmode⟩, fun h => hempty ?_⟩
        rw [List.isEmpty_iff]
        exact h
    · rintro ⟨h, hne⟩
      refine ⟨_, h.objective, ?_⟩
      rw [if_neg (by simpa using hne)]
      simp only [bind_eq_ok, constraintsOf_eq_ok, flagsOf_eq_ok, scalingOf_eq_ok,
        optionalScalars_eq_ok, pure_eq_ok]
      exact ⟨_, h.constraints, _, h.integer, _, h.scalingMode, _, h.lowerBounds, _, h.upperBounds,
        rfl⟩
  · next hobject =>
    refine iff_of_false (fun h => by cases h) fun h => ?_
    obtain ⟨fields, hfields⟩ := (isProblem_iff.2 ⟨p, h⟩).isObject
    exact hobject fields hfields

/-- The documents that are read are those of the format, each as the problem that it describes. Any
other document is refused for its form, unless a number in it is out of range. -/
theorem ofDocument_accepts (data : Document) :
    ((∃ p, ofDocument data = .ok p) ↔ data.IsProblem) ∧
      (∀ p, ofDocument data = .ok p ↔ data.IsProblem ∧ data.Describes p) ∧
      (¬OutOfRange data → ∀ fault, ofDocument data = .error fault →
        ∃ cause, fault = .format cause) := by
  refine ⟨?_, fun p => ?_, fun hrange fault hfault => ?_⟩
  · simp only [ofDocument_eq_ok_iff, isProblem_iff]
  · rw [ofDocument_eq_ok_iff]
    constructor
    · rintro ⟨h, hne⟩
      exact ⟨isProblem_iff.2 ⟨p, h, hne⟩, h⟩
    · rintro ⟨hproblem, h⟩
      have hvalue := (has_iff fun h => not_isNumberList_null h.1).1 hproblem.objective
      exact ⟨h, h.objective.ne_nil.2 hvalue.2⟩
  · have hform := refuses_ofDocument data fault hfault
    cases fault with
    | format cause => exact ⟨cause, rfl⟩
    | conversion cause => exact absurd hform.2 hrange
    | _ => exact hform.elim

/-- A problem with a field that the format does not name, and without most of those it does. -/
def sampleDocument : Document :=
  .object [(Text.ofString "name", .int 5),
    (Text.ofString "objective", .list [.float .one, .bool true]),
    (Text.ofString "constraints", .list [.object [
      (Text.ofString "rhs", .float .one), (Text.ofString "relation", .text (Text.ofString " ge ")),
      (Text.ofString "body", .list [.float .negInf, .float .zero])]]),
    (Text.ofString "integer", .list [.bool false]), (Text.ofString "scaling_mode", .null)]

/-- A problem whose objective is no list. -/
def refusedDocument : Document := .object [(Text.ofString "objective", .bool true)]

theorem ofDocument_accepts_sample :
    ofDocument sampleDocument = .ok
        { objective := [.one, .one]
          constraints := [⟨[.negInf, .zero], .ge, .one⟩]
          integerVariables := some [false] } ∧
      sampleDocument.IsProblem ∧ ¬OutOfRange refusedDocument ∧
      ∃ cause, ofDocument refusedDocument = .error (.format cause) := by
  have hsample : ofDocument sampleDocument = .ok
      { objective := [.one, .one]
        constraints := [⟨[.negInf, .zero], .ge, .one⟩]
        integerVariables := some [false] } := rfl
  have hrefused : ofDocument refusedDocument = .error (.format (.notList "objective")) := rfl
  have hrange : ¬OutOfRange refusedDocument := by
    rintro (⟨i, hi, -⟩ | ⟨entries, hentries, -⟩)
    · cases hi with
      | field hf hvalue =>
        obtain rfl := List.mem_singleton.1 hf
        cases hvalue
    · cases hentries
  obtain ⟨cause, hcause⟩ := (ofDocument_accepts refusedDocument).2.2 hrange _ hrefused
  exact ⟨hsample, (ofDocument_accepts sampleDocument).1.1 ⟨_, hsample⟩, hrange, cause,
    hcause ▸ hrefused⟩

end Problem

end LinearPrograms
