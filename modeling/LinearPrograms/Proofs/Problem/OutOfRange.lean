import LinearPrograms.Proofs.Document.Numbers
import LinearPrograms.Proofs.Problem.Format

/-!
# Documents with numbers out of range

What cannot be read is refused as its place says, with two exceptions: an integer that no double
represents, and an infinite relation. These are faults of their own. `Document.Overflows` says when
a document ends the reading so, by what stands before such a number in the order of reading: the
objective, the constraints with their bodies, constants and relations, the flags, the scaling mode,
and the bounds.

Each reader ends so exactly on such a field (`scalars_eq_conversion` up to
`constraintsOf_eq_conversion`), and so does the reader of the whole (`ofDocument_eq_conversion`).
All other documents are read or refused for their form (`ofDocument_ends`).
-/

namespace LinearPrograms

namespace Document

variable {d value entry data : Document} {i : Int} {e : ConversionFault}

/-- In a list the first item that is no number is an integer that is too large. -/
def ListOverflows (d : Document) : Prop :=
  ∃ before item after, d = list (before ++ item :: after) ∧ (∀ x ∈ before, x.IsNumeric) ∧
    item.IsTooLarge

/-- The value has the keys of a constraint. -/
def HasKeys (entry : Document) : Prop :=
  ∀ key ∈ ["body", "relation", "rhs"], ∃ value, entry.field? key = some value

/-- A constraint has all its keys, and the first thing in it that is refused is a number out of
range; the constant is read before the relation. -/
inductive EntryOverflows (entry : Document) : ConversionFault → Prop
  | body : entry.HasKeys → (entry.fieldOrNull "body").ListOverflows →
      EntryOverflows entry .integerTooLarge
  | rhs : entry.HasKeys → (entry.fieldOrNull "body").IsNumberList →
      (entry.fieldOrNull "rhs").IsTooLarge → EntryOverflows entry .integerTooLarge
  | relation : entry.HasKeys → (entry.fieldOrNull "body").IsNumberList →
      (entry.fieldOrNull "rhs").IsNumeric → (entry.fieldOrNull "relation").IsInfinite →
      EntryOverflows entry .infinityToInteger

theorem EntryOverflows.hasKeys {cause : ConversionFault} (h : entry.EntryOverflows cause) :
    entry.HasKeys := by
  cases h <;> assumption

/-- The document has an objective of the format. -/
def HasObjective (data : Document) : Prop :=
  data.Has "objective" fun value => value.IsNumberList ∧ value ≠ .list []

/-- What is read between the objective and the bounds is as the format says. -/
structure SoundBeforeBounds (data : Document) : Prop where
  constraints : data.MayHave "constraints" IsConstraintList
  integer : data.MayHave "integer" fun value => ∃ flags, value.Flags flags
  scalingMode : data.MayHave "scaling_mode" fun value => ∃ mode, value = .int mode

/-- The first thing that is refused behind the objective is a number out of range. -/
inductive OverflowsBehind (data : Document) : ConversionFault → Prop
  | constraint {before after : List Document} {entry : Document} {cause : ConversionFault} :
      data.fieldOrNull "constraints" = list (before ++ entry :: after) →
      (∀ e ∈ before, e.IsConstraint) → EntryOverflows entry cause → OverflowsBehind data cause
  | lower : data.SoundBeforeBounds → (data.fieldOrNull "lower_bounds").ListOverflows →
      OverflowsBehind data .integerTooLarge
  | upper : data.SoundBeforeBounds → data.MayHave "lower_bounds" IsNumberList →
      (data.fieldOrNull "upper_bounds").ListOverflows → OverflowsBehind data .integerTooLarge

/-- The first thing that is refused in a document, in the order of reading, is a number out of
range. -/
inductive Overflows (data : Document) : ConversionFault → Prop
  | objective : (data.fieldOrNull "objective").ListOverflows → Overflows data .integerTooLarge
  | behind {cause : ConversionFault} : data.HasObjective → data.OverflowsBehind cause →
      Overflows data cause

/-- A value is a number out of range exactly if it is an integer that is too large. -/
theorem toScalar_overflows :
    d.toScalar = .error e ∧ e.isOverflow = true ↔ d.IsTooLarge ∧ e = .integerTooLarge := by
  constructor
  · rintro ⟨h, he⟩
    cases d with
    | int i =>
      obtain ⟨hi, rfl⟩ := scalarOfInt_eq_error.1 h
      exact ⟨⟨i, rfl, hi⟩, rfl⟩
    | text t =>
      rw [toScalar] at h
      split at h
      · cases h
      · cases h
        cases he
    | bool b | float x => cases h
    | null | list items | object fields =>
      cases h
      cases he
  · rintro ⟨⟨i, rfl, hi⟩, rfl⟩
    exact ⟨scalarOfInt_eq_error.2 ⟨hi, rfl⟩, rfl⟩

end Document

namespace Problem

open LinearPrograms.Computation Document

variable {key : String} {items : List Document} {data value entry : Document} {index : Nat}
  {cause : ConversionFault}

/-! ## The readers -/

/-- What cannot be read is refused as its place says, unless it is out of range. -/
theorem unread_eq_conversion {e : ConversionFault} {told : FormatFault} :
    (if e.isOverflow then Fault.conversion e else .format told) = .conversion cause ↔
      e = cause ∧ cause.isOverflow = true := by
  by_cases he : e.isOverflow = true
  · rw [if_pos he, Fault.conversion.injEq]
    exact ⟨fun h => ⟨h, h ▸ he⟩, And.left⟩
  · rw [if_neg he]
    refine iff_of_false nofun ?_
    rintro ⟨rfl, h⟩
    exact he h

theorem scalars_eq_conversion (key : String) :
    scalars key items = .error (.conversion cause) ↔
      (list items).ListOverflows ∧ cause = .integerTooLarge := by
  have hread : scalars key items = .error (.conversion cause) ↔
      toScalars items = .error cause ∧ cause.isOverflow = true := by
    unfold scalars
    cases toScalars items with
    | ok xs => simp
    | error e => rw [Except.error.injEq, unread_eq_conversion, Except.error.injEq]
  rw [hread, toScalars, mapM_eq_error_iff]
  constructor
  · rintro ⟨⟨before, x, after, rfl, hbefore, hx⟩, hcause⟩
    obtain ⟨hlarge, rfl⟩ := toScalar_overflows.1 ⟨hx, hcause⟩
    exact ⟨⟨before, x, after, rfl, hbefore, hlarge⟩, rfl⟩
  · rintro ⟨⟨before, x, after, hitems, hbefore, hlarge⟩, rfl⟩
    obtain rfl := list.inj hitems
    obtain ⟨hx, hcause⟩ := toScalar_overflows.2 ⟨hlarge, rfl⟩
    exact ⟨⟨before, x, after, rfl, hbefore, hx⟩, hcause⟩

theorem not_listOverflows_null : ¬ListOverflows .null := by
  rintro ⟨before, item, after, h, -⟩
  cases h

theorem optionalScalars_eq_conversion :
    optionalScalars data key = .error (.conversion cause) ↔
      (data.fieldOrNull key).ListOverflows ∧ cause = .integerTooLarge := by
  unfold optionalScalars
  split
  · next hnull =>
    rw [hnull]
    exact iff_of_false nofun fun h => not_listOverflows_null h.1
  · next items hitems =>
    rw [hitems, ← scalars_eq_conversion key]
    cases scalars key items <;> simp [Except.map]
  · next hnull hlist =>
    refine iff_of_false nofun ?_
    rintro ⟨⟨before, item, after, h, -⟩, -⟩
    exact hlist _ h

theorem requiredScalars_eq_conversion :
    requiredScalars data key = .error (.conversion cause) ↔
      (data.fieldOrNull key).ListOverflows ∧ cause = .integerTooLarge := by
  unfold requiredScalars
  rw [bind_eq_error, optionalScalars_eq_conversion, or_iff_left]
  rintro ⟨found, -, h⟩
  cases found with
  | none => cases h
  | some xs => cases h

theorem rightHandSide_eq_conversion :
    rightHandSide index value = .error (.conversion cause) ↔
      value.IsTooLarge ∧ cause = .integerTooLarge := by
  rw [← toScalar_overflows]
  unfold rightHandSide
  cases value.toScalar with
  | ok x => simp
  | error e => rw [Except.error.injEq, unread_eq_conversion, Except.error.injEq]

theorem relationOf_eq_conversion :
    relationOf index value = .error (.conversion cause) ↔
      value.IsInfinite ∧ cause = .infinityToInteger := by
  constructor
  · intro h
    unfold relationOf at h
    cases hparse : Relation.parse value with
    | ok r =>
      rw [hparse] at h
      cases h
    | error e =>
      rw [hparse] at h
      rcases parse_eq_error hparse with ⟨rfl, -⟩ | ⟨rfl, hinfinite⟩
      · rcases showing_cases value (.input (.unknownRelation value)) with hfault | hfault
        · rw [hfault] at h
          cases h
        · rw [hfault] at h
          cases h
      · cases h
        exact ⟨hinfinite, rfl⟩
  · rintro ⟨rfl | rfl, rfl⟩
    · rfl
    · rfl

theorem missingKeys_eq_nil : missingKeys entry = [] ↔ entry.HasKeys := by
  simp [missingKeys, HasKeys, ← Option.ne_none_iff_exists']

/-- The entry is refused for a number out of range exactly if such a number comes first. -/
theorem constraintOf_eq_conversion :
    constraintOf index entry = .error (.conversion cause) ↔ entry.EntryOverflows cause := by
  unfold constraintOf
  split
  · simp only
    split
    · next hmissing =>
      refine iff_of_false nofun fun h => ?_
      rw [missingKeys_eq_nil.2 h.hasKeys] at hmissing
      cases hmissing
    · next hmissing =>
      have hkeys : HasKeys _ := missingKeys_eq_nil.1 (by simpa using hmissing)
      simp only [bind_eq_error, requiredScalars_eq_conversion, requiredScalars_eq_ok,
        rightHandSide_eq_conversion, rightHandSide_eq_ok, relationOf_eq_conversion]
      constructor
      · rintro (⟨hbody, rfl⟩ | ⟨xs, hxs, ⟨hrhs, rfl⟩ | ⟨b, hb, ⟨hrelation, rfl⟩ | ⟨r, -, h⟩⟩⟩)
        · exact .body hkeys hbody
        · exact .rhs hkeys (isNumberList_iff.2 ⟨xs, hxs⟩) hrhs
        · exact .relation hkeys (isNumberList_iff.2 ⟨xs, hxs⟩) ⟨b, hb⟩ hrelation
        · cases h
      · intro h
        cases h with
        | body _ hbody => exact .inl ⟨hbody, rfl⟩
        | rhs _ hbody hrhs =>
          obtain ⟨xs, hxs⟩ := isNumberList_iff.1 hbody
          exact .inr ⟨xs, hxs, .inl ⟨hrhs, rfl⟩⟩
        | relation _ hbody hrhs hrelation =>
          obtain ⟨xs, hxs⟩ := isNumberList_iff.1 hbody
          obtain ⟨b, hb⟩ := hrhs
          exact .inr ⟨xs, hxs, .inr ⟨b, hb, .inl ⟨hrelation, rfl⟩⟩⟩
  · next hobject =>
    refine iff_of_false nofun fun h => ?_
    obtain ⟨value, hvalue⟩ := h.hasKeys "body" (by simp)
    cases entry with
    | object fields => exact hobject fields rfl
    | _ => cases hvalue

/-- The constraints are refused so exactly if the first one that is refused is. -/
theorem constraintsOf_eq_conversion :
    constraintsOf data = .error (.conversion cause) ↔
      ∃ before entry after, data.fieldOrNull "constraints" = list (before ++ entry :: after) ∧
        (∀ e ∈ before, e.IsConstraint) ∧ entry.EntryOverflows cause := by
  unfold constraintsOf
  split
  · next hnull =>
    rw [hnull]
    exact iff_of_false nofun fun ⟨_, _, _, h, _⟩ => nomatch h
  · next entries hentries =>
    rw [hentries, mapM_eq_error_iff]
    constructor
    · rintro ⟨before, p, after, hzip, hbefore, hp⟩
      have hsplit := congrArg (List.map Prod.fst) hzip
      rw [List.zipIdx_map_fst, List.map_append, List.map_cons] at hsplit
      refine ⟨_, _, _, congrArg list hsplit, fun e he => ?_, constraintOf_eq_conversion.1 hp⟩
      obtain ⟨z, hz, rfl⟩ := List.mem_map.1 he
      obtain ⟨c, hc⟩ := hbefore z hz
      exact isConstraint_iff.2 ⟨c, constraintOf_eq_ok.1 hc⟩
    · rintro ⟨before, entry, after, h, hbefore, hentry⟩
      obtain rfl := list.inj h
      refine ⟨before.zipIdx, (entry, before.length), after.zipIdx (before.length + 1), ?_,
        fun z hz => ?_, constraintOf_eq_conversion.2 hentry⟩
      · simp [List.zipIdx_append, List.zipIdx_cons]
      · obtain ⟨c, hc⟩ := isConstraint_iff.1 (hbefore z.1 (List.fst_mem_of_mem_zipIdx hz))
        exact ⟨c, constraintOf_eq_ok.2 hc⟩
  · next hnull hlist =>
    refine iff_of_false nofun ?_
    rintro ⟨before, entry, after, h, -⟩
    exact hlist _ h

theorem flagsOf_ne_conversion : flagsOf data ≠ .error (.conversion cause) := fun h =>
  (refuses_flagsOf (P := False) data _ h).2

theorem scalingOf_ne_conversion : scalingOf data ≠ .error (.conversion cause) := fun h =>
  (refuses_scalingOf (P := False) data _ h).2

theorem soundBeforeBounds_iff : data.SoundBeforeBounds ↔
    (∃ found, Optionally StatesAll (data.fieldOrNull "constraints") found) ∧
      (∃ flags, Optionally Flags (data.fieldOrNull "integer") flags) ∧
      ∃ mode, Optionally (fun value mode => value = .int mode)
        (data.fieldOrNull "scaling_mode") mode := by
  rw [← mayHaveConstraints_iff, ← mayHaveFlags_iff, ← mayHaveScaling_iff]
  exact ⟨fun h => ⟨h.constraints, h.integer, h.scalingMode⟩, fun ⟨hc, hi, hs⟩ => ⟨hc, hi, hs⟩⟩

/-- What is read behind the objective. -/
def ofObjective (data : Document) (objective : List Scalar) : Except Fault Problem := do
  let rows ← constraintsOf data
  let flags ← flagsOf data
  let mode ← scalingOf data
  let lower ← optionalScalars data "lower_bounds"
  let upper ← optionalScalars data "upper_bounds"
  return ⟨objective, rows, lower, upper, flags, mode⟩

theorem ofDocument_object (fields : List (Text × Document)) :
    ofDocument (.object fields) = requiredScalars (.object fields) "objective" >>= fun objective =>
      if objective.isEmpty then .error (.format .emptyObjective)
      else ofObjective (.object fields) objective := by
  unfold ofDocument
  refine congrArg (_ >>= ·) (funext fun objective => ?_)
  cases objective.isEmpty <;> rfl

theorem ofObjective_eq_conversion {objective : List Scalar} :
    ofObjective data objective = .error (.conversion cause) ↔ data.OverflowsBehind cause := by
  simp only [ofObjective, bind_eq_error, constraintsOf_eq_conversion, constraintsOf_eq_ok,
    flagsOf_eq_ok, flagsOf_ne_conversion, scalingOf_ne_conversion, scalingOf_eq_ok,
    optionalScalars_eq_conversion, optionalScalars_eq_ok, false_or]
  constructor
  · rintro (⟨before, entry, after, hentries, hbefore, hentry⟩ |
      ⟨rows, ⟨found, hrows, -⟩, flags, hflags, mode, hmode, h⟩)
    · exact .constraint hentries hbefore hentry
    have hsound : data.SoundBeforeBounds :=
      soundBeforeBounds_iff.2 ⟨⟨found, hrows⟩, ⟨flags, hflags⟩, mode, hmode⟩
    rcases h with ⟨hlower, rfl⟩ | ⟨lower, hlower, ⟨hupper, rfl⟩ | ⟨upper, -, h⟩⟩
    · exact .lower hsound hlower
    · exact .upper hsound ((mayHaveNumbers_iff _).2 ⟨lower, hlower⟩) hupper
    · cases h
  · intro h
    cases h with
    | constraint hentries hbefore hentry => exact .inl ⟨_, _, _, hentries, hbefore, hentry⟩
    | lower hsound hlower =>
      obtain ⟨⟨found, hrows⟩, ⟨flags, hflags⟩, mode, hmode⟩ := soundBeforeBounds_iff.1 hsound
      exact .inr ⟨_, ⟨found, hrows, rfl⟩, flags, hflags, mode, hmode, .inl ⟨hlower, rfl⟩⟩
    | upper hsound hlow hupper =>
      obtain ⟨⟨found, hrows⟩, ⟨flags, hflags⟩, mode, hmode⟩ := soundBeforeBounds_iff.1 hsound
      obtain ⟨lower, hlower⟩ := (mayHaveNumbers_iff _).1 hlow
      exact .inr ⟨_, ⟨found, hrows, rfl⟩, flags, hflags, mode, hmode,
        .inr ⟨lower, hlower, .inl ⟨hupper, rfl⟩⟩⟩

/-- A document is refused for a number out of range exactly if such a number comes first. -/
theorem ofDocument_eq_conversion :
    ofDocument data = .error (.conversion cause) ↔ data.Overflows cause := by
  cases data with
  | object fields =>
    rw [ofDocument_object]
    simp only [bind_eq_error, requiredScalars_eq_conversion, requiredScalars_eq_ok]
    constructor
    · rintro (⟨hobjective, rfl⟩ | ⟨xs, hxs, h⟩)
      · exact .objective hobjective
      split at h
      · cases h
      · next hne =>
        exact .behind (hasObjective_iff.2 ⟨xs, hxs, by simpa using hne⟩)
          (ofObjective_eq_conversion.1 h)
    · intro h
      cases h with
      | objective hobjective => exact .inl ⟨hobjective, rfl⟩
      | behind hobjective hbehind =>
        obtain ⟨xs, hxs, hne⟩ := hasObjective_iff.1 hobjective
        refine .inr ⟨xs, hxs, ?_⟩
        rw [if_neg (by simpa using hne)]
        exact ofObjective_eq_conversion.2 hbehind
  | _ =>
    refine iff_of_false nofun fun h => ?_
    cases h with
    | objective hobjective => exact not_listOverflows_null hobjective
    | behind hobjective =>
      obtain ⟨value, hvalue, -⟩ := hobjective
      cases hvalue

/-- The reading of a document ends with a problem or is refused for the form of the document,
unless the first thing that is refused is a number out of range. Then that number is the fault. -/
theorem ofDocument_ends (data : Document) :
    ((∃ p, ofDocument data = .ok p) ∨ (∃ cause, ofDocument data = .error (.format cause)) ↔
        ∀ cause, ¬data.Overflows cause) ∧
      ∀ cause, ofDocument data = .error (.conversion cause) ↔ data.Overflows cause := by
  refine ⟨?_, fun cause => ofDocument_eq_conversion⟩
  simp only [← ofDocument_eq_conversion]
  have hform := refuses_ofDocument data
  cases h : ofDocument data with
  | ok p => simp
  | error fault =>
    cases fault with
    | format cause => simp
    | conversion cause => simp
    | _ => exact (hform _ h).elim

theorem overflowThreshold_le_pow : overflowThreshold ≤ (10 ^ 100) ^ 4 := by
  refine (halfBelow_le 970).trans ?_
  rw [show 54 + 970 = 256 * 4 from rfl, pow_mul]
  exact Nat.pow_le_pow_left (by norm_num) 4

/-- An objective with an integer that is too large is not refused for its form. -/
theorem ofDocument_tooLarge :
    ofDocument (.object [(Text.ofString "objective", .list [.int ((10 ^ 100) ^ 4)])]) =
      .error (.conversion .integerTooLarge) := by
  have hlarge : (Document.int ((10 ^ 100) ^ 4)).IsTooLarge :=
    ⟨_, rfl, overflowThreshold_le_pow⟩
  exact ofDocument_eq_conversion.2 (.objective ⟨[], _, [], rfl, by simp, hlarge⟩)

end Problem

end LinearPrograms
