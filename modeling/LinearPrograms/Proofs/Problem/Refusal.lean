import LinearPrograms.Problem.File
import LinearPrograms.Proofs.Action.Computation

/-!
# Why a problem file is refused

A document is refused for its form, or because a number in it is out of range: an integer that is
too large for a float, or an infinite relation (`refuses_ofDocument`). Each reader of a field fails
in these ways only, and so does the whole. A file is refused for its form, or it is `Unread` for one
of four reasons that its octets decide: they are not UTF-8, an integer has too many digits, the
document is nested too deeply, or a number is out of range (`ofFile_eq_error`).
-/

namespace LinearPrograms

/-! ## Numbers out of range -/

namespace Document

/-- A document is a part of another one: it is that document, or it occurs in an item or a field. -/
inductive Occurs (d : Document) : Document → Prop
  | here : Occurs d d
  | item {items : List Document} {x : Document} : x ∈ items → Occurs d x → Occurs d (list items)
  | field {fields : List (Text × Document)} {f : Text × Document} : f ∈ fields → Occurs d f.2 →
      Occurs d (object fields)

/-- The value can be read as a number. -/
def IsNumeric (d : Document) : Prop := ∃ x, d.toScalar = .ok x

/-- There is an integer in the document that is too large for a float. -/
def HasLargeInteger (d : Document) : Prop := ∃ i, (int i).Occurs d ∧ ¬(int i).IsNumeric

def IsInfinite (d : Document) : Prop := d = float .posInf ∨ d = float .negInf

variable {d value : Document} {e : ConversionFault}

theorem HasLargeInteger.item {items : List Document} (hvalue : value ∈ items)
    (h : value.HasLargeInteger) : (list items).HasLargeInteger := by
  obtain ⟨i, hi, hlarge⟩ := h
  exact ⟨i, .item hvalue hi, hlarge⟩

theorem mem_of_lookup {key : Text} :
    ∀ {fields : List (Text × Document)}, lookup key fields = some value →
      ∃ f ∈ fields, f.2 = value
  | [], h => by cases h
  | (k, v) :: rest, h => by
    rw [lookup] at h
    split at h
    · exact ⟨(k, v), .head _, Option.some.inj h⟩
    · obtain ⟨f, hf, hv⟩ := mem_of_lookup h
      exact ⟨f, .tail _ hf, hv⟩

/-- What is too large in a field is too large in the document. -/
theorem HasLargeInteger.of_field {key : String} (h : (d.fieldOrNull key).HasLargeInteger) :
    d.HasLargeInteger := by
  obtain ⟨i, hi, hlarge⟩ := h
  refine ⟨i, ?_, hlarge⟩
  cases hvalue : d.field? key with
  | none =>
    rw [fieldOrNull, hvalue] at hi
    cases hi
  | some value =>
    rw [fieldOrNull, hvalue] at hi
    cases d with
    | object fields =>
      obtain ⟨f, hf, rfl⟩ := mem_of_lookup hvalue
      exact .field hf hi
    | _ => cases hvalue

/-- Of all values only an integer is a number that no float is. -/
theorem large_of_toScalar (h : d.toScalar = .error e) (he : e.isOverflow = true) :
    d.HasLargeInteger := by
  cases d with
  | int i =>
    refine ⟨i, .here, fun hnumeric => ?_⟩
    obtain ⟨x, hx⟩ := hnumeric
    rw [h] at hx
    cases hx
  | text t =>
    rw [toScalar] at h
    split at h
    · cases h
    · cases h
      cases he
  | bool b | float x => cases h
  | null | list items | object fields =>
    cases h
    cases he

end Document

/-- Is something wrong with the form of a document, or is a number out of range, as `P` says? -/
def Fault.IsOfDocument (P : Prop) : Fault → Prop
  | .format _ => True
  | .conversion cause => cause.isOverflow = true ∧ P
  | _ => False

theorem Fault.IsOfDocument.imp {P Q : Prop} {fault : Fault} (h : fault.IsOfDocument P)
    (hpq : P → Q) : fault.IsOfDocument Q := by
  cases fault with
  | conversion cause => exact ⟨h.1, hpq h.2⟩
  | format cause => trivial
  | _ => exact h

namespace Problem

open LinearPrograms.Computation

section
variable {P : Prop}

theorem refuses_mono {Q : Prop} {α : Type} {x : Except Fault α}
    (h : FailsIn (Fault.IsOfDocument P) x) (hpq : P → Q) : FailsIn (Fault.IsOfDocument Q) x :=
  h.mono fun _ he => he.imp hpq

theorem refuses_format {α : Type} {cause : FormatFault} :
    FailsIn (Fault.IsOfDocument P) (.error (.format cause) : Except Fault α) :=
  failsIn_error.2 trivial

/-- A value that cannot be read is refused as its place says, unless it is out of range. -/
theorem isOfDocument_unread {e : ConversionFault} (h : e.isOverflow = true → P)
    (cause : FormatFault) :
    (if e.isOverflow then Fault.conversion e else .format cause).IsOfDocument P := by
  split
  · exact ⟨‹_›, h ‹_›⟩
  · trivial

end

/-! ## The fields -/

theorem refuses_scalars (key : String) (items : List Document) :
    FailsIn (Fault.IsOfDocument (Document.list items).HasLargeInteger) (scalars key items) := by
  unfold scalars
  cases h : Document.toScalars items with
  | ok xs => exact failsIn_ok xs
  | error e =>
    refine failsIn_error.2 (isOfDocument_unread (fun he => ?_) _)
    obtain ⟨value, hvalue, hread⟩ := mapM_eq_error h
    exact (Document.large_of_toScalar hread he).item hvalue

theorem refuses_optionalScalars (data : Document) (key : String) :
    FailsIn (Fault.IsOfDocument data.HasLargeInteger) (optionalScalars data key) := by
  unfold optionalScalars
  split
  · exact failsIn_ok none
  · next items hitems =>
    refine failsIn_map some (refuses_mono (refuses_scalars key items) fun h => ?_)
    rw [← hitems] at h
    exact h.of_field
  · exact refuses_format

theorem refuses_requiredScalars (data : Document) (key : String) :
    FailsIn (Fault.IsOfDocument data.HasLargeInteger) (requiredScalars data key) := by
  refine failsIn_bind (refuses_optionalScalars data key) fun found => ?_
  cases found with
  | none => exact refuses_format
  | some xs => exact failsIn_ok xs

theorem refuses_rightHandSide (index : Nat) (value : Document) :
    FailsIn (Fault.IsOfDocument value.HasLargeInteger) (rightHandSide index value) := by
  unfold rightHandSide
  cases h : value.toScalar with
  | ok x => exact failsIn_ok x
  | error e => exact failsIn_error.2 (isOfDocument_unread (Document.large_of_toScalar h) _)

theorem showing_cases (value : Document) (fault : Fault) :
    value.showing fault = fault ∨ value.showing fault = .conversion .tooManyDigitsToWrite :=
  ite_eq_or_eq _ _ _

/-- A value that names no relation is refused as such, unless it is infinite. -/
theorem parse_eq_error {value : Document} {e : Fault} (h : Relation.parse value = .error e) :
    (e = value.showing (.input (.unknownRelation value)) ∧ ¬value.IsInfinite) ∨
      (e = .conversion .infinityToInteger ∧ value.IsInfinite) := by
  cases value with
  | text t | int i => exact .inl ⟨(elim_eq_error.1 h).2.symm, by simp [Document.IsInfinite]⟩
  | bool b | null | list items | object fields =>
    exact .inl ⟨(Except.error.inj h).symm, by simp [Document.IsInfinite]⟩
  | float x =>
    cases x with
    | posInf => exact .inr ⟨(Except.error.inj h).symm, .inl rfl⟩
    | negInf => exact .inr ⟨(Except.error.inj h).symm, .inr rfl⟩
    | nan | negZero => exact .inl ⟨(Except.error.inj h).symm, by simp [Document.IsInfinite]⟩
    | finite q => exact .inl ⟨(elim_eq_error.1 h).2.symm, by simp [Document.IsInfinite]⟩

theorem refuses_relationOf (index : Nat) (value : Document) :
    FailsIn (Fault.IsOfDocument value.IsInfinite) (relationOf index value) := by
  unfold relationOf
  cases h : Relation.parse value with
  | ok r => exact failsIn_ok r
  | error e =>
    rcases parse_eq_error h with ⟨rfl, -⟩ | ⟨rfl, hvalue⟩
    · rcases showing_cases value (.input (.unknownRelation value)) with hfault | hfault
      · rw [hfault]
        exact refuses_format
      · rw [hfault]
        exact refuses_format
    · exact failsIn_error.2 ⟨rfl, hvalue⟩

/-- An entry of the constraints has a number out of range. -/
def EntryOutOfRange (entry : Document) : Prop :=
  entry.HasLargeInteger ∨ (entry.fieldOrNull "relation").IsInfinite

theorem refuses_constraintOf (index : Nat) (entry : Document) :
    FailsIn (Fault.IsOfDocument (EntryOutOfRange entry)) (constraintOf index entry) := by
  unfold constraintOf
  split
  · simp only
    split
    · exact refuses_format
    · refine failsIn_bind (refuses_mono (refuses_requiredScalars _ _) .inl) fun body => ?_
      refine failsIn_bind (refuses_mono (refuses_rightHandSide _ _) fun h => ?_) fun rhs => ?_
      · exact .inl h.of_field
      · exact failsIn_bind (refuses_mono (refuses_relationOf _ _) .inr) fun r => failsIn_ok _
  · exact refuses_format

/-- A number in the document is out of range: an integer is too large for a float, or a relation is
infinite. -/
def OutOfRange (data : Document) : Prop :=
  data.HasLargeInteger ∨ ∃ entries, data.fieldOrNull "constraints" = .list entries ∧
    ∃ entry ∈ entries, (entry.fieldOrNull "relation").IsInfinite

theorem refuses_constraintsOf (data : Document) :
    FailsIn (Fault.IsOfDocument (OutOfRange data)) (constraintsOf data) := by
  unfold constraintsOf
  split
  · exact failsIn_ok []
  · next entries hentries =>
    refine failsIn_mapM fun p hp => refuses_mono (refuses_constraintOf p.2 p.1) fun h => ?_
    have hentry : p.1 ∈ entries := List.fst_mem_of_mem_zipIdx hp
    rcases h with hlarge | hinfinite
    · have hfield := hlarge.item hentry
      rw [← hentries] at hfield
      exact .inl hfield.of_field
    · exact .inr ⟨entries, hentries, p.1, hentry, hinfinite⟩
  · exact refuses_format

section
variable {P : Prop}

theorem refuses_flagsOf (data : Document) : FailsIn (Fault.IsOfDocument P) (flagsOf data) := by
  unfold flagsOf
  split
  · exact failsIn_ok none
  · cases List.mapM flag? _ with
    | none => exact refuses_format
    | some bs => exact failsIn_ok (some bs)
  · exact refuses_format

theorem refuses_scalingOf (data : Document) : FailsIn (Fault.IsOfDocument P) (scalingOf data) := by
  unfold scalingOf
  split
  · exact failsIn_ok none
  · exact failsIn_ok _
  · exact refuses_format

end

theorem refuses_ofDocument (data : Document) :
    FailsIn (Fault.IsOfDocument (OutOfRange data)) (ofDocument data) := by
  unfold ofDocument
  split
  · refine failsIn_bind (refuses_mono (refuses_requiredScalars _ _) .inl) fun objective => ?_
    simp only
    split
    · exact refuses_format
    · refine failsIn_bind (refuses_constraintsOf _) fun rows => ?_
      refine failsIn_bind (refuses_flagsOf _) fun flags => ?_
      refine failsIn_bind (refuses_scalingOf _) fun mode => ?_
      refine failsIn_bind (refuses_mono (refuses_optionalScalars _ _) .inl) fun lower => ?_
      exact failsIn_bind (refuses_mono (refuses_optionalScalars _ _) .inl) fun upper => failsIn_ok _
  · exact refuses_format

/-! ## The file -/

/-- The faults of octets from which no document is read, or one with a number out of range. -/
inductive Unread (octets : List Nat) : Fault → Prop
  | undecodable {flaw : Utf8.Flaw} : Utf8.decode octets = .error flaw →
      Unread octets (.file (.undecodable flaw.octet flaw.first flaw.last flaw.reason))
  | tooManyDigits {points : List Nat} {count : Nat} : Utf8.decode octets = .ok points →
      Json.read (Utf8.unifyLines points) = .error (.tooManyDigits count) →
      Unread octets (.conversion (.tooManyDigits count))
  | tooNested {points : List Nat} {kind : String} : Utf8.decode octets = .ok points →
      Json.read (Utf8.unifyLines points) = .error (.tooNested kind) →
      Unread octets (.tooNested kind)
  | outOfRange {points : List Nat} {data : Document} {cause : ConversionFault} :
      Utf8.decode octets = .ok points → Json.read (Utf8.unifyLines points) = .ok data →
      ofDocument data = .error (.conversion cause) → cause.isOverflow = true →
      Unread octets (.conversion cause)

variable {path : String} {octets points : List Nat} {fault : Fault}

theorem ofFile_of_undecodable {flaw : Utf8.Flaw} (h : Utf8.decode octets = .error flaw) :
    ofFile path octets =
      .error (.file (.undecodable flaw.octet flaw.first flaw.last flaw.reason)) := by
  simp only [ofFile, document, contents, h]
  rfl

/-- The document of octets that are decoded. -/
theorem ofFile_of_decoded (h : Utf8.decode octets = .ok points) :
    ofFile path octets =
      ((Json.read (Utf8.unifyLines points)).mapError (jsonFault path (Utf8.unifyLines points))
        >>= ofDocument) := by
  simp only [ofFile, document, contents, h]
  rfl

theorem Unread.ofFile (h : Unread octets fault) : ofFile path octets = .error fault := by
  cases h with
  | undecodable hdecode => exact ofFile_of_undecodable hdecode
  | tooManyDigits hdecode hread | tooNested hdecode hread =>
    rw [ofFile_of_decoded hdecode, hread]
    rfl
  | outOfRange hdecode hread hdata _ =>
    rw [ofFile_of_decoded hdecode, hread]
    exact hdata

/-- A file that cannot be read is never refused for the form of its document. -/
theorem Unread.ne_format (h : Unread octets fault) (cause : FormatFault) :
    fault ≠ .format cause := by
  rintro rfl
  cases h

theorem ofFile_eq_error (h : Problem.ofFile path octets = .error fault) :
    (∃ cause, fault = .format cause) ∨ Unread octets fault := by
  cases hdecode : Utf8.decode octets with
  | error flaw =>
    rw [ofFile_of_undecodable hdecode] at h
    cases h
    exact .inr (.undecodable hdecode)
  | ok points =>
    rw [ofFile_of_decoded hdecode] at h
    cases hread : Json.read (Utf8.unifyLines points) with
    | error flaw =>
      rw [hread] at h
      cases flaw with
      | malformed problem offset =>
        cases h
        exact .inl ⟨_, rfl⟩
      | tooManyDigits count =>
        cases h
        exact .inr (.tooManyDigits hdecode hread)
      | tooNested kind =>
        cases h
        exact .inr (.tooNested hdecode hread)
    | ok data =>
      rw [hread] at h
      have hdata : ofDocument data = .error fault := h
      have hfault := refuses_ofDocument data fault hdata
      cases fault with
      | format cause => exact .inl ⟨cause, rfl⟩
      | conversion cause => exact .inr (.outOfRange hdecode hread hdata hfault.1)
      | _ => exact hfault.elim

end Problem

end LinearPrograms
