import LinearPrograms.Numeral
import Mathlib.Data.List.Chain
import Mathlib.Data.List.TakeWhile

/-!
# The texts that spell numbers

`Numeral.Spells` is the grammar of the numerals that `Numeral.scalar?` reads: an optional sign, and
then a decimal or a name. It is told for the text without its blanks and underscores, where every
underscore must have stood between two digits.

Each part of the reader succeeds exactly on its part of the grammar (`withoutUnderscores?_eq_some`,
`exponent?_isSome`, `magnitude?_isSome`), and so does the reader (`scalar?_isSome`). Where a part
ends is clear from the next character, which cannot continue it: no exponent begins with a digit or
a point (`IsExponent.stops`), and no number with a sign (`IsUnsigned.noSign`).
-/

namespace LinearPrograms.Numeral

/-! ## The grammar -/

/-- Neighbours of which one is an underscore only if the other is a digit. -/
def Neighbours (a b : Char) : Prop := (a = '_' → b.isDigit = true) ∧ (b = '_' → a.isDigit = true)

/-- Every underscore stands between two digits; there are blanks around the characters. -/
def UnderscoresInside (cs : List Char) : Prop := List.IsChain Neighbours (' ' :: (cs ++ [' ']))

def IsSign (cs : List Char) : Prop := cs = [] ∨ cs = ['+'] ∨ cs = ['-']

def AreDigits (cs : List Char) : Prop := ∀ c ∈ cs, c.isDigit = true

/-- Digits with an optional point before, behind or between them. -/
inductive IsMantissa : List Char → Prop
  | whole {digits : List Char} : digits ≠ [] → AreDigits digits → IsMantissa digits
  | point {whole fraction : List Char} : whole ++ fraction ≠ [] → AreDigits whole →
      AreDigits fraction → IsMantissa (whole ++ '.' :: fraction)

/-- Nothing, or a mark, an optional sign and digits. -/
inductive IsExponent : List Char → Prop
  | missing : IsExponent []
  | marked {mark : Char} {sign digits : List Char} : mark = 'e' ∨ mark = 'E' → IsSign sign →
      digits ≠ [] → AreDigits digits → IsExponent (mark :: (sign ++ digits))

/-- The name of an infinity or of the indeterminate value, in letters of any case. -/
def IsName (cs : List Char) : Prop :=
  String.ofList (cs.map Char.toLower) ∈ ["inf", "infinity", "nan"]

def IsDecimal (cs : List Char) : Prop :=
  ∃ mantissa exponent, cs = mantissa ++ exponent ∧ IsMantissa mantissa ∧ IsExponent exponent

def IsUnsigned (cs : List Char) : Prop := IsName cs ∨ IsDecimal cs

/-- The text spells a number. -/
structure Spells (t : Text) : Prop where
  underscores : UnderscoresInside (plain t)
  spelled : ∃ sign unsigned, (plain t).filter (· ≠ '_') = sign ++ unsigned ∧ IsSign sign ∧
    IsUnsigned unsigned

/-! ## Underscores -/

variable {cs ds : List Char}

/-- Underscores are removed if all of them have digits beside them, also beside the character
before. -/
theorem withoutUnderscores?_eq_some (previous : Char) :
    withoutUnderscores? previous cs = some ds ↔
      List.IsChain Neighbours (previous :: (cs ++ [' '])) ∧ cs.filter (· ≠ '_') = ds := by
  induction cs generalizing previous ds with
  | nil =>
    by_cases hprevious : previous = '_'
    · simp [withoutUnderscores?, Neighbours, hprevious]
    · simp [withoutUnderscores?, Neighbours, hprevious]
  | cons c rest ih =>
    rw [List.cons_append, List.isChain_cons_cons, withoutUnderscores?]
    by_cases hc : c = '_'
    · subst hc
      by_cases hdigit : previous.isDigit = true
      · have hne : previous ≠ '_' := by
          rintro rfl
          cases hdigit
        simp [Neighbours, hdigit, hne, ih]
      · simp [Neighbours, hdigit]
    · by_cases hprevious : previous = '_'
      · cases hdigit : c.isDigit <;> simp [Neighbours, hc, hprevious, hdigit, ih]
      · simp [Neighbours, hc, hprevious, ih, and_assoc]

/-! ## Signs and runs of digits -/

/-- No character of a sign comes first. -/
def NoSign (cs : List Char) : Prop := ∀ c ∈ cs.head?, c ≠ '-' ∧ c ≠ '+'

theorem splitSign_spec (cs : List Char) :
    ∃ sign, IsSign sign ∧ cs = sign ++ (splitSign cs).2 := by
  unfold splitSign
  split
  · exact ⟨['-'], .inr (.inr rfl), rfl⟩
  · exact ⟨['+'], .inr (.inl rfl), rfl⟩
  · exact ⟨[], .inl rfl, rfl⟩

theorem splitSign_append {sign : List Char} (hsign : IsSign sign) (hcs : NoSign cs) :
    (splitSign (sign ++ cs)).2 = cs := by
  rcases hsign with rfl | rfl | rfl
  · show (splitSign cs).2 = cs
    unfold splitSign
    split
    · exact absurd rfl (hcs _ rfl).1
    · exact absurd rfl (hcs _ rfl).2
    · rfl
  · rfl
  · rfl

theorem AreDigits.noSign (h : AreDigits cs) : NoSign cs := fun c hc => by
  have hdigit := h c (List.mem_of_mem_head? hc)
  constructor
  · rintro rfl
    cases hdigit
  · rintro rfl
    cases hdigit

/-- No digit comes first. -/
def NoDigit (cs : List Char) : Prop := ∀ c ∈ cs.head?, c.isDigit = false

theorem takeWhile_digits (h : AreDigits cs) (hrest : NoDigit ds) :
    (cs ++ ds).takeWhile Char.isDigit = cs ∧ (cs ++ ds).dropWhile Char.isDigit = ds := by
  rw [List.takeWhile_append_of_pos h, List.dropWhile_append_of_pos h]
  cases ds with
  | nil => simp
  | cons d rest => simp [hrest d rfl]

/-- Characters begin with a run of digits, which may be empty. -/
theorem exists_digits (cs : List Char) :
    ∃ digits rest, cs = digits ++ rest ∧ AreDigits digits ∧ NoDigit rest := by
  refine ⟨_, _, List.takeWhile_append_dropWhile.symm, fun c hc => List.mem_takeWhile_imp hc,
    fun c hc => ?_⟩
  have hhead := List.head?_dropWhile_not Char.isDigit cs
  rw [Option.mem_def.1 hc] at hhead
  exact hhead

/-! ## Decimals -/

/-- Neither a digit nor a point comes first in an exponent. -/
theorem IsExponent.stops (h : IsExponent cs) : NoDigit cs ∧ ∀ rest, cs ≠ '.' :: rest := by
  cases h with
  | missing => exact ⟨nofun, nofun⟩
  | marked hmark =>
    rcases hmark with rfl | rfl
    · exact ⟨by simp [NoDigit], nofun⟩
    · exact ⟨by simp [NoDigit], nofun⟩

theorem exponent?_isSome : (exponent? cs).isSome = true ↔ IsExponent cs := by
  cases cs with
  | nil => exact iff_of_true rfl .missing
  | cons mark rest =>
    simp only [exponent?, Option.isSome_ite, Bool.and_eq_true, Bool.or_eq_true, beq_iff_eq,
      Bool.not_eq_true', List.isEmpty_eq_false_iff, List.all_eq_true]
    constructor
    · rintro ⟨⟨hmark, hne⟩, hdigits⟩
      obtain ⟨sign, hsign, hrest⟩ := splitSign_spec rest
      rw [hrest]
      exact .marked hmark hsign hne hdigits
    · intro h
      cases h with
      | marked hmark hsign hne hdigits =>
        rw [splitSign_append hsign hdigits.noSign]
        exact ⟨⟨hmark, hne⟩, hdigits⟩

/-- A decimal without a point is read if it has digits and its end is an exponent. -/
theorem magnitude?_whole {whole tail : List Char} (hwhole : AreDigits whole) (htail : NoDigit tail)
    (hpoint : ∀ rest, tail ≠ '.' :: rest) :
    (magnitude? (whole ++ tail)).isSome = true ↔ whole ≠ [] ∧ IsExponent tail := by
  obtain ⟨htake, hdrop⟩ := takeWhile_digits hwhole htail
  rw [← exponent?_isSome]
  simp only [magnitude?, htake, hdrop]
  cases whole <;> simp

theorem magnitude?_point {whole fraction tail : List Char} (hwhole : AreDigits whole)
    (hfraction : AreDigits fraction) (htail : NoDigit tail) :
    (magnitude? (whole ++ '.' :: (fraction ++ tail))).isSome = true ↔
      whole ++ fraction ≠ [] ∧ IsExponent tail := by
  have hpoint : NoDigit ('.' :: (fraction ++ tail)) := by simp [NoDigit]
  obtain ⟨htake, hdrop⟩ := takeWhile_digits hwhole hpoint
  obtain ⟨hfractionTake, hfractionDrop⟩ := takeWhile_digits hfraction htail
  rw [← exponent?_isSome]
  simp only [magnitude?, htake, hdrop, hfractionTake, hfractionDrop]
  cases whole <;> cases fraction <;> simp

theorem magnitude?_isSome : (magnitude? cs).isSome = true ↔ IsDecimal cs := by
  constructor
  · intro h
    obtain ⟨whole, after, rfl, hwhole, hafter⟩ := exists_digits cs
    by_cases hpoint : ∃ rest, after = '.' :: rest
    · obtain ⟨rest, rfl⟩ := hpoint
      obtain ⟨fraction, tail, rfl, hfraction, htail⟩ := exists_digits rest
      obtain ⟨hne, hexponent⟩ := (magnitude?_point hwhole hfraction htail).1 h
      exact ⟨whole ++ '.' :: fraction, tail, by simp, .point hne hwhole hfraction, hexponent⟩
    · obtain ⟨hne, hexponent⟩ :=
        (magnitude?_whole hwhole hafter fun rest hrest => hpoint ⟨rest, hrest⟩).1 h
      exact ⟨whole, after, rfl, .whole hne hwhole, hexponent⟩
  · rintro ⟨mantissa, tail, rfl, hmantissa, hexponent⟩
    obtain ⟨htail, hpoint⟩ := hexponent.stops
    cases hmantissa with
    | whole hne hdigits => exact (magnitude?_whole hdigits htail hpoint).2 ⟨hne, hexponent⟩
    | point hne hwhole hfraction =>
      rw [List.append_assoc, List.cons_append]
      exact (magnitude?_point hwhole hfraction htail).2 ⟨hne, hexponent⟩

/-! ## Numbers -/

theorem named?_isSome : (named? cs).isSome = true ↔ IsName cs := by
  simp only [named?, IsName, List.mem_cons, List.not_mem_nil, or_false, Bool.or_eq_true,
    decide_eq_true_eq, ← or_assoc]
  split
  · next hinfinite => exact iff_of_true rfl (.inl hinfinite)
  · next hinfinite =>
    rw [or_iff_right hinfinite]
    split <;> simp [*]

theorem IsName.noSign (h : IsName cs) : NoSign cs := by
  intro c hc
  cases cs with
  | nil => cases hc
  | cons d rest =>
    cases hc
    have hletter : c.toLower = 'i' ∨ c.toLower = 'n' := by
      simp only [IsName, List.mem_cons, List.not_mem_nil, or_false] at h
      rcases h with h | h | h
      · exact .inl (List.cons.inj (String.ofList_injective h)).1
      · exact .inl (List.cons.inj (String.ofList_injective h)).1
      · exact .inr (List.cons.inj (String.ofList_injective h)).1
    constructor
    · rintro rfl
      revert hletter
      decide
    · rintro rfl
      revert hletter
      decide

theorem IsMantissa.noSign {mantissa : List Char} (h : IsMantissa mantissa) (tail : List Char) :
    NoSign (mantissa ++ tail) := by
  have hdigits : ∀ {digits : List Char} (rest : List Char), digits ≠ [] → AreDigits digits →
      NoSign (digits ++ rest) := fun {digits} rest hne h => by
    rw [NoSign, List.head?_append_of_ne_nil _ hne]
    exact h.noSign
  cases h with
  | whole hne hwhole => exact hdigits tail hne hwhole
  | @point whole fraction hne hwhole hfraction =>
    cases whole with
    | nil => simp [NoSign]
    | cons d rest =>
      rw [List.append_assoc]
      exact hdigits _ nofun hwhole

theorem IsUnsigned.noSign (h : IsUnsigned cs) : NoSign cs := by
  rcases h with h | ⟨mantissa, tail, rfl, hmantissa, -⟩
  · exact h.noSign
  · exact hmantissa.noSign tail

theorem isUnsigned_splitSign : IsUnsigned (splitSign cs).2 ↔
    ∃ sign unsigned, cs = sign ++ unsigned ∧ IsSign sign ∧ IsUnsigned unsigned := by
  constructor
  · intro h
    obtain ⟨sign, hsign, hcs⟩ := splitSign_spec cs
    exact ⟨sign, _, hcs, hsign, h⟩
  · rintro ⟨sign, unsigned, rfl, hsign, h⟩
    rwa [splitSign_append hsign h.noSign]

theorem unsigned?_isSome :
    ((named? cs).orElse fun _ => magnitude? cs).isSome = true ↔ IsUnsigned cs := by
  rw [IsUnsigned, ← named?_isSome, ← magnitude?_isSome, Option.orElse_eq_or, Option.isSome_or,
    Bool.or_eq_true]

/-- A text is read as a number exactly if it spells one. -/
theorem scalar?_isSome {t : Text} : (scalar? t).isSome = true ↔ Spells t := by
  unfold scalar?
  cases hplain : withoutUnderscores? ' ' (plain t) with
  | none =>
    refine iff_of_false nofun fun h => ?_
    rw [(withoutUnderscores?_eq_some ' ').2 ⟨h.underscores, rfl⟩] at hplain
    cases hplain
  | some cs =>
    obtain ⟨hunderscores, hcs⟩ := (withoutUnderscores?_eq_some ' ').1 hplain
    have hspells : Spells t ↔ IsUnsigned (splitSign cs).2 := by
      rw [isUnsigned_splitSign, ← hcs]
      exact ⟨Spells.spelled, fun h => ⟨hunderscores, h⟩⟩
    rw [hspells, ← unsigned?_isSome]
    change (((named? (splitSign cs).2).orElse fun _ => magnitude? (splitSign cs).2).bind
      fun x => some (x.negateIf (splitSign cs).1)).isSome = true ↔ _
    cases (named? (splitSign cs).2).orElse fun _ => magnitude? (splitSign cs).2 <;> exact Iff.rfl

end LinearPrograms.Numeral
