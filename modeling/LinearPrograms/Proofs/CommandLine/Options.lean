import LinearPrograms.CommandLine.Arguments
import LinearPrograms.Proofs.Action.Computation
import Mathlib.Tactic.IntervalCases

/-!
# The values of options

`Arguments.Hands` says which values arguments hand to an option, from the texts alone: a value stands
behind the name of the option, or in the same argument behind an equals sign; the name may be cut
short, and two dashes alone end the options.

An argument is told to be an option with a value exactly if it has one of these forms
(`classify_of_names`, `classify_of_joins`, `usedAs_of_classify`). So as arguments are taken, what is
kept of an option is what its last value says (`take_hands`), and arguments that are accepted have
the engine and the scaling mode of the last values that they hand to the two options
(`Arguments.engine_iff`, `Arguments.scaling_iff`).
-/

namespace LinearPrograms

namespace Arguments

/-! ## The values that are handed to an option -/

/-- The text is the name of an option, which may be cut short behind its first letter. -/
def Names (option : String) (t : Text) : Prop :=
  3 ≤ t.length ∧ t.points <+: (Text.ofString option).points

instance (option : String) (t : Text) : Decidable (Names option t) :=
  inferInstanceAs (Decidable (_ ∧ _))

/-- The text is the name of an option with a value, an equals sign between them. -/
def Joins (option : String) (t value : Text) : Prop :=
  ∃ name, Names option name ∧ t = name ++ Text.ofString "=" ++ value

/-- The values that arguments hand to an option, in order. -/
inductive Hands (option : String) : List Text → List Text → Prop
  | nil : Hands option [] []
  | separator (rest : List Text) : Hands option (Text.ofString "--" :: rest) []
  | behind {name value : Text} {rest values : List Text} : Names option name →
      Hands option rest values → Hands option (name :: value :: rest) (value :: values)
  | joined {t value : Text} {rest values : List Text} : Joins option t value →
      Hands option rest values → Hands option (t :: rest) (value :: values)
  | other {t : Text} {rest values : List Text} : t ≠ Text.ofString "--" → ¬Names option t →
      (∀ value, ¬Joins option t value) → Hands option rest values →
      Hands option (t :: rest) values

/-- The last value that arguments hand to an option. -/
def Gives (option : String) (texts : List Text) (value : Text) : Prop :=
  ∃ values, Hands option texts values ∧ values.getLast? = some value

end Arguments

namespace Argument

open Arguments (Names Joins Hands)

variable {t u name value : Text} {found : Option Text} {option : String} {f : Flag}

/-- The options that take values, with their names. -/
def Valued (option : String) (f : Flag) : Prop :=
  option = "--engine" ∧ f = .engine ∨ option = "--scaling" ∧ f = .scaling

/-! ### Texts around an equals sign -/

/-- The parts of a text make up the text. -/
theorem splitEquals_eq (h : splitEquals t = (name, found)) :
    t = found.elim name fun value => name ++ Text.ofString "=" ++ value := by
  have hsplit := List.takeWhile_append_dropWhile (p := (· != 0x3d)) (l := t.points)
  have hdrop : t.points.drop (t.points.takeWhile (· != 0x3d)).length =
      t.points.dropWhile (· != 0x3d) := by
    calc t.points.drop (t.points.takeWhile (· != 0x3d)).length
        = (t.points.takeWhile (· != 0x3d) ++ t.points.dropWhile (· != 0x3d)).drop
            (t.points.takeWhile (· != 0x3d)).length := by rw [hsplit]
      _ = t.points.dropWhile (· != 0x3d) := List.drop_left
  simp only [splitEquals, hdrop] at h
  cases hrest : t.points.dropWhile (· != 0x3d) with
  | nil =>
    rw [hrest] at h hsplit
    cases h
    exact congrArg Text.mk (hsplit.symm.trans (List.append_nil _))
  | cons c rest =>
    have hc := List.head?_dropWhile_not (· != 0x3d) t.points
    rw [hrest] at h hsplit hc
    obtain rfl : c = 0x3d := by simpa using hc
    cases h
    refine congrArg Text.mk (hsplit.symm.trans ?_)
    exact (List.append_assoc _ [0x3d] rest).symm

theorem splitEquals_fst (t : Text) : (splitEquals t).1 = ⟨t.points.takeWhile (· != 0x3d)⟩ := by
  simp only [splitEquals]
  split <;> rfl

/-! ### Arguments that are told apart -/

/-- A name that is cut short is a beginning of the name. -/
theorem exists_cut (h : Names option t) : ∃ k, 3 ≤ k ∧ k ≤ (Text.ofString option).length ∧
    t = ⟨(Text.ofString option).points.take k⟩ := by
  obtain ⟨hlength, hcut⟩ := h
  exact ⟨t.length, hlength, hcut.length_le, congrArg Text.mk (List.prefix_iff_eq_take.1 hcut)⟩

theorem classify_of_names (h : Valued option f) (ht : Names option t) :
    classify t = .ok (.option t (some ⟨f, option, false, none⟩)) := by
  obtain ⟨k, hk, hlength, rfl⟩ := exists_cut ht
  rcases h with ⟨rfl, rfl⟩ | ⟨rfl, rfl⟩
  · change k ≤ 8 at hlength
    interval_cases k <;> rfl
  · change k ≤ 9 at hlength
    interval_cases k <;> rfl

theorem classify_of_joins (h : Valued option f) (ht : Joins option t value) :
    classify t = .ok (.option t (some ⟨f, option, true, some value⟩)) := by
  obtain ⟨name, hname, rfl⟩ := ht
  obtain ⟨k, hk, hlength, rfl⟩ := exists_cut hname
  rcases h with ⟨rfl, rfl⟩ | ⟨rfl, rfl⟩
  · change k ≤ 8 at hlength
    interval_cases k <;> rfl
  · change k ≤ 9 at hlength
    interval_cases k <;> rfl

theorem eq_of_flag (h : Valued option f) {s : String × Flag} (hs : s ∈ Flag.spellings)
    (hf : s.2 = f) : s.1 = option := by
  rcases h with ⟨rfl, rfl⟩ | ⟨rfl, rfl⟩
  · revert s
    decide
  · revert s
    decide

theorem names_self (h : Valued option f) : Names option (Text.ofString option) := by
  rcases h with ⟨rfl, -⟩ | ⟨rfl, -⟩
  · exact ⟨by decide, List.prefix_rfl⟩
  · exact ⟨by decide, List.prefix_rfl⟩

/-- How an argument gives a value to an option: it names the option, or it has the value with it. -/
def UsedAs (option : String) (t : Text) (use : OptionUse) : Prop :=
  Names option t ∧ use.attached = none ∨ ∃ value, Joins option t value ∧ use.attached = some value

theorem usedAs_of_exact {use : OptionUse} (h : Valued option f) (ht : exact t = some use)
    (hf : use.flag = f) : UsedAs option t use := by
  obtain ⟨s, hfind, rfl⟩ := Option.map_eq_some_iff.1 ht
  have hs : Text.ofString s.1 = t := by simpa using List.find?_some hfind
  rw [← hs, eq_of_flag h (List.mem_of_find?_eq_some hfind) hf]
  exact .inl ⟨names_self h, rfl⟩

theorem usedAs_of_assigned {use : OptionUse} (h : Valued option f) (ht : assigned? t = some use)
    (hf : use.flag = f) : UsedAs option t use := by
  unfold assigned? at ht
  split at ht
  · rename_i name value hsplit
    obtain ⟨s, hfind, rfl⟩ := Option.map_eq_some_iff.1 ht
    have hs : Text.ofString s.1 = name := by simpa using List.find?_some hfind
    refine .inr ⟨value, ⟨name, ?_, splitEquals_eq hsplit⟩, rfl⟩
    rw [← hs, eq_of_flag h (List.mem_of_find?_eq_some hfind) hf]
    exact names_self h
  · cases ht

/-- An argument that could be one option only has a letter behind the dashes. -/
theorem usedAs_of_candidates {use : OptionUse} (h : Valued option f) (ht : candidates t = [use])
    (hf : use.flag = f) : UsedAs option t use := by
  unfold candidates at ht
  split at ht
  · rename_i rest hpoints
    rcases hsplit : splitEquals t with ⟨name, found⟩
    simp only [hsplit] at ht
    have huse : use ∈ (Flag.spellings.filter fun s =>
        name.points.isPrefixOf (Text.ofString s.1).points).map fun s =>
          (⟨s.2, s.1, found.isSome, found⟩ : OptionUse) := ht ▸ List.mem_singleton_self use
    obtain ⟨s, hs, rfl⟩ := List.mem_map.1 huse
    obtain ⟨hmem, hcut⟩ := List.mem_filter.1 hs
    rw [eq_of_flag h hmem hf, List.isPrefixOf_iff_prefix] at hcut
    have hletters : name.points = 0x2d :: 0x2d :: rest.takeWhile (· != 0x3d) := by
      have hfst := splitEquals_fst t
      rw [hsplit, hpoints] at hfst
      exact congrArg Text.points hfst
    have hname : Names option name := by
      refine ⟨?_, hcut⟩
      rw [Text.length, hletters]
      cases hrest : rest.takeWhile (· != 0x3d) with
      | cons c more => exact Nat.le_add_left 3 more.length
      | nil =>
        -- two dashes alone begin every long name
        rw [hletters, hrest] at ht
        exact absurd (congrArg List.length ht) (by simp; decide)
    have ht := splitEquals_eq hsplit
    cases found with
    | none => exact .inl ⟨ht ▸ hname, rfl⟩
    | some value => exact .inr ⟨value, ⟨name, hname, ht⟩, rfl⟩
  · rename_i a b rest hdashes hpoints
    have huse := ht ▸ List.mem_singleton_self use
    obtain ⟨s, hmem, hsome⟩ := List.mem_filterMap.1 huse
    -- one dash begins no name of an option with a value
    have hone : [a, b] ≠ [0x2d, 0x2d] := by
      rintro ⟨⟩
      exact hdashes rfl rfl
    split at hsome
    · rename_i hshort
      cases hsome
      rw [eq_of_flag h hmem hf] at hshort
      rcases h with ⟨rfl, -⟩ | ⟨rfl, -⟩ <;> cases hshort
    · split at hsome
      · rename_i hcut
        cases hsome
        rw [eq_of_flag h hmem hf, List.isPrefixOf_iff_prefix, hpoints] at hcut
        refine absurd ?_ hone
        rcases h with ⟨rfl, -⟩ | ⟨rfl, -⟩
        · exact (List.prefix_iff_eq_take.1 ((List.prefix_append [a, b] rest).trans hcut)).trans rfl
        · exact (List.prefix_iff_eq_take.1 ((List.prefix_append [a, b] rest).trans hcut)).trans rfl
      · cases hsome
  · cases ht

theorem usedAs_of_classify {use : OptionUse} (h : Valued option f)
    (ht : classify t = .ok (.option u (some use))) (hf : use.flag = f) : UsedAs option t use := by
  unfold classify at ht
  split at ht
  · cases ht
  split at ht
  · rename_i hexact
    cases ht
    exact usedAs_of_exact h hexact hf
  split at ht
  · cases ht
  split at ht
  · rename_i hassigned
    cases ht
    exact usedAs_of_assigned h hassigned hf
  split at ht
  · rename_i hcandidates
    cases ht
    exact usedAs_of_candidates h hcandidates hf
  · split at ht
    · cases ht
    · cases ht
  · cases ht

theorem eq_of_classify_operand (ht : classify t = .ok (.operand u)) : u = t := by
  unfold classify at ht
  grind

theorem ne_separator_of_classify (ht : classify t = .ok .separator) : False := by
  unfold classify at ht
  grind

/-- An argument that does not use the option is none of its forms. -/
theorem other_of_classify (h : Valued option f) {a : Argument} (ht : classify t = .ok a)
    (ha : ∀ u use, a = .option u (some use) → use.flag ≠ f) :
    ¬Names option t ∧ ∀ value, ¬Joins option t value := by
  constructor
  · intro hnames
    rw [classify_of_names h hnames] at ht
    exact ha _ _ (Except.ok.inj ht).symm rfl
  · intro value hjoins
    rw [classify_of_joins h hjoins] at ht
    exact ha _ _ (Except.ok.inj ht).symm rfl

end Argument

namespace Arguments

open Argument (Valued)

variable {option : String} {f : Flag} {texts values values' : List Text}

theorem not_names_separator : ¬Names option (Text.ofString "--") := fun h => absurd h.1 (by decide)

/-- Without an equals sign there is no value in the same argument. -/
theorem not_joins_of_not_mem {t : Text} (h : 0x3d ∉ t.points) (value : Text) :
    ¬Joins option t value := by
  rintro ⟨name, -, rfl⟩
  exact h (List.mem_append_left _ (List.mem_append_right _ (.head _)))

theorem not_joins_separator (value : Text) : ¬Joins option (Text.ofString "--") value :=
  not_joins_of_not_mem (by decide) value

/-- What names an option or joins it to a value begins as the option does. -/
theorem start_of_names {t : Text} (h : Names option t) :
    t.points.take 3 = (Text.ofString option).points.take 3 := by
  obtain ⟨rest, hrest⟩ := h.2
  rw [← hrest, List.take_append_of_le_length h.1]

theorem start_of_joins {t value : Text} (h : Joins option t value) :
    t.points.take 3 = (Text.ofString option).points.take 3 := by
  obtain ⟨name, hname, rfl⟩ := h
  rw [← start_of_names hname]
  show ((name.points ++ [0x3d]) ++ value.points).take 3 = _
  rw [List.append_assoc, List.take_append_of_le_length hname.1]

/-- An argument that begins otherwise hands nothing to the option. -/
theorem Hands.apart {t : Text} {rest : List Text} (hne : t ≠ Text.ofString "--")
    (hstart : t.points.take 3 ≠ (Text.ofString option).points.take 3)
    (h : Hands option rest values) : Hands option (t :: rest) values :=
  .other hne (fun hnames => hstart (start_of_names hnames))
    (fun _ hjoins => hstart (start_of_joins hjoins)) h

/-- An argument does not name an option and join it to a value at the same time. -/
theorem not_joins_of_names (h : Valued option f) {t value : Text} (hnames : Names option t) :
    ¬Joins option t value := by
  intro hjoins
  have hclassify := Argument.classify_of_names h hnames
  rw [Argument.classify_of_joins h hjoins] at hclassify
  cases hclassify

theorem eq_of_joins (h : Valued option f) {t value value' : Text} (hjoins : Joins option t value)
    (hjoins' : Joins option t value') : value = value' := by
  have hclassify := Argument.classify_of_joins h hjoins
  rw [Argument.classify_of_joins h hjoins'] at hclassify
  cases hclassify
  rfl

/-- Arguments hand one list of values to an option. -/
theorem Hands.unique (h : Valued option f) (hv : Hands option texts values)
    (hw : Hands option texts values') : values = values' := by
  induction hv generalizing values' with
  | nil =>
    cases hw
    rfl
  | separator rest =>
    cases hw with
    | separator => rfl
    | behind hnames => exact absurd hnames not_names_separator
    | joined hjoins => exact absurd hjoins (not_joins_separator _)
    | other hne => exact absurd rfl hne
  | behind hnames _ ih =>
    cases hw with
    | separator => exact absurd hnames not_names_separator
    | behind _ hrest => rw [ih hrest]
    | joined hjoins => exact absurd hjoins (not_joins_of_names h hnames)
    | other _ hnot => exact absurd hnames hnot
  | joined hjoins _ ih =>
    cases hw with
    | separator => exact absurd hjoins (not_joins_separator _)
    | behind hnames => exact absurd hjoins (not_joins_of_names h hnames)
    | joined hjoins' hrest => rw [ih hrest, eq_of_joins h hjoins hjoins']
    | other _ _ hnot => exact absurd hjoins (hnot _)
  | other hne hnames hjoins _ ih =>
    cases hw with
    | separator => exact absurd rfl hne
    | behind hnames' => exact absurd hnames' hnames
    | joined hjoins' => exact absurd hjoins' (hjoins _)
    | other _ _ _ hrest => exact ih hrest

/-- Arguments give one value to an option at most. -/
theorem Gives.unique (h : Valued option f) {value value' : Text} (hv : Gives option texts value)
    (hw : Gives option texts value') : value = value' := by
  obtain ⟨values, hvalues, hlast⟩ := hv
  obtain ⟨values', hvalues', hlast'⟩ := hw
  rw [hvalues.unique h hvalues'] at hlast
  exact Option.some.inj (hlast.symm.trans hlast')

/-! ## What is kept of the values -/

variable {α : Type} {view : Arguments → Option α} {read : Text → Option α} {t t' : Taken}

/-- Of the values of an option, `view` shows what `read` makes of the last one that was taken. -/
structure Keeps (f : Flag) (view : Arguments → Option α) (read : Text → Option α) : Prop where
  problem : ∀ a p, view { a with problem := p } = view a
  first : ∀ p, view { problem := p } = none
  taken : ∀ {t t' : Taken} {value : Text}, t.valued f value = .ok t' →
    ∃ a, read value = some a ∧ view t'.options = some a
  other : ∀ {t t' : Taken} {g : Flag} {value : Text}, g ≠ f → t.valued g value = .ok t' →
    view t'.options = view t.options
  plain : ∀ {t t' : Taken} {g : Flag}, t.plain g = .ok t' → view t'.options = view t.options

/-- A value that is taken is that of the engine, which is listed, or a scaling mode, which is read. -/
theorem valued_eq_ok {g : Flag} {value : Text} (h : t.valued g value = .ok t') :
    g = .engine ∧ t' = { t with options := { t.options with engine := some value } } ∨
      g = .scaling ∧ ∃ i, Numeral.integer value = .ok i ∧
        t' = { t with options := { t.options with scaling := some i } } := by
  cases g with
  | engine =>
    simp only [Taken.valued] at h
    split at h
    · exact .inl ⟨rfl, (Except.ok.inj h).symm⟩
    · cases h
  | scaling =>
    simp only [Taken.valued] at h
    split at h
    · rename_i i hi
      exact .inr ⟨rfl, i, hi, (Except.ok.inj h).symm⟩
    · cases h
  | help | json | verbose => cases h

theorem plain_eq_ok {g : Flag} (h : t.plain g = .ok t') :
    t' = { t with options := { t.options with json := true } } ∨
      t' = { t with options := { t.options with verbose := true } } := by
  cases g with
  | json => exact .inl (Except.ok.inj h).symm
  | verbose => exact .inr (Except.ok.inj h).symm
  | help | engine | scaling => cases h

theorem keeps_engine : Keeps .engine Arguments.engine some where
  problem _ _ := rfl
  first _ := rfl
  taken {t t' value} h := by
    rcases valued_eq_ok h with ⟨-, rfl⟩ | ⟨hg, -⟩
    · exact ⟨value, rfl, rfl⟩
    · cases hg
  other {t t' g value} hg h := by
    rcases valued_eq_ok h with ⟨hengine, -⟩ | ⟨-, i, -, rfl⟩
    · exact absurd hengine hg
    · rfl
  plain {t t' g} h := by
    rcases plain_eq_ok h with rfl | rfl
    · rfl
    · rfl

theorem keeps_scaling :
    Keeps .scaling Arguments.scaling fun value => (Numeral.integer value).toOption where
  problem _ _ := rfl
  first _ := rfl
  taken {t t' value} h := by
    rcases valued_eq_ok h with ⟨hg, -⟩ | ⟨-, i, hi, rfl⟩
    · cases hg
    · exact ⟨i, by rw [hi]; rfl, rfl⟩
  other {t t' g value} hg h := by
    rcases valued_eq_ok h with ⟨-, rfl⟩ | ⟨hscaling, -⟩
    · rfl
    · exact absurd hscaling hg
  plain {t t' g} h := by
    rcases plain_eq_ok h with rfl | rfl
    · rfl
    · rfl

/-! ## Taking the arguments -/

/-- What was kept of an option, after some more values. -/
structure Latest (read : Text → Option α) (values : List Text) (before after : Option α) :
    Prop where
  isRead : ∀ value ∈ values, (read value).isSome
  eq : after = (values.getLast?.bind read).or before

theorem Latest.nil (read : Text → Option α) (before : Option α) : Latest read [] before before :=
  ⟨nofun, rfl⟩

theorem Latest.cons {value : Text} {a : α} {before after : Option α} (hvalue : read value = some a)
    (h : Latest read values (some a) after) : Latest read (value :: values) before after := by
  have hall : ∀ v ∈ value :: values, (read v).isSome :=
    List.forall_mem_cons.2 ⟨by rw [hvalue]; rfl, h.isRead⟩
  refine ⟨hall, ?_⟩
  rw [h.eq]
  rcases List.eq_nil_or_concat values with rfl | ⟨rest, last, rfl⟩
  · simp [hvalue]
  · obtain ⟨b, hb⟩ := Option.isSome_iff_exists.1 (h.isRead last (by simp))
    rw [List.concat_eq_append, ← List.cons_append, List.getLast?_append, List.getLast?_append]
    simp [hb]

theorem Keeps.foldlM_plain (hK : Keeps f view read) :
    ∀ {flags : List Flag} {t t' : Taken}, flags.foldlM Taken.plain t = .ok t' →
      view t'.options = view t.options
  | [], t, t', h => by
    cases h
    rfl
  | g :: flags, t, t', h => by
    rw [List.foldlM_cons] at h
    obtain ⟨u, hplain, hrest⟩ := Computation.bind_eq_ok.1 h
    exact (hK.foldlM_plain hrest).trans (hK.plain hplain)

/-- A value that an argument has with it goes to the option of the argument, or to none. -/
theorem Keeps.takeAttached (hK : Keeps f view read) (hf : f.takesValue = true) {use : OptionUse}
    {value : Text} (h : takeAttached t use value = .ok t') :
    use.flag = f ∧ (∃ a, read value = some a ∧ view t'.options = some a) ∨
      use.flag ≠ f ∧ view t'.options = view t.options := by
  unfold Arguments.takeAttached at h
  split at h
  · by_cases hflag : use.flag = f
    · rw [hflag] at h
      exact .inl ⟨hflag, hK.taken h⟩
    · exact .inr ⟨hflag, hK.other hflag h⟩
  · rename_i hplain
    refine .inr ⟨fun hflag => hplain (hflag ▸ hf), ?_⟩
    split at h
    · obtain ⟨⟨flags, extras⟩, -, hflags⟩ := Computation.bind_eq_ok.1 h
      exact hK.foldlM_plain (t := { t with extras := t.extras ++ extras }) hflags
    · cases h

theorem options_takeOperands (t : Taken) (rest : List Argument) :
    (takeOperands t rest).options = t.options := by
  unfold takeOperands
  grind

/-- An operand and two dashes change no option. If no option follows, the rest are operands. -/
theorem take_operand (t : Taken) (first : Argument) (rest : List Argument)
    (hfirst : first.isOption = false) :
    ((∀ a ∈ rest, a.isOption = false) ∧
        ∃ u : Taken, u.options = t.options ∧ take t (first :: rest) = .ok u) ∨
      (∃ a ∈ rest, a.isOption = true) ∧
        ∃ u : Taken, u.options = t.options ∧ take t (first :: rest) = take u rest := by
  have htake : ∃ u : Taken, u.options = t.options ∧ take t (first :: rest) =
      if rest.any Argument.isOption then take u rest
      else .ok (takeOperands t (first :: rest)) := by
    cases hproblem : t.problem with
    | none =>
      refine ⟨{ t with problem := some first.text }, rfl, ?_⟩
      cases first with
      | option text use => cases hfirst
      | operand p => simp only [take, hproblem]
      | separator => simp only [take, hproblem]
    | some problem =>
      refine ⟨{ t with extras := t.extras ++ [first.text] }, rfl, ?_⟩
      cases first with
      | option text use => cases hfirst
      | operand p => simp only [take, hproblem]
      | separator => simp only [take, hproblem]
  obtain ⟨u, hu, htake⟩ := htake
  rw [htake]
  split
  · rename_i hany
    exact .inr ⟨List.any_eq_true.1 hany, u, hu, rfl⟩
  · rename_i hany
    refine .inl ⟨?_, _, options_takeOperands t _, rfl⟩
    simpa using hany

/-! ### A whole run -/

theorem classifyAll_cons {text : Text} {rest : List Text} {args : List Argument}
    (hne : text ≠ Text.ofString "--") (h : Argument.classifyAll (text :: rest) = .ok args) :
    ∃ a more, Argument.classify text = .ok a ∧ Argument.classifyAll rest = .ok more ∧
      args = a :: more := by
  rw [Argument.classifyAll, if_neg hne] at h
  obtain ⟨a, ha, h⟩ := Computation.bind_eq_ok.1 h
  obtain ⟨more, hmore, h⟩ := Computation.bind_eq_ok.1 h
  exact ⟨a, more, ha, hmore, (Except.ok.inj h).symm⟩

/-- An operand that comes first is the first text. -/
theorem classifyAll_eq_operand {value : Text} {texts : List Text} {more : List Argument}
    (h : Argument.classifyAll texts = .ok (.operand value :: more)) :
    ∃ rest, texts = value :: rest ∧ value ≠ Text.ofString "--" ∧
      Argument.classify value = .ok (.operand value) ∧ Argument.classifyAll rest = .ok more := by
  cases texts with
  | nil => cases h
  | cons text rest =>
    by_cases hseparator : text = Text.ofString "--"
    · rw [Argument.classifyAll, if_pos hseparator] at h
      cases h
    · obtain ⟨a, args, ha, hargs, heq⟩ := classifyAll_cons hseparator h
      cases heq
      obtain rfl := Argument.eq_of_classify_operand ha
      exact ⟨rest, rfl, hseparator, ha, hargs⟩

/-- An argument that does not use the option hands it nothing. -/
theorem Hands.skip (h : Valued option f) {text : Text} {a : Argument}
    (hne : text ≠ Text.ofString "--") (ha : Argument.classify text = .ok a)
    (hother : ∀ u use, a = .option u (some use) → use.flag ≠ f) (hrest : Hands option texts values) :
    Hands option (text :: texts) values := by
  obtain ⟨hnames, hjoins⟩ := Argument.other_of_classify h ha hother
  exact .other hne hnames hjoins hrest

theorem hands_nil_of_operands (h : Valued option f) :
    ∀ {texts : List Text} {args : List Argument}, Argument.classifyAll texts = .ok args →
      (∀ a ∈ args, a.isOption = false) → Hands option texts []
  | [], _, _, _ => .nil
  | text :: rest, args, hargs, hall => by
    by_cases hseparator : text = Text.ofString "--"
    · rw [hseparator]
      exact .separator rest
    · obtain ⟨a, more, ha, hmore, rfl⟩ := classifyAll_cons hseparator hargs
      refine Hands.skip h hseparator ha (fun u use hu => ?_)
        (hands_nil_of_operands h hmore fun b hb => hall b (.tail _ hb))
      rw [hu] at hall
      cases hall _ (.head _)

/-- Texts at the front are passed: they hand nothing to the option, or one value, which is kept. -/
inductive Passes (option : String) (read : Text → Option α) :
    List Text → Option α → List Text → Option α → Prop
  | without {texts rest : List Text} {before : Option α} :
      (∀ values, Hands option rest values → Hands option texts values) →
      Passes option read texts before rest before
  | value {texts rest : List Text} {before : Option α} {value : Text} {a : α} :
      read value = some a →
      (∀ values, Hands option rest values → Hands option texts (value :: values)) →
      Passes option read texts before rest (some a)

theorem Passes.hands {rest : List Text} {before between after : Option α}
    (h : Passes option read texts before rest between)
    (hrest : ∃ values, Hands option rest values ∧ Latest read values between after) :
    ∃ values, Hands option texts values ∧ Latest read values before after := by
  obtain ⟨values, hvalues, hlatest⟩ := hrest
  cases h with
  | without hsame => exact ⟨values, hsame values hvalues, hlatest⟩
  | value hread hvalue => exact ⟨_, hvalue values hvalues, hlatest.cons hread⟩

section
variable {text u : Text} {rest : List Text} {use : OptionUse} {more : List Argument}

/-- An option that has its value with it, or takes none. -/
theorem take_attached (h : Valued option f) (hK : Keeps f view read)
    (hne : text ≠ Text.ofString "--")
    (ha : Argument.classify text = .ok (.option u (some use))) {value : Text}
    (hattached : use.attached = some value) {t₁ : Taken} (ht : takeAttached t use value = .ok t₁) :
    Passes option read (text :: rest) (view t.options) rest (view t₁.options) := by
  have hf : f.takesValue = true := by rcases h with ⟨-, rfl⟩ | ⟨-, rfl⟩ <;> rfl
  rcases hK.takeAttached hf ht with ⟨hflag, a, hread, hview⟩ | ⟨hflag, hview⟩
  · rcases Argument.usedAs_of_classify h ha hflag with ⟨-, hnone⟩ | ⟨value', hjoins, hsome⟩
    · rw [hattached] at hnone
      cases hnone
    · rw [hattached] at hsome
      obtain rfl := Option.some.inj hsome
      rw [hview]
      exact .value hread fun values => .joined hjoins
  · rw [hview]
    refine .without fun values => .skip h hne ha fun u' use' heq => ?_
    cases heq
    exact hflag

theorem take_behind (h : Valued option f) (hK : Keeps f view read)
    (hne : text ≠ Text.ofString "--")
    (ha : Argument.classify text = .ok (.option u (some use))) {value : Text}
    (hvalue : value ≠ Text.ofString "--")
    (hoperand : Argument.classify value = .ok (.operand value)) (hattached : use.attached = none)
    {t₁ : Taken} (ht : t.valued use.flag value = .ok t₁) :
    Passes option read (text :: value :: rest) (view t.options) rest (view t₁.options) := by
  by_cases hflag : use.flag = f
  · rcases Argument.usedAs_of_classify h ha hflag with ⟨hnames, -⟩ | ⟨value', -, hsome⟩
    · rw [hflag] at ht
      obtain ⟨a, hread, hview⟩ := hK.taken ht
      rw [hview]
      exact .value hread fun values => .behind hnames
    · rw [hattached] at hsome
      cases hsome
  · rw [hK.other hflag ht]
    refine .without fun values hvalues => .skip h hne ha (fun u' use' heq => ?_)
      (.skip h hvalue hoperand (fun u' use' heq => by cases heq) hvalues)
    cases heq
    exact hflag

end

/-- One step of taking arguments passes one text or two, unless it is the last. -/
theorem take_step (h : Valued option f) (hK : Keeps f view read) {text : Text} {rest : List Text}
    {args : List Argument} (hargs : Argument.classifyAll (text :: rest) = .ok args)
    (htake : take t args = .ok t') :
    (view t'.options = view t.options ∧ Hands option (text :: rest) []) ∨
      ∃ left more u, left.length ≤ rest.length ∧ Argument.classifyAll left = .ok more ∧
        take u more = .ok t' ∧
        Passes option read (text :: rest) (view t.options) left (view u.options) := by
  by_cases hseparator : text = Text.ofString "--"
  · rw [Argument.classifyAll, if_pos hseparator] at hargs
    cases hargs
    rcases take_operand t .separator (rest.map Argument.operand) rfl with
      ⟨-, u, hu, htaken⟩ | ⟨⟨a, ha, hoption⟩, -⟩
    · rw [htaken] at htake
      cases htake
      rw [hu, hseparator]
      exact .inl ⟨rfl, .separator rest⟩
    · obtain ⟨text', -, rfl⟩ := List.mem_map.1 ha
      cases hoption
  · obtain ⟨a, more, ha, hmore, rfl⟩ := classifyAll_cons hseparator hargs
    have hover : (∀ u use, a = .option u (some use) → use.flag ≠ f) →
        ∀ values, Hands option rest values → Hands option (text :: rest) values :=
      fun hother values => .skip h hseparator ha hother
    cases a with
    | separator => exact (Argument.ne_separator_of_classify ha).elim
    | operand p =>
      rcases take_operand t (.operand p) more rfl with ⟨hall, u, hu, htaken⟩ | ⟨-, u, hu, htaken⟩
      · rw [htaken] at htake
        cases htake
        rw [hu]
        exact .inl ⟨rfl, hover (by nofun) [] (hands_nil_of_operands h hmore hall)⟩
      · rw [htaken] at htake
        rw [← hu]
        exact .inr ⟨rest, more, u, le_rfl, hmore, htake, .without (hover (by nofun))⟩
    | option p found =>
      cases found with
      | none =>
        rw [take] at htake
        exact .inr ⟨rest, more, _, le_rfl, hmore, htake, .without (hover (by nofun))⟩
      | some use =>
        unfold take at htake
        split at htake
        · rename_i value hattached
          obtain ⟨t₁, ht, htake⟩ := Computation.bind_eq_ok.1 htake
          exact .inr ⟨rest, more, t₁, le_rfl, hmore, htake,
            take_attached h hK hseparator ha hattached ht⟩
        · rename_i hattached
          split at htake
          · split at htake
            · rename_i value more'
              obtain ⟨t₁, ht, htake⟩ := Computation.bind_eq_ok.1 htake
              obtain ⟨left, rfl, hvalue, hoperand, hleft⟩ := classifyAll_eq_operand hmore
              exact .inr ⟨left, more', t₁, Nat.le_succ _, hleft, htake,
                take_behind h hK hseparator ha hvalue hoperand hattached ht⟩
            · cases htake
          · rename_i hplain
            obtain ⟨t₁, ht, htake⟩ := Computation.bind_eq_ok.1 htake
            refine .inr ⟨rest, more, t₁, le_rfl, hmore, htake, ?_⟩
            rw [← hK.plain ht]
            refine .without (hover fun u use' heq hflag => ?_)
            cases heq
            rw [hflag] at hplain
            rcases h with ⟨-, rfl⟩ | ⟨-, rfl⟩ <;> exact hplain rfl

/-- As arguments are taken, what is kept of an option is what the last of the values says that they
hand to it. -/
theorem take_hands (h : Valued option f) (hK : Keeps f view read) :
    ∀ (texts : List Text) {args : List Argument} {t t' : Taken},
      Argument.classifyAll texts = .ok args → take t args = .ok t' →
      ∃ values, Hands option texts values ∧ Latest read values (view t.options) (view t'.options)
  | [], args, t, t', hargs, htake => by
    cases hargs
    cases htake
    exact ⟨[], .nil, .nil read _⟩
  | text :: rest, args, t, t', hargs, htake => by
    rcases take_step h hK hargs htake with ⟨hview, hnone⟩ | ⟨left, more, u, hlen, hmore, hleft, hpass⟩
    · rw [hview]
      exact ⟨[], hnone, .nil read _⟩
    · have hdecreases : left.length < (text :: rest).length := Nat.lt_succ_of_le hlen
      exact hpass.hands (take_hands h hK left hmore hleft)
  termination_by texts => texts.length

/-- Accepted arguments keep of an option what the last value says that they hand to it. -/
theorem Keeps.parse (h : Valued option f) (hK : Keeps f view read) {a : Arguments}
    (hparse : parse texts = .ok a) (x : α) :
    view a = some x ↔ ∃ value, Gives option texts value ∧ read value = some x := by
  obtain ⟨args, hargs, hparse⟩ := Computation.bind_eq_ok.1 hparse
  obtain ⟨taken, htake, hparse⟩ := Computation.bind_eq_ok.1 hparse
  obtain ⟨values, hvalues, hlatest⟩ :=
    take_hands h hK texts (Computation.mapError_eq_ok.1 hargs) htake
  have hview : view a = view taken.options := by
    split at hparse
    · cases hparse
    · split at hparse
      · cases hparse
        exact hK.problem _ _
      · cases hparse
  rw [hview, hlatest.eq, hK.first, Option.or_none, Option.bind_eq_some_iff]
  constructor
  · rintro ⟨value, hlast, hread⟩
    exact ⟨value, ⟨values, hvalues, hlast⟩, hread⟩
  · rintro ⟨value, ⟨values', hvalues', hlast⟩, hread⟩
    exact ⟨value, by rwa [hvalues.unique h hvalues'], hread⟩

/-- The engine of accepted arguments is the last that they hand to its option. -/
theorem engine_iff {a : Arguments} (hparse : parse texts = .ok a) (name : Text) :
    a.engine = some name ↔ Gives "--engine" texts name := by
  have hiff := keeps_engine.parse (.inl ⟨rfl, rfl⟩) hparse name
  simpa using hiff

/-- The scaling mode of accepted arguments is the last that they hand to its option. -/
theorem scaling_iff {a : Arguments} (hparse : parse texts = .ok a) (mode : Int) :
    a.scaling = some mode ↔
      ∃ value, Gives "--scaling" texts value ∧ Numeral.integer value = .ok mode := by
  have hiff := keeps_scaling.parse (.inr ⟨rfl, rfl⟩) hparse mode
  simpa [Computation.toOption_eq_some] using hiff

end Arguments

end LinearPrograms
