import LinearPrograms.Json.Reader

/-!
# The limit of nesting

How deeply lists and objects may be nested in what is read is up to the machine, and
`Json.nestingLimit` is an assumption. Nothing else depends on it: what is read within a limit, and
every flaw but too deep a nesting, is the same within any greater limit (`Json.readWithin_of_le`).
-/

namespace LinearPrograms.Json

variable {α β : Type}

/-- The second reading is the first one, unless the limit ended that. -/
def Outlasts (x y : Except Flaw α) : Prop := y = x ∨ ∃ kind, x = .error (.tooNested kind)

namespace Outlasts

theorem refl (x : Except Flaw α) : Outlasts x x := .inl rfl

theorem bind {x y : Except Flaw α} {f g : α → Except Flaw β} (hx : Outlasts x y)
    (hf : ∀ a, Outlasts (f a) (g a)) : Outlasts (x >>= f) (y >>= g) := by
  rcases hx with rfl | ⟨kind, rfl⟩
  · cases y with
    | error flaw => exact refl _
    | ok a => exact hf a
  · exact .inr ⟨kind, rfl⟩

/-- What goes on with a reading is the same for both. -/
theorem map {x y : Except Flaw α} (hx : Outlasts x y) (f : α → Except Flaw β) :
    Outlasts (x >>= f) (y >>= f) := hx.bind fun a => refl (f a)

end Outlasts

section
variable {limit limit' depth fuel : Nat} (h : limit ≤ limit')
include h

/-- One list or object deeper, the greater limit is not reached unless the lesser one is. -/
theorem outlasts_value {c : Cursor}
    (hitems : ∀ before c,
      Outlasts (items limit (depth + 1) fuel before c) (items limit' (depth + 1) fuel before c))
    (hfields : ∀ before c,
      Outlasts (fields limit (depth + 1) fuel before c) (fields limit' (depth + 1) fuel before c)) :
    Outlasts (value limit depth (fuel + 1) c) (value limit' depth (fuel + 1) c) := by
  unfold value
  split
  · exact .refl _
  · by_cases hdepth : limit ≤ depth
    · rw [if_pos hdepth]
      exact .inr ⟨"array", rfl⟩
    · have hdepth' : ¬limit' ≤ depth := by omega
      rw [if_neg hdepth, if_neg hdepth']
      dsimp only
      split
      · exact .refl _
      · exact (hitems _ _).map _
  · by_cases hdepth : limit ≤ depth
    · rw [if_pos hdepth]
      exact .inr ⟨"object", rfl⟩
    · have hdepth' : ¬limit' ≤ depth := by omega
      rw [if_neg hdepth, if_neg hdepth']
      dsimp only
      split
      · exact .refl _
      · exact (hfields _ _).map _
  · exact .refl _

omit h in
theorem outlasts_items {before : List Document} {c : Cursor}
    (hvalue : ∀ c, Outlasts (value limit depth fuel c) (value limit' depth fuel c))
    (hitems : ∀ before c,
      Outlasts (items limit depth fuel before c) (items limit' depth fuel before c)) :
    Outlasts (items limit depth (fuel + 1) before c) (items limit' depth (fuel + 1) before c) := by
  unfold items
  refine (hvalue c).bind fun ⟨item, after⟩ => ?_
  dsimp only
  split
  · exact .refl _
  · exact hitems _ _
  · exact .refl _

omit h in
theorem outlasts_fields {before : List (Text × Document)} {c : Cursor}
    (hvalue : ∀ c, Outlasts (value limit depth fuel c) (value limit' depth fuel c))
    (hfields : ∀ before c,
      Outlasts (fields limit depth fuel before c) (fields limit' depth fuel before c)) :
    Outlasts (fields limit depth (fuel + 1) before c)
      (fields limit' depth (fuel + 1) before c) := by
  unfold fields
  split
  · exact .refl _
  · refine (Outlasts.refl (string c)).bind fun ⟨key, colon⟩ => ?_
    dsimp only
    split
    · exact .refl _
    · refine (hvalue _).bind fun ⟨item, after⟩ => ?_
      dsimp only
      split
      · exact .refl _
      · exact hfields _ _
      · exact .refl _

/-- The three readers call each other with less fuel. -/
theorem outlasts_readers (fuel : Nat) : ∀ depth : Nat,
    (∀ c, Outlasts (value limit depth fuel c) (value limit' depth fuel c)) ∧
    (∀ before c, Outlasts (items limit depth fuel before c) (items limit' depth fuel before c)) ∧
    ∀ before c, Outlasts (fields limit depth fuel before c) (fields limit' depth fuel before c) := by
  induction fuel with
  | zero => exact fun depth => ⟨fun c => .refl _, fun _ c => .refl _, fun _ c => .refl _⟩
  | succ fuel ih =>
    intro depth
    obtain ⟨hvalue, hitems, hfields⟩ := ih depth
    obtain ⟨-, hdeeper, hdeeper'⟩ := ih (depth + 1)
    exact ⟨fun c => outlasts_value h hdeeper hdeeper', fun _ c => outlasts_items hvalue hitems,
      fun _ c => outlasts_fields hvalue hfields⟩

/-- A reading that does not end because of the limit is the same within any greater limit. -/
theorem readWithin_of_le (points : List Nat) :
    readWithin limit' points = readWithin limit points ∨
      ∃ kind, readWithin limit points = .error (.tooNested kind) := by
  show Outlasts (readWithin limit points) (readWithin limit' points)
  unfold readWithin
  split
  · exact .refl _
  · exact ((outlasts_readers h _ 0).1 _).map _

end

end LinearPrograms.Json
